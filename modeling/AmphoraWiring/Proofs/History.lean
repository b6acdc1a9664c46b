import AmphoraWiring.Proofs.Bookkeeping

/-!
What a store of records returns, told from the calls that were made on it since it was empty. Of a
load balancer the last put counts. An amphora goes back to the last put that lists it, and is gone
once the load balancer of that put has been put again. A binding stands from its creation to its
deletion. Calls that fail have no part in this. The statements are of any store, in whatever it
keeps the records; here they are proved of the repository.
-/
namespace AmphoraWiring.Repository

open Action

/-- A call that is made to change the records. -/
inductive Change where
  | putLoadBalancer (lb : LoadBalancer)
  | updateAmphoraPorts (id : String) (vrrpPortId haPortId : Option String)
  | createMemberPort (binding : MemberPortBinding)
  | deleteMemberPort (portId : String)
deriving DecidableEq

namespace Change

def call : Change → Call Unit
  | .putLoadBalancer lb => Repository.putLoadBalancer lb
  | .updateAmphoraPorts id vrrpPortId haPortId =>
    Repository.updateAmphoraPorts id vrrpPortId haPortId
  | .createMemberPort binding => Repository.createMemberPort binding
  | .deleteMemberPort portId => Repository.deleteMemberPort portId

/-- The load balancer that is put. -/
def put? : Change → Option LoadBalancer
  | .putLoadBalancer lb => some lb
  | _ => none

/-- What the call makes of an amphora while its load balancer is not put. -/
def port (a : Amphora) : Change → Amphora
  | .updateAmphoraPorts id vrrpPortId haPortId =>
    if id = a.id then { a with vrrpPortId, haPortId } else a
  | _ => a

end Change

/-- What the calls leave, passed or failed. -/
def after (r : Repository) (changes : List Change) : Repository :=
  changes.foldl (fun r c => (c.call.runOn r).2) r

/-- The calls of a store of records. -/
structure Methods (σ : Type) where
  getLoadBalancer : String → Action StoreError σ LoadBalancer
  getAmphora : String → Action StoreError σ Amphora
  getMemberPortIds : String → Action StoreError σ (List String)
  change : Change → Action StoreError σ Unit

namespace Methods

variable {σ : Type}

def after (m : Methods σ) (s : σ) (changes : List Change) : σ :=
  changes.foldl (fun s c => ((m.change c).runOn s).2) s

/-- The calls that pass, one after the other. -/
def passing (m : Methods σ) (s : σ) : List Change → List Change
  | [] => []
  | c :: rest =>
    match (m.change c).runOn s with
    | (.ok (), s') => c :: m.passing s' rest
    | (.error _, s') => m.passing s' rest

end Methods

def methods : Methods Repository where
  getLoadBalancer := getLoadBalancer
  getAmphora := getAmphora
  getMemberPortIds := getMemberPortIds
  change := Change.call

/-! A history told from its changes alone -/

/-- The last load balancer that was put under the id. -/
def lastPut (id : String) (changes : List Change) : Option LoadBalancer :=
  ((changes.filterMap Change.put?).filter fun lb => lb.id = id).getLast?

/-- The entry that counts where a load balancer lists an amphora more than once. -/
def listed? (lb : LoadBalancer) (id : String) : Option Amphora :=
  (lb.amphorae.filter fun a => a.id = id).getLast?

/-- The amphora goes back to an entry of `lb`, which was put before the `later` changes: no later
put lists the amphora, none is of the same load balancer, and but for its owner and the ports of
later updates the amphora is as the entry says. -/
structure Dates (changes : List Change) (a : Amphora) (lb : LoadBalancer) (entry : Amphora)
    (later : List Change) : Prop where
  put : ∃ before, changes = before ++ .putLoadBalancer lb :: later
  listed : listed? lb a.id = some entry
  last : ∀ other, .putLoadBalancer other ∈ later → listed? other a.id = none
  owned : ∀ other, .putLoadBalancer other ∈ later → other.id ≠ lb.id
  record : a = later.foldl Change.port { entry with loadBalancerId := some lb.id }

/-- The history leaves this record of an amphora. -/
def Keeps (changes : List Change) (a : Amphora) : Prop :=
  ∃ lb entry later, Dates changes a lb entry later

/-- The bindings that are created and not deleted later, in the order of their creation. -/
def standing : List Change → List MemberPortBinding
  | [] => []
  | .createMemberPort b :: later =>
    if .deleteMemberPort b.portId ∈ later then standing later else b :: standing later
  | _ :: later => standing later

/-- The call has to fail after the history, of which some changes `passed`, with this error. -/
inductive Refused (changes passed : List Change) : Change → StoreError → Prop where
  | amphora {id : String} (vrrpPortId haPortId : Option String)
      (h : ∀ a, Keeps changes a → a.id ≠ id) :
      Refused changes passed (.updateAmphoraPorts id vrrpPortId haPortId)
        (.notFound ("amphora " ++ id))
  | duplicate {b : MemberPortBinding}
      (h : ∃ earlier ∈ standing passed, earlier.portId = b.portId) :
      Refused changes passed (.createMemberPort b) (.database (.refused .duplicateMemberPort))
  | port {portId : String} (h : ∀ b ∈ standing passed, b.portId ≠ portId) :
      Refused changes passed (.deleteMemberPort portId) (.notFound ("member port " ++ portId))

/-- After the history the store answers as the history says, and a call that it refuses could as
well not have been made. -/
structure Answers {σ : Type} (m : Methods σ) (start : σ) (changes : List Change) : Prop where
  loadBalancer : ∀ {id lb}, lastPut id changes = some lb → ∃ amphorae : List Amphora,
    (m.getLoadBalancer id).runOn (m.after start changes) =
        (.ok { lb with amphorae }, m.after start changes) ∧
      amphorae.Pairwise (fun a b => a.id < b.id) ∧
      ∀ a, a ∈ amphorae ↔ Keeps changes a ∧ a.loadBalancerId = some id
  noLoadBalancer : ∀ {id}, lastPut id changes = none →
    (m.getLoadBalancer id).runOn (m.after start changes) =
      (.error (.notFound ("load balancer " ++ id)), m.after start changes)
  amphora : ∀ {a}, Keeps changes a →
    (m.getAmphora a.id).runOn (m.after start changes) = (.ok a, m.after start changes)
  noAmphora : ∀ {id}, (∀ a, Keeps changes a → a.id ≠ id) →
    (m.getAmphora id).runOn (m.after start changes) =
      (.error (.notFound ("amphora " ++ id)), m.after start changes)
  memberPortIds : ∀ amphoraId, (m.getMemberPortIds amphoraId).runOn (m.after start changes) =
    (.ok (((standing (m.passing start changes)).filter fun b => b.amphoraId = amphoraId).map
      (·.portId)), m.after start changes)
  refused : ∀ {c e}, Refused changes (m.passing start changes) c e →
    (m.change c).runOn (m.after start changes) = (.error e, m.after start changes) ∧
      ∀ later, m.after start (changes ++ c :: later) = m.after start (changes ++ later)
  passed : ∀ {c}, (∀ e, ¬ Refused changes (m.passing start changes) c e) →
    ∃ s, (m.change c).runOn (m.after start changes) = (.ok (), s)

namespace Methods

variable {σ : Type} {m : Methods σ} {s : σ} {changes : List Change}

theorem after_append (m : Methods σ) (s : σ) (changes later : List Change) :
    m.after s (changes ++ later) = m.after (m.after s changes) later :=
  List.foldl_append

/-- A call that changes nothing could as well not have been made. -/
theorem after_skip {c : Change} (h : ((m.change c).runOn (m.after s changes)).2 =
    m.after s changes) (later : List Change) :
    m.after s (changes ++ c :: later) = m.after s (changes ++ later) := by
  rw [List.append_cons, after_append, after_append, after_append _ _ changes later]
  change m.after ((m.change c).runOn (m.after s changes)).2 later = _
  rw [h]

/-- Which of the later calls pass depends on what the earlier ones leave. -/
theorem passing_append (m : Methods σ) (s : σ) (changes later : List Change) :
    m.passing s (changes ++ later) =
      m.passing s changes ++ m.passing (m.after s changes) later := by
  induction changes generalizing s with
  | nil => rfl
  | cons first rest ih =>
    have hafter : m.after s (first :: rest) = m.after ((m.change first).runOn s).2 rest := rfl
    simp only [List.cons_append, passing, hafter]
    split
    next s' h => rw [h, ih, List.cons_append]
    next e s' h => rw [h, ih]

theorem passing_concat_of_ok (c : Change) {t : σ}
    (h : (m.change c).runOn (m.after s changes) = (.ok (), t)) :
    m.passing s (changes ++ [c]) = m.passing s changes ++ [c] := by
  simp only [passing_append, passing, h]

theorem passing_concat_of_error (c : Change) {e : StoreError} {t : σ}
    (h : (m.change c).runOn (m.after s changes) = (.error e, t)) :
    m.passing s (changes ++ [c]) = m.passing s changes := by
  simp only [passing_append, passing, h, List.append_nil]

end Methods

variable {r : Repository} {changes : List Change} {a : Amphora}

theorem after_concat (r : Repository) (changes : List Change) (c : Change) :
    r.after (changes ++ [c]) = (c.call.runOn (r.after changes)).2 :=
  methods.after_append r changes [c]

/-! One call on a repository where no outcome is scripted -/

/-- Nothing stands between such a call and its work. -/
theorem runOn_call (hr : r.script = []) (call : RepositoryCall) (rest : Call α) :
    Action.runOn (do begin call; rest) r = rest.runOn r := by
  have hbegin : (begin call).runOn r = (.ok (), r) := by
    cases r
    cases hr
    rfl
  rw [runOn_bind, hbegin]

theorem runOn_get (rest : Repository → Call α) (r : Repository) :
    Action.runOn (do rest (← get)) r = (rest r).runOn r := rfl

/-- The record that is stored, with the amphorae that name it. -/
theorem runOn_getLoadBalancer (hr : r.script = []) (id : String) :
    (getLoadBalancer id).runOn r =
      match r.loadBalancers.get? id with
      | none => (.error (.notFound ("load balancer " ++ id)), r)
      | some lb => (.ok { lb with amphorae := r.amphoraeOf id }, r) := by
  refine (runOn_call hr _ _).trans ?_
  rw [runOn_get, runOn_bind]
  cases r.loadBalancers.get? id <;> rfl

theorem runOn_amphoraById (id : String) (r : Repository) :
    (amphoraById id).runOn r =
      match r.amphorae.get? id with
      | none => (.error (.notFound ("amphora " ++ id)), r)
      | some a => (.ok a, r) := by
  unfold amphoraById
  rw [runOn_get]
  cases r.amphorae.get? id <;> rfl

theorem runOn_getAmphora (hr : r.script = []) (id : String) :
    (getAmphora id).runOn r =
      match r.amphorae.get? id with
      | none => (.error (.notFound ("amphora " ++ id)), r)
      | some a => (.ok a, r) :=
  (runOn_call hr _ _).trans (runOn_amphoraById id r)

/-- The bindings of the amphora, in the order of their creation. -/
theorem runOn_getMemberPortIds (hr : r.script = []) (amphoraId : String) :
    (getMemberPortIds amphoraId).runOn r =
      (.ok ((r.bindings.filter fun b => b.amphoraId = amphoraId).map (·.portId)), r) :=
  (runOn_call hr _ _).trans rfl

theorem runOn_putLoadBalancer (hr : r.script = []) (lb : LoadBalancer) :
    (putLoadBalancer lb).runOn r = (.ok (), r.store lb) :=
  (runOn_call hr _ _).trans rfl

theorem runOn_updateAmphoraPorts (hr : r.script = []) (id : String)
    (vrrpPortId haPortId : Option String) :
    (updateAmphoraPorts id vrrpPortId haPortId).runOn r =
      match r.amphorae.get? id with
      | none => (.error (.notFound ("amphora " ++ id)), r)
      | some a => (.ok (), r.putAmphora id { a with vrrpPortId, haPortId }) := by
  refine (runOn_call hr _ _).trans ?_
  rw [runOn_bind, runOn_amphoraById]
  cases r.amphorae.get? id <;> rfl

/-- A port has one binding at most. -/
theorem runOn_createMemberPort (hr : r.script = []) (b : MemberPortBinding) :
    (createMemberPort b).runOn r =
      if r.bindings.any fun other => other.portId = b.portId then
        (.error (.database (.refused .duplicateMemberPort)), r)
      else (.ok (), r.addBinding b) := by
  refine (runOn_call hr _ _).trans ?_
  rw [runOn_get]
  split <;> rfl

theorem runOn_deleteMemberPort (hr : r.script = []) (portId : String) :
    (deleteMemberPort portId).runOn r =
      if !r.bindings.any fun b => b.portId = portId then
        (.error (.notFound ("member port " ++ portId)), r)
      else (.ok (), r.dropBinding portId) := by
  refine (runOn_call hr _ _).trans ?_
  rw [runOn_get]
  split <;> rfl

/-- One call on such a repository: it takes place or leaves the repository as it is. -/
theorem runOn_change (hr : r.script = []) (c : Change) :
    (∃ e, c.call.runOn r = (.error e, r)) ∨
      ∃ r', c.call.runOn r = (.ok (), r') ∧ r'.script = [] := by
  cases c with
  | putLoadBalancer lb => exact .inr ⟨_, runOn_putLoadBalancer hr lb, hr⟩
  | updateAmphoraPorts id vrrpPortId haPortId =>
    simp only [Change.call, runOn_updateAmphoraPorts hr]
    split
    next => exact .inl ⟨_, rfl⟩
    next => exact .inr ⟨_, rfl, hr⟩
  | createMemberPort b =>
    simp only [Change.call, runOn_createMemberPort hr]
    split
    next => exact .inl ⟨_, rfl⟩
    next => exact .inr ⟨_, rfl, hr⟩
  | deleteMemberPort portId =>
    simp only [Change.call, runOn_deleteMemberPort hr]
    split
    next => exact .inl ⟨_, rfl⟩
    next => exact .inr ⟨_, rfl, hr⟩

/-- No call puts an outcome into the script. -/
theorem script_after (hr : r.script = []) (changes : List Change) :
    (r.after changes).script = [] := by
  induction changes generalizing r with
  | nil => exact hr
  | cons c rest ih =>
    change ((c.call.runOn r).2.after rest).script = []
    rcases runOn_change hr c with ⟨e, h⟩ | ⟨r', h, hr'⟩
    · rw [h]
      exact ih hr
    · rw [h]
      exact ih hr'

/-! Load balancers -/

/-- One more call counts as the last put if it puts a load balancer under the id. -/
theorem lastPut_concat (id : String) (changes : List Change) (c : Change) :
    lastPut id (changes ++ [c]) =
      ((c.put?.filter fun lb => lb.id = id).or (lastPut id changes)) := by
  cases hput : c.put? with
  | none => simp [lastPut, hput]
  | some lb => by_cases hid : lb.id = id <;> simp [lastPut, hput, hid, Option.filter]

/-- Only a put touches the load balancers. -/
theorem loadBalancers_of_put?_eq_none (hr : r.script = []) {c : Change} (hput : c.put? = none) :
    (c.call.runOn r).2.loadBalancers = r.loadBalancers := by
  cases c with
  | putLoadBalancer lb => cases hput
  | updateAmphoraPorts id vrrpPortId haPortId =>
    rw [Change.call, runOn_updateAmphoraPorts hr]
    split <;> rfl
  | createMemberPort b =>
    rw [Change.call, runOn_createMemberPort hr]
    split <;> rfl
  | deleteMemberPort portId =>
    rw [Change.call, runOn_deleteMemberPort hr]
    split <;> rfl

theorem eq_putLoadBalancer_of_put? {c : Change} {lb : LoadBalancer} (hput : c.put? = some lb) :
    c = .putLoadBalancer lb := by
  cases c <;> cases hput
  rfl

/-- The last put under an id is what is stored there. -/
theorem loadBalancers_after (changes : List Change) (id : String) :
    (after {} changes).loadBalancers.get? id =
      (lastPut id changes).map fun lb => { lb with amphorae := [] } := by
  induction changes using List.reverseRecOn with
  | nil => rfl
  | append_singleton changes c ih =>
    have hscript : (after {} changes).script = [] := script_after rfl changes
    rw [after_concat, lastPut_concat]
    cases hput : c.put? with
    | none =>
      rw [loadBalancers_of_put?_eq_none hscript hput, ih]
      rfl
    | some lb =>
      rw [eq_putLoadBalancer_of_put? hput, Change.call, runOn_putLoadBalancer hscript]
      change ((after {} changes).loadBalancers.insert lb.id { lb with amphorae := [] }).get? id = _
      rw [IdMap.get?_insert, ih]
      by_cases hid : lb.id = id
      · simp [Option.filter, hid]
      · simp [Option.filter, hid, Ne.symm hid]

/-! Amphorae -/

theorem Change.port_id (a : Amphora) (c : Change) : (port a c).id = a.id := by
  unfold Change.port
  split
  · split <;> rfl
  · rfl

theorem Change.port_loadBalancerId (a : Amphora) (c : Change) :
    (port a c).loadBalancerId = a.loadBalancerId := by
  unfold Change.port
  split
  · split <;> rfl
  · rfl

theorem foldl_port_loadBalancerId (a : Amphora) (later : List Change) :
    (later.foldl Change.port a).loadBalancerId = a.loadBalancerId := by
  induction later generalizing a with
  | nil => rfl
  | cons c rest ih => rw [List.foldl_cons, ih, Change.port_loadBalancerId]

/-- The owner goes back to the put that lists the amphora, and updates leave it alone. -/
theorem Dates.owner {lb : LoadBalancer} {entry : Amphora} {later : List Change}
    (h : Dates changes a lb entry later) : a.loadBalancerId = some lb.id := by
  rw [h.record, foldl_port_loadBalancerId]

/-- One more call keeps where an amphora goes back to, unless it puts its owner or lists it. -/
theorem Dates.concat {lb : LoadBalancer} {entry : Amphora} {later : List Change} {c : Change}
    (h : Dates changes a lb entry later)
    (hput : ∀ other, c = .putLoadBalancer other → listed? other a.id = none ∧ other.id ≠ lb.id) :
    Dates (changes ++ [c]) (Change.port a c) lb entry (later ++ [c]) := by
  obtain ⟨before, rfl⟩ := h.put
  constructor
  case put => exact ⟨before, by simp⟩
  case listed =>
    rw [Change.port_id]
    exact h.listed
  case last =>
    intro other hother
    rw [Change.port_id]
    rcases List.mem_append.mp hother with hother | hother
    · exact h.last other hother
    · exact (hput other (List.mem_singleton.mp hother).symm).1
  case owned =>
    intro other hother
    rcases List.mem_append.mp hother with hother | hother
    · exact h.owned other hother
    · exact (hput other (List.mem_singleton.mp hother).symm).2
  case record =>
    rw [List.foldl_append, ← h.record]
    rfl

/-- What an amphora goes back to was there before the last call, unless that call put it. -/
theorem Dates.of_concat {lb : LoadBalancer} {entry : Amphora} {later : List Change}
    {c c' : Change} (h : Dates (changes ++ [c]) a lb entry (later ++ [c'])) :
    c' = c ∧ ∃ a', a = Change.port a' c ∧ Dates changes a' lb entry later := by
  obtain ⟨before, hput⟩ := h.put
  rw [← List.cons_append, ← List.append_assoc] at hput
  obtain ⟨rfl, hc⟩ := List.append_inj' hput rfl
  cases hc
  have hrecord := h.record
  rw [List.foldl_append] at hrecord
  have hid : a.id = (later.foldl Change.port { entry with loadBalancerId := some lb.id }).id :=
    (congrArg Amphora.id hrecord).trans (Change.port_id _ _)
  refine ⟨rfl, _, hrecord, ⟨before, rfl⟩, hid ▸ h.listed, ?_, ?_, rfl⟩
  · intro other hother
    exact hid ▸ h.last other (List.mem_append_left _ hother)
  · intro other hother
    exact h.owned other (List.mem_append_left _ hother)

/-- A record left by a history with one more call is put by this call, or it was left before: then
no put takes it away, and the call may have changed its ports. -/
theorem keeps_concat (changes : List Change) (c : Change) (a : Amphora) :
    Keeps (changes ++ [c]) a ↔
      (∃ lb entry, c = .putLoadBalancer lb ∧ listed? lb a.id = some entry ∧
        a = { entry with loadBalancerId := some lb.id }) ∨
      ∃ a', Keeps changes a' ∧ a = Change.port a' c ∧ ∀ lb, c = .putLoadBalancer lb →
        listed? lb a.id = none ∧ a.loadBalancerId ≠ some lb.id := by
  constructor
  · intro h
    obtain ⟨lb, entry, later, hdates⟩ := h
    rcases List.eq_nil_or_concat' later with rfl | ⟨later, last, rfl⟩
    · obtain ⟨before, hput⟩ := hdates.put
      obtain ⟨rfl, hc⟩ := List.append_inj' hput rfl
      cases hc
      exact .inl ⟨lb, entry, rfl, hdates.listed, hdates.record⟩
    · obtain ⟨rfl, a', hrecord, hdates'⟩ := hdates.of_concat
      refine .inr ⟨a', ⟨lb, entry, later, hdates'⟩, hrecord, fun other hother => ?_⟩
      have hmem : .putLoadBalancer other ∈ later ++ [last] := by simp [hother]
      refine ⟨hdates.last other hmem, fun howner => hdates.owned other hmem ?_⟩
      rw [hdates.owner] at howner
      exact (Option.some.inj howner).symm
  · intro h
    rcases h with ⟨lb, entry, rfl, hlisted, hrecord⟩ | ⟨a', ⟨lb, entry, later, hdates⟩, rfl, hput⟩
    · refine ⟨lb, entry, [], ⟨changes, rfl⟩, hlisted, ?_, ?_, hrecord⟩
      · intro other hother
        cases hother
      · intro other hother
        cases hother
    · rw [Change.port_id, Change.port_loadBalancerId, hdates.owner] at hput
      refine ⟨lb, entry, later ++ [c], hdates.concat fun other hother => ?_⟩
      obtain ⟨hnone, howner⟩ := hput other hother
      exact ⟨hnone, fun hid => howner (congrArg some hid.symm)⟩

/-- Of several entries with one id the last is adopted. -/
theorem get?_foldl_adopt_last (loadBalancerId : String) (l : List Amphora) (m : IdMap Amphora)
    (id : String) : (l.foldl (adopt loadBalancerId) m).get? id =
      (((l.filter fun a => a.id = id).getLast?).map fun a =>
        { a with loadBalancerId := some loadBalancerId }).or (m.get? id) := by
  induction l using List.reverseRecOn with
  | nil => rfl
  | append_singleton l a ih =>
    rw [List.foldl_append, List.foldl_cons, List.foldl_nil, get?_adopt, ih, List.filter_append]
    by_cases hid : a.id = id
    · simp [hid]
    · simp [hid, Ne.symm hid]

/-- A put decides on what it lists, and on what belonged to the load balancer before. -/
theorem get?_store (r : Repository) (lb : LoadBalancer) (id : String) :
    (r.store lb).amphorae.get? id =
      ((listed? lb id).map fun a => { a with loadBalancerId := some lb.id }).or
        ((r.amphorae.get? id).filter fun a => a.loadBalancerId ≠ some lb.id) := by
  unfold store
  rw [get?_foldl_adopt_last, IdMap.get?_filter, listed?]

/-- A call that puts no load balancer changes the ports of an amphora at most. -/
theorem get?_of_put?_eq_none (hr : r.script = []) (hkeyed : r.Keyed) {c : Change}
    (hput : c.put? = none) (id : String) : (c.call.runOn r).2.amphorae.get? id =
      (r.amphorae.get? id).map fun a => Change.port a c := by
  have hsame {m : IdMap Amphora} (h : ∀ a, Change.port a c = a) :
      m.get? id = (m.get? id).map fun a => Change.port a c := by simp [h]
  cases c with
  | putLoadBalancer lb => cases hput
  | updateAmphoraPorts updated vrrpPortId haPortId =>
    rw [Change.call, runOn_updateAmphoraPorts hr]
    split
    next hnone =>
      cases hget : r.amphorae.get? id with
      | none => rfl
      | some a =>
        have hother : updated ≠ a.id := by
          intro heq
          rw [heq, hkeyed.amphorae hget, hget] at hnone
          cases hnone
        simp [Change.port, hother]
    next stored hstored =>
      change (r.amphorae.insert updated _).get? id = _
      rw [IdMap.get?_insert]
      split
      next heq => simp [heq, hstored, Change.port, hkeyed.amphorae hstored]
      next hne =>
        cases hget : r.amphorae.get? id with
        | none => rfl
        | some a => simp [Change.port, hkeyed.amphorae hget, Ne.symm hne]
  | createMemberPort b =>
    rw [Change.call, runOn_createMemberPort hr]
    split <;> exact hsame fun _ => rfl
  | deleteMemberPort portId =>
    rw [Change.call, runOn_deleteMemberPort hr]
    split <;> exact hsame fun _ => rfl

/-- Every record is stored under its own id at all times. -/
theorem keyed_after (changes : List Change) : (after {} changes).Keyed := by
  induction changes using List.reverseRecOn with
  | nil => exact keyed_empty
  | append_singleton changes c ih =>
    have hscript : (after {} changes).script = [] := script_after rfl changes
    rw [after_concat]
    cases hput : c.put? with
    | some lb =>
      rw [eq_putLoadBalancer_of_put? hput, Change.call, runOn_putLoadBalancer hscript]
      exact ih.store lb
    | none =>
      constructor
      · intro id lb h
        rw [loadBalancers_of_put?_eq_none hscript hput] at h
        exact ih.loadBalancers h
      · intro id a h
        rw [get?_of_put?_eq_none hscript ih hput, Option.map_eq_some_iff] at h
        obtain ⟨stored, hget, rfl⟩ := h
        exact (Change.port_id stored c).trans (ih.amphorae hget)

/-- The stored amphorae are those that the history leaves. -/
theorem amphorae_after (changes : List Change) (a : Amphora) :
    (after {} changes).amphorae.get? a.id = some a ↔ Keeps changes a := by
  induction changes using List.reverseRecOn generalizing a with
  | nil =>
    constructor
    · intro h
      cases h
    · intro h
      obtain ⟨lb, entry, later, hdates⟩ := h
      obtain ⟨before, hput⟩ := hdates.put
      simp at hput
  | append_singleton changes c ih =>
    have hscript : (after {} changes).script = [] := script_after rfl changes
    have hkeyed := keyed_after changes
    rw [after_concat, keeps_concat]
    cases hput : c.put? with
    | some lb =>
      obtain rfl := eq_putLoadBalancer_of_put? hput
      rw [Change.call, runOn_putLoadBalancer hscript, get?_store]
      cases hentry : listed? lb a.id with
      | none => simp [Option.filter_eq_some_iff, ih, Change.port, hentry]
      | some entry => simp [hentry, eq_comm]
    | none =>
      rw [get?_of_put?_eq_none hscript hkeyed hput, Option.map_eq_some_iff]
      have hnot : ∀ lb, c ≠ .putLoadBalancer lb := by
        intro lb hc
        rw [hc] at hput
        cases hput
      constructor
      · intro h
        obtain ⟨stored, hget, rfl⟩ := h
        rw [Change.port_id] at hget
        exact .inr ⟨stored, (ih stored).mp hget, rfl, fun lb hc => absurd hc (hnot lb)⟩
      · intro h
        rcases h with ⟨lb, entry, hc, -⟩ | ⟨stored, hkeeps, rfl, -⟩
        · exact absurd hc (hnot lb)
        · exact ⟨stored, by rw [Change.port_id]; exact (ih stored).mpr hkeeps, rfl⟩

/-- The amphorae of a load balancer are listed in the order of their ids. -/
theorem Keyed.amphoraeOf_ascending (hkeyed : r.Keyed) (id : String) :
    (r.amphoraeOf id).Pairwise fun a b => a.id < b.id := by
  have hids : ∀ e ∈ r.amphorae.entries, e.2.id = e.1 := by
    intro e he
    exact hkeyed.amphorae (IdMap.mem_entries_iff.mp he)
  refine List.Pairwise.sublist List.filter_sublist (List.pairwise_map.mpr ?_)
  refine r.amphorae.ascending.imp_of_mem fun {a b} ha hb hlt => ?_
  rwa [hids a ha, hids b hb]

theorem mem_amphoraeOf_after {id : String} :
    a ∈ (after {} changes).amphoraeOf id ↔ Keeps changes a ∧ a.loadBalancerId = some id := by
  rw [mem_amphoraeOf, ← amphorae_after]
  refine and_congr_left fun _ => ⟨fun h => ?_, fun h => ⟨_, h⟩⟩
  obtain ⟨k, hget⟩ := h
  rwa [(keyed_after changes).amphorae hget]

/-! Bindings -/

theorem standing_createMemberPort (changes : List Change) (b : MemberPortBinding) :
    standing (changes ++ [.createMemberPort b]) = standing changes ++ [b] := by
  induction changes with
  | nil => rfl
  | cons c rest ih =>
    cases c with
    | createMemberPort earlier =>
      by_cases hdel : .deleteMemberPort earlier.portId ∈ rest <;> simp [standing, ih, hdel]
    | putLoadBalancer lb => exact ih
    | updateAmphoraPorts id vrrpPortId haPortId => exact ih
    | deleteMemberPort portId => exact ih

/-- A deletion ends what stands of the port, and nothing else. -/
theorem standing_deleteMemberPort (changes : List Change) (portId : String) :
    standing (changes ++ [.deleteMemberPort portId]) =
      (standing changes).filter fun b => b.portId ≠ portId := by
  induction changes with
  | nil => rfl
  | cons c rest ih =>
    cases c with
    | createMemberPort b =>
      by_cases hdel : .deleteMemberPort b.portId ∈ rest
      · simp [standing, ih, hdel]
      · by_cases hport : b.portId = portId
        · subst hport
          simp [standing, ih, hdel]
        · simp [standing, ih, hdel, hport]
    | putLoadBalancer lb => exact ih
    | updateAmphoraPorts id vrrpPortId haPortId => exact ih
    | deleteMemberPort other => exact ih

theorem standing_concat {c : Change} (hcreate : ∀ b, c ≠ .createMemberPort b)
    (hdelete : ∀ portId, c ≠ .deleteMemberPort portId) (changes : List Change) :
    standing (changes ++ [c]) = standing changes := by
  induction changes with
  | nil =>
    cases c with
    | createMemberPort b => exact absurd rfl (hcreate b)
    | _ => rfl
  | cons first rest ih =>
    cases first with
    | createMemberPort b => simp [standing, ih, Ne.symm (hdelete b.portId)]
    | putLoadBalancer lb => exact ih
    | updateAmphoraPorts id vrrpPortId haPortId => exact ih
    | deleteMemberPort portId => exact ih

/-- Of the calls that passed, those whose bindings stand are the records. -/
theorem bindings_after (changes : List Change) :
    (after {} changes).bindings = standing (methods.passing {} changes) := by
  induction changes using List.reverseRecOn with
  | nil => rfl
  | append_singleton changes c ih =>
    have hscript : (after {} changes).script = [] := script_after rfl changes
    have hpassed {r' : Repository} (hrun : c.call.runOn (after {} changes) = (.ok (), r')) :
        methods.passing {} (changes ++ [c]) = methods.passing {} changes ++ [c] :=
      methods.passing_concat_of_ok c hrun
    have hfailed {e : StoreError} {r' : Repository}
        (hrun : c.call.runOn (after {} changes) = (.error e, r')) :
        methods.passing {} (changes ++ [c]) = methods.passing {} changes :=
      methods.passing_concat_of_error c hrun
    rw [after_concat]
    cases c with
    | putLoadBalancer lb =>
      have hrun := runOn_putLoadBalancer hscript lb
      rw [hpassed hrun, standing_concat (by simp) (by simp), ← ih, Change.call, hrun]
      rfl
    | updateAmphoraPorts id vrrpPortId haPortId =>
      have hrun := runOn_updateAmphoraPorts hscript id vrrpPortId haPortId
      split at hrun
      next => rw [hfailed hrun, ← ih, Change.call, hrun]
      next =>
        rw [hpassed hrun, standing_concat (by simp) (by simp), ← ih, Change.call, hrun]
        rfl
    | createMemberPort b =>
      have hrun := runOn_createMemberPort hscript b
      split at hrun
      next => rw [hfailed hrun, ← ih, Change.call, hrun]
      next =>
        rw [hpassed hrun, standing_createMemberPort, ← ih, Change.call, hrun]
        rfl
    | deleteMemberPort portId =>
      have hrun := runOn_deleteMemberPort hscript portId
      split at hrun
      next => rw [hfailed hrun, ← ih, Change.call, hrun]
      next =>
        rw [hpassed hrun, standing_deleteMemberPort, ← ih, Change.call, hrun]
        rfl

/-! What is returned -/

/-- What the history does not keep is not stored. -/
theorem absent_after_iff {id : String} :
    (∀ a, Keeps changes a → a.id ≠ id) ↔ (after {} changes).amphorae.get? id = none := by
  constructor
  · intro h
    cases hget : (after {} changes).amphorae.get? id with
    | none => rfl
    | some a =>
      have hid := (keyed_after changes).amphorae hget
      subst hid
      exact absurd rfl (h a ((amphorae_after changes a).mp hget))
  · intro h a hkeeps hid
    rw [← hid, (amphorae_after changes a).mpr hkeeps] at h
    cases h

/-- A call that the history refuses fails with the reason and leaves the records alone. -/
theorem runOn_of_refused {c : Change} {e : StoreError}
    (h : Refused changes (methods.passing {} changes) c e) :
    c.call.runOn (after {} changes) = (.error e, after {} changes) := by
  have hscript : (after {} changes).script = [] := script_after rfl changes
  cases h with
  | amphora vrrpPortId haPortId h =>
    rw [Change.call, runOn_updateAmphoraPorts hscript, absent_after_iff.mp h]
  | duplicate h =>
    rw [← bindings_after] at h
    rw [Change.call, runOn_createMemberPort hscript, if_pos (by simpa using h)]
  | port h =>
    rw [← bindings_after] at h
    rw [Change.call, runOn_deleteMemberPort hscript, if_pos (by simpa using h)]

/-- A call is refused for the reasons given and for no other. -/
theorem runOn_of_not_refused {c : Change}
    (h : ∀ e, ¬ Refused changes (methods.passing {} changes) c e) :
    ∃ r, c.call.runOn (after {} changes) = (.ok (), r) := by
  have hscript : (after {} changes).script = [] := script_after rfl changes
  cases c with
  | putLoadBalancer lb => exact ⟨_, runOn_putLoadBalancer hscript lb⟩
  | updateAmphoraPorts id vrrpPortId haPortId =>
    rw [Change.call, runOn_updateAmphoraPorts hscript]
    split
    next hnone => exact absurd (.amphora _ _ (absent_after_iff.mpr hnone)) (h _)
    next => exact ⟨_, rfl⟩
  | createMemberPort b =>
    rw [Change.call, runOn_createMemberPort hscript]
    split
    next hany =>
      rw [bindings_after] at hany
      exact absurd (.duplicate (by simpa using hany)) (h _)
    next => exact ⟨_, rfl⟩
  | deleteMemberPort portId =>
    rw [Change.call, runOn_deleteMemberPort hscript]
    split
    next hany =>
      rw [bindings_after] at hany
      exact absurd (.port (by simpa using hany)) (h _)
    next => exact ⟨_, rfl⟩

/-- Whatever calls are made on a new repository, it returns what their history says. -/
theorem answers_after (changes : List Change) : Answers methods {} changes := by
  have hscript : (after {} changes).script = [] := script_after rfl changes
  constructor
  case loadBalancer =>
    intro id lb hput
    refine ⟨_, (runOn_getLoadBalancer hscript id).trans ?_,
      (keyed_after changes).amphoraeOf_ascending id, fun a => mem_amphoraeOf_after⟩
    rw [loadBalancers_after, hput]
    rfl
  case noLoadBalancer =>
    intro id hput
    refine (runOn_getLoadBalancer hscript id).trans ?_
    rw [loadBalancers_after, hput]
    rfl
  case amphora =>
    intro a hkeeps
    refine (runOn_getAmphora hscript a.id).trans ?_
    rw [(amphorae_after changes a).mpr hkeeps]
    rfl
  case noAmphora =>
    intro id hnone
    refine (runOn_getAmphora hscript id).trans ?_
    rw [absent_after_iff.mp hnone]
    rfl
  case memberPortIds =>
    intro amphoraId
    refine (runOn_getMemberPortIds hscript amphoraId).trans ?_
    rw [bindings_after]
    rfl
  case refused =>
    intro c e h
    have hrun := runOn_of_refused h
    exact ⟨hrun, methods.after_skip (congrArg Prod.snd hrun)⟩
  case passed => exact runOn_of_not_refused

example :
    let changes : List Change :=
      [.createMemberPort ⟨"amp-1", "port-1", "net"⟩, .createMemberPort ⟨"amp-2", "port-1", "net"⟩,
       .createMemberPort ⟨"amp-1", "port-2", "net"⟩, .deleteMemberPort "port-1"]
    ((getMemberPortIds "amp-1").runOn (after {} changes)).1 = .ok ["port-2"] := by decide

end AmphoraWiring.Repository
