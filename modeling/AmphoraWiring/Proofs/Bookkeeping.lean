import AmphoraWiring.Proofs.Endings
import AmphoraWiring.Proofs.Listing

/-!
What each call does to the repository. A call takes its outcome from the script and otherwise
changes the records as a whole or not at all. Where no failure is scripted, a call fails only for
the reason given with it.
-/
namespace AmphoraWiring.Repository

open Action

/-- No call is going to fail because the script says so. -/
def Harmless (r : Repository) : Prop := ∀ o ∈ r.script, o.failure = none

/-- `r'` has the records of `r`; calls may have taken outcomes from the script. -/
def Heard (r r' : Repository) : Prop :=
  ∃ script, r' = { r with script } ∧ script.Sublist r.script

/-- The port has a record of whom it belongs to. -/
def Bound (r : Repository) (portId : String) : Prop := ∃ b ∈ r.bindings, b.portId = portId

def addBinding (r : Repository) (b : MemberPortBinding) : Repository :=
  { r with bindings := r.bindings ++ [b] }

def dropBinding (r : Repository) (portId : String) : Repository :=
  { r with bindings := r.bindings.filter fun b => b.portId ≠ portId }

variable {r r' r'' : Repository}

theorem harmless_of_script_nil (h : r.script = []) : r.Harmless := by simp [Harmless, h]

namespace Heard

theorem refl (r : Repository) : r.Heard r := ⟨r.script, rfl, .refl _⟩

theorem trans (h : r.Heard r') (h' : r'.Heard r'') : r.Heard r'' := by
  obtain ⟨script, rfl, hsub⟩ := h
  obtain ⟨script', rfl, hsub'⟩ := h'
  exact ⟨script', rfl, hsub'.trans hsub⟩

theorem harmless (h : r.Heard r') (hr : r.Harmless) : r'.Harmless := by
  obtain ⟨script, rfl, hsub⟩ := h
  exact fun o ho => hr o (hsub.subset ho)

theorem bindings (h : r.Heard r') : r'.bindings = r.bindings := by
  obtain ⟨script, rfl, -⟩ := h
  rfl

theorem loadBalancers (h : r.Heard r') : r'.loadBalancers = r.loadBalancers := by
  obtain ⟨script, rfl, -⟩ := h
  rfl

theorem amphorae (h : r.Heard r') : r'.amphorae = r.amphorae := by
  obtain ⟨script, rfl, -⟩ := h
  rfl

theorem bound_iff (h : r.Heard r') (portId : String) : r'.Bound portId ↔ r.Bound portId := by
  unfold Bound
  rw [h.bindings]

theorem addBinding (h : r.Heard r') (b : MemberPortBinding) :
    (r.addBinding b).Heard (r'.addBinding b) := by
  obtain ⟨script, rfl, hsub⟩ := h
  exact ⟨script, rfl, hsub⟩

theorem dropBinding (h : r.Heard r') (portId : String) :
    (r.dropBinding portId).Heard (r'.dropBinding portId) := by
  obtain ⟨script, rfl, hsub⟩ := h
  exact ⟨script, rfl, hsub⟩

end Heard

theorem bound_addBinding (r : Repository) (b : MemberPortBinding) (portId : String) :
    (r.addBinding b).Bound portId ↔ r.Bound portId ∨ b.portId = portId := by
  simp [Bound, addBinding, or_and_right, exists_or]

/-- A deletion takes the record of one port and of no other. -/
theorem bound_dropBinding (r : Repository) (dropped portId : String) :
    (r.dropBinding dropped).Bound portId ↔ r.Bound portId ∧ portId ≠ dropped := by
  simp only [Bound, dropBinding, List.mem_filter, decide_eq_true_eq]
  constructor
  · intro h
    obtain ⟨b, ⟨hmem, hne⟩, rfl⟩ := h
    exact ⟨⟨b, hmem, rfl⟩, hne⟩
  · intro h
    obtain ⟨⟨b, hmem, rfl⟩, hne⟩ := h
    exact ⟨b, ⟨hmem, hne⟩, rfl⟩

/-! Some of the records, when one is added or removed that is not among them -/

theorem filter_addBinding {keep : MemberPortBinding → Bool} {b : MemberPortBinding}
    (hb : keep b = false) : (r.addBinding b).bindings.filter keep = r.bindings.filter keep := by
  simp [addBinding, hb]

theorem filter_dropBinding {keep : MemberPortBinding → Bool} {portId : String}
    (hkeep : ∀ b, b.portId = portId → keep b = false) :
    (r.dropBinding portId).bindings.filter keep = r.bindings.filter keep := by
  unfold dropBinding
  rw [List.filter_filter]
  apply List.filter_congr
  intro b _
  by_cases hb : b.portId = portId
  · simp [hkeep b hb]
  · simp [hb]

/-- A call takes outcomes away and adds none. -/
theorem takeOutcome_sublist (call : RepositoryCall) (script : List ScriptedOutcome) :
    (takeOutcome call script).2.Sublist script := by
  induction script with
  | nil => exact .refl []
  | cons o os ih =>
    simp only [takeOutcome]
    split
    · exact List.sublist_cons_self o os
    · exact ih.cons_cons o

theorem takeOutcome_harmless (call : RepositoryCall) {script : List ScriptedOutcome}
    (h : ∀ o ∈ script, o.failure = none) : (takeOutcome call script).1 = none := by
  induction script with
  | nil => rfl
  | cons o os ih =>
    simp only [takeOutcome]
    split
    · exact h o List.mem_cons_self
    · exact ih fun o' ho' => h o' (List.mem_cons_of_mem _ ho')

/-- A call takes its outcome first, and does its work if that lets it pass. -/
theorem ends_call {call : RepositoryCall} {rest : Call α} {ok : α → Repository → Prop}
    {bad : StoreError → Repository → Prop}
    (hfault : ∀ e r', r.Heard r' → ¬ r.Harmless → bad e r')
    (hrest : ∀ r', r.Heard r' → rest.Ends r' ok bad) :
    Action.Ends (do begin call; rest) r ok bad := by
  have hheard : r.Heard { r with script := (takeOutcome call r.script).2 } :=
    ⟨_, rfl, takeOutcome_sublist call r.script⟩
  rcases htake : takeOutcome call r.script with ⟨_ | e, script⟩
  · have hbegin : (begin call).runOn r = (.ok (), { r with script }) := by
      simp only [runOn, begin, htake]
    rw [htake] at hheard
    exact ends_bind_of_ok hbegin (hrest _ hheard)
  · have hbegin : (begin call).runOn r = (.error e, { r with script }) := by
      simp only [runOn, begin, htake]
    have hharm : ¬ r.Harmless := by
      intro h
      have hnone := takeOutcome_harmless call h
      simp [htake] at hnone
    rw [htake] at hheard
    exact ends_bind_of_error hbegin (hfault _ _ hheard hharm)

/-- A load balancer is read with the amphorae that name it, and nothing but the script changes. -/
theorem ends_getLoadBalancer (id : String) (r : Repository) : (getLoadBalancer id).Ends r
    (fun lb r' => r.Heard r' ∧ ∃ stored, r.loadBalancers.get? id = some stored ∧
      lb = { stored with amphorae := r.amphoraeOf id })
    fun _ r' => r.Heard r' ∧ (r.Harmless → r.loadBalancers.get? id = none) := by
  refine ends_call (fun e r' h hharm => ⟨h, fun hr => absurd hr hharm⟩) fun r' h => ?_
  refine ends_get ((ends_orFail _ _ r').bind ?_ ?_)
  · intro stored t hend
    obtain ⟨rfl, hget⟩ := hend
    rw [h.loadBalancers] at hget
    refine ends_pure ⟨h, stored, hget, ?_⟩
    simp only [amphoraeOf, h.amphorae]
  · intro e t hend
    obtain ⟨rfl, hget⟩ := hend
    rw [h.loadBalancers] at hget
    exact ⟨h, fun _ => hget⟩

/-- Without a scripted failure only an amphora that is not stored cannot be read. -/
theorem ends_getAmphora (id : String) (r : Repository) : (getAmphora id).Ends r
    (fun a r' => r.Heard r' ∧ r.amphorae.get? id = some a)
    fun _ r' => r.Heard r' ∧ (r.Harmless → r.amphorae.get? id = none) := by
  refine ends_call (fun e r' h hharm => ⟨h, fun hr => absurd hr hharm⟩) fun r' h => ?_
  rw [← h.amphorae]
  refine ends_get ((ends_orFail _ _ r').mono ?_ ?_)
  · intro a t hend
    obtain ⟨rfl, hget⟩ := hend
    exact ⟨h, hget⟩
  · intro e t hend
    obtain ⟨rfl, hget⟩ := hend
    exact ⟨h, fun _ => hget⟩

/-- Where the load balancer is known to be stored, and no outcome is harmful. -/
theorem ends_getLoadBalancer_stored {id : String} {stored : LoadBalancer} (hr : r.Harmless)
    (hstored : r.loadBalancers.get? id = some stored) : (getLoadBalancer id).Ends r
      (fun lb r' => lb = { stored with amphorae := r.amphoraeOf id } ∧ r.Heard r')
      fun _ _ => False := by
  apply (ends_getLoadBalancer id r).mono
  · intro lb r' hend
    obtain ⟨h, stored', hget, hlb⟩ := hend
    cases hstored.symm.trans hget
    exact ⟨hlb, h⟩
  · exact fun e r' hend => absurd ((hend.2 hr).symm.trans hstored) (by simp)

theorem ends_getAmphora_stored {id : String} {stored : Amphora} (hr : r.Harmless)
    (hstored : r.amphorae.get? id = some stored) :
    (getAmphora id).Ends r (fun a r' => a = stored ∧ r.Heard r') fun _ _ => False := by
  apply (ends_getAmphora id r).mono
  · exact fun a r' hend => ⟨Option.some.inj (hend.2.symm.trans hstored), hend.1⟩
  · exact fun e r' hend => absurd ((hend.2 hr).symm.trans hstored) (by simp)

/-- Without a scripted failure only a port that is bound already is refused. -/
theorem ends_createMemberPort (b : MemberPortBinding) (r : Repository) :
    (createMemberPort b).Ends r (fun _ r' => (r.addBinding b).Heard r' ∧ ¬ r.Bound b.portId)
      fun _ r' => r.Heard r' ∧ (r.Harmless → r.Bound b.portId) := by
  refine ends_call (fun e r' h hharm => ⟨h, fun hr => absurd hr hharm⟩) fun r' h => ?_
  apply ends_get
  split
  next hany =>
    refine ends_throw ⟨h, fun _ => (h.bound_iff _).mp ?_⟩
    simpa [Bound] using hany
  next hnone =>
    refine ends_modify_last ⟨h.addBinding b, fun hbound => hnone ?_⟩
    rw [← h.bound_iff] at hbound
    simpa [Bound] using hbound

/-- Without a scripted failure only a port that is not bound is refused, with the error that a
resumed deletion may ignore. -/
theorem ends_deleteMemberPort (portId : String) (r : Repository) :
    (deleteMemberPort portId).Ends r (fun _ r' => (r.dropBinding portId).Heard r')
      fun e r' => r.Heard r' ∧
        (r.Harmless → (∃ what, e = .notFound what) ∧ ¬ r.Bound portId) := by
  refine ends_call (fun e r' h hharm => ⟨h, fun hr => absurd hr hharm⟩) fun r' h => ?_
  apply ends_get
  split
  next hany =>
    refine ends_throw ⟨h, fun _ => ⟨⟨_, rfl⟩, fun hbound => ?_⟩⟩
    rw [← h.bound_iff] at hbound
    obtain ⟨b, hmem, hb⟩ := hbound
    simp only [Bool.not_eq_true', List.any_eq_false, decide_eq_true_eq] at hany
    exact hany b hmem hb
  next => exact ends_modify_last (h.dropBinding portId)

/-! Load balancers and amphorae -/

/-- Every record is stored under its own id. -/
structure Keyed (r : Repository) : Prop where
  loadBalancers : ∀ {id lb}, r.loadBalancers.get? id = some lb → lb.id = id
  amphorae : ∀ {id a}, r.amphorae.get? id = some a → a.id = id

theorem keyed_empty : Keyed {} := by
  constructor
  · intro id lb h
    cases h
  · intro id a h
    cases h

theorem Heard.keyed (h : r.Heard r') (hr : r.Keyed) : r'.Keyed := by
  obtain ⟨script, rfl, -⟩ := h
  exact ⟨hr.loadBalancers, hr.amphorae⟩

/-- The adopted amphora is stored with its new owner, whoever it belonged to before. -/
theorem get?_adopt (loadBalancerId : String) (m : IdMap Amphora) (a : Amphora) (id : String) :
    (adopt loadBalancerId m a).get? id =
      if id = a.id then some { a with loadBalancerId := some loadBalancerId } else m.get? id :=
  IdMap.get?_insert _ _ _ _

/-- A put keeps every record under its own id. -/
theorem Keyed.store (hr : r.Keyed) (lb : LoadBalancer) : (r.store lb).Keyed := by
  constructor
  case loadBalancers =>
    intro id lb' h
    change (r.loadBalancers.insert lb.id _).get? id = some lb' at h
    rw [IdMap.get?_insert] at h
    split at h
    next heq =>
      cases h
      exact heq.symm
    next => exact hr.loadBalancers h
  case amphorae =>
    have hfold : ∀ (l : List Amphora) (m : IdMap Amphora),
        (∀ {id a}, m.get? id = some a → a.id = id) →
        ∀ {id a}, (l.foldl (adopt lb.id) m).get? id = some a → a.id = id := by
      intro l
      induction l with
      | nil => exact fun m hm => hm
      | cons first rest ih =>
        intro m hm
        refine ih (adopt lb.id m first) fun {id a} h => ?_
        rw [get?_adopt] at h
        split at h
        next heq =>
          cases h
          exact heq.symm
        next => exact hm h
    intro id a h
    refine hfold lb.amphorae _ ?_ h
    intro id' a' h'
    rw [IdMap.get?_filter, Option.filter_eq_some_iff] at h'
    exact hr.amphorae h'.1

/-- Amphorae that are adopted as they are stored stay what they are. -/
theorem get?_foldl_adopt {loadBalancerId : String} {l : List Amphora}
    (hl : ∀ a ∈ l, r.amphorae.get? a.id = some a ∧ a.loadBalancerId = some loadBalancerId)
    (m : IdMap Amphora) (id : String) : (l.foldl (adopt loadBalancerId) m).get? id =
      if ∃ a ∈ l, a.id = id then r.amphorae.get? id else m.get? id := by
  induction l generalizing m with
  | nil => simp
  | cons first rest ih =>
    obtain ⟨hget, howner⟩ := hl first List.mem_cons_self
    have hsame : { first with loadBalancerId := some loadBalancerId } = first := by rw [← howner]
    rw [List.foldl_cons, ih fun a ha => hl a (List.mem_cons_of_mem _ ha), get?_adopt, hsame]
    by_cases hfirst : id = first.id
    · subst hfirst
      simp [hget]
    · simp [hfirst, Ne.symm hfirst]

/-- The amphorae of a load balancer are the stored ones that name it. -/
theorem mem_amphoraeOf {loadBalancerId : String} {a : Amphora} :
    a ∈ r.amphoraeOf loadBalancerId ↔
      (∃ id, r.amphorae.get? id = some a) ∧ a.loadBalancerId = some loadBalancerId := by
  simp [amphoraeOf, IdMap.mem_values_iff]

/-- A load balancer that is stored with the amphorae it has leaves all amphorae as they are. -/
theorem Keyed.amphorae_store (hr : r.Keyed) {lb : LoadBalancer}
    (hlb : lb.amphorae = r.amphoraeOf lb.id) : (r.store lb).amphorae = r.amphorae := by
  apply IdMap.ext_get?
  intro id
  have hown : ∀ a ∈ lb.amphorae,
      r.amphorae.get? a.id = some a ∧ a.loadBalancerId = some lb.id := by
    intro a ha
    obtain ⟨⟨id, hget⟩, howner⟩ := mem_amphoraeOf.mp (hlb ▸ ha)
    exact ⟨hr.amphorae hget ▸ hget, howner⟩
  change (lb.amphorae.foldl (adopt lb.id) _).get? id = _
  rw [get?_foldl_adopt hown]
  split
  next => rfl
  next hnot =>
    rw [IdMap.get?_filter]
    cases hget : r.amphorae.get? id with
    | none => rfl
    | some a =>
      have hother : a.loadBalancerId ≠ some lb.id := by
        intro howner
        exact hnot ⟨a, hlb ▸ mem_amphoraeOf.mpr ⟨⟨id, hget⟩, howner⟩, hr.amphorae hget⟩
      simp [Option.filter, hother]

theorem Heard.store (h : r.Heard r') (lb : LoadBalancer) : (r.store lb).Heard (r'.store lb) := by
  obtain ⟨script, rfl, hsub⟩ := h
  exact ⟨script, rfl, hsub⟩

/-- Without a scripted failure a put cannot fail. -/
theorem ends_putLoadBalancer (lb : LoadBalancer) (r : Repository) : (putLoadBalancer lb).Ends r
    (fun _ r' => (r.store lb).Heard r') fun _ r' => r.Heard r' ∧ ¬ r.Harmless := by
  refine ends_call (fun e r' h hharm => ⟨h, hharm⟩) fun r' h => ?_
  exact ends_modify_last (h.store lb)

def putAmphora (r : Repository) (id : String) (a : Amphora) : Repository :=
  { r with amphorae := r.amphorae.insert id a }

theorem Heard.putAmphora (h : r.Heard r') (id : String) (a : Amphora) :
    (r.putAmphora id a).Heard (r'.putAmphora id a) := by
  obtain ⟨script, rfl, hsub⟩ := h
  exact ⟨script, rfl, hsub⟩

/-- Without a scripted failure only an amphora that is not stored is refused. -/
theorem ends_updateAmphoraPorts (id : String) (vrrpPortId haPortId : Option String)
    (r : Repository) : (updateAmphoraPorts id vrrpPortId haPortId).Ends r
      (fun _ r' => ∃ a, r.amphorae.get? id = some a ∧
        (r.putAmphora id { a with vrrpPortId, haPortId }).Heard r')
      fun _ r' => r.Heard r' ∧ (r.Harmless → r.amphorae.get? id = none) := by
  refine ends_call (fun e r' h hharm => ⟨h, fun hr => absurd hr hharm⟩) fun r' h => ?_
  refine Ends.bind (ends_get (ends_orFail _ _ r')) ?_ ?_
  · intro a t hend
    obtain ⟨rfl, hget⟩ := hend
    exact ends_modify_last ⟨a, h.amphorae ▸ hget, h.putAmphora id _⟩
  · intro e t hend
    obtain ⟨rfl, hget⟩ := hend
    exact ⟨h, fun _ => h.amphorae ▸ hget⟩

theorem ends_updateAmphoraPorts_stored {id : String} {stored : Amphora} (hr : r.Harmless)
    (hstored : r.amphorae.get? id = some stored) (vrrpPortId haPortId : Option String) :
    (updateAmphoraPorts id vrrpPortId haPortId).Ends r
      (fun _ r' => (r.putAmphora id { stored with vrrpPortId, haPortId }).Heard r')
      fun _ _ => False := by
  apply (ends_updateAmphoraPorts id vrrpPortId haPortId r).mono
  · intro _ r' hend
    obtain ⟨a, ha, h⟩ := hend
    cases hstored.symm.trans ha
    exact h
  · exact fun e r' hend => absurd ((hend.2 hr).symm.trans hstored) (by simp)

end AmphoraWiring.Repository
