import AmphoraWiring.Proofs.Codec.Documents
import AmphoraWiring.Proofs.Database.Rows
import AmphoraWiring.Proofs.History
import AmphoraWiring.Sample

/-!
The tables answer as the repository does. Tables hold the records of a repository when each record
has one row under its key, the owner in the column is the owner in the document, and the bindings
stand in the order of their row ids. Every call then ends on the tables as on the records, and the
tables that it leaves hold the records that it leaves. So what is told of a repository from its
history is true of the tables.
-/
namespace AmphoraWiring

/-- The numbers in what is put have the size that documents can hold. -/
def Repository.Change.Fits : Repository.Change → Prop
  | .putLoadBalancer lb => lb.Fits
  | _ => True

instance (c : Repository.Change) : Decidable c.Fits :=
  match c with
  | .putLoadBalancer lb =>
    inferInstanceAs (Decidable (∀ a ∈ lb.amphorae, ∀ n ∈ a.vrrpId, n < Nat.pow 2 32))
  | .updateAmphoraPorts _ _ _ => .isTrue trivial
  | .createMemberPort _ => .isTrue trivial
  | .deleteMemberPort _ => .isTrue trivial

namespace MemberPortRow

def binding (row : MemberPortRow) : MemberPortBinding :=
  ⟨row.amphoraId, row.portId, row.networkId⟩

end MemberPortRow

namespace Tables

open Action

def rowOfLoadBalancer (id : String) (lb : LoadBalancer) : LoadBalancerRow :=
  ⟨id, LoadBalancer.codec.toText lb⟩

/-- The column says what the document says. -/
def rowOfAmphora (id : String) (a : Amphora) : AmphoraRow :=
  ⟨id, a.loadBalancerId, Amphora.codec.toText a⟩

/-- The tables have the records of the repository, all of which can be read back from their
documents, and the repository fails in no call. -/
structure Holds (t : Tables) (r : Repository) : Prop where
  loadBalancers :
    Tabulates LoadBalancerRow.id rowOfLoadBalancer t.loadBalancers r.loadBalancers
  amphorae : Tabulates AmphoraRow.id rowOfAmphora t.amphorae r.amphorae
  alone : ∀ {id lb}, r.loadBalancers.get? id = some lb → lb.amphorae = []
  fits : ∀ {id a}, r.amphorae.get? id = some a → a.Fits
  bindings : t.memberPorts.map MemberPortRow.binding = r.bindings
  numbered : t.memberPorts.Pairwise fun a b => a.rowId < b.rowId
  script : r.script = []

def change : Repository.Change → Call Unit
  | .putLoadBalancer lb => putLoadBalancer lb
  | .updateAmphoraPorts id vrrpPortId haPortId => updateAmphoraPorts id vrrpPortId haPortId
  | .createMemberPort b => createMemberPort b
  | .deleteMemberPort portId => deleteMemberPort portId

def methods : Repository.Methods Tables where
  getLoadBalancer := getLoadBalancer
  getAmphora := getAmphora
  getMemberPortIds := getMemberPortIds
  change := change

variable {α ρ : Type} {t t' : Tables} {r : Repository} {id : String}

theorem holds_empty : Holds {} {} where
  loadBalancers := tabulates_nil
  amphorae := tabulates_nil
  alone := nofun
  fits := nofun
  bindings := rfl
  numbered := .nil
  script := rfl

/-! Transactions and documents -/

theorem runOn_transaction_of_ok {work : Call α} {a : α} (h : work.runOn t = (.ok a, t')) :
    (transaction work).runOn t = (.ok a, t') := by
  simp only [runOn, transaction] at h ⊢
  rw [h]

/-- What was done before a failure is undone. -/
theorem runOn_transaction_of_error {work : Call α} {e : StoreError} {u : Tables}
    (h : work.runOn t = (.error e, u)) : (transaction work).runOn t = (.error e, t) := by
  simp only [runOn, transaction] at h ⊢
  rw [h]

theorem orFail_some_bind {β : Type} (e : StoreError) (a : α) (f : α → Call β) :
    orFail e (some a) >>= f = f a := pure_bind a f

/-- A document that was written is read. -/
theorem decoded_toText {codec : Codec α} {a : α} (h : codec.Writes a) :
    decoded codec (codec.toText a) = pure a := by
  simp only [decoded, Codec.toText, h.spells.ofText]

/-- Reading the documents of rows one after the other gives back the records. -/
theorem mapM_decoded {codec : Codec α} {entries : List (String × α)} (document : ρ → String)
    {rowOf : String → α → ρ} (hdocument : ∀ id a, document (rowOf id a) = codec.toText a)
    (h : ∀ e ∈ entries, codec.Writes e.2) :
    (entries.map fun e => rowOf e.1 e.2).mapM (fun row => decoded codec (document row)) =
      pure (entries.map (·.2)) := by
  induction entries with
  | nil => rfl
  | cons e rest ih =>
    obtain ⟨he, hrest⟩ := List.forall_mem_cons.mp h
    rw [List.map_cons, List.mapM_cons, hdocument, decoded_toText he, ih hrest]
    rfl

/-! Reading -/

theorem amphoraById_of_none (h : t.Holds r) (hget : r.amphorae.get? id = none) :
    (amphoraById id).runOn t = (.error (.notFound ("amphora " ++ id)), t) := by
  have hfind : (t.amphorae.find? fun row => row.id = id) = none := by
    rw [h.amphorae.find? (fun _ _ => rfl), hget, Option.map_none]
  change Action.runOn (orFail _ (t.amphorae.find? fun row => row.id = id) >>= _) t = _
  rw [hfind]
  rfl

theorem amphoraById_of_some {a : Amphora} (h : t.Holds r) (hget : r.amphorae.get? id = some a) :
    (amphoraById id).runOn t = (.ok a, t) := by
  have hfind : (t.amphorae.find? fun row => row.id = id) = some (rowOfAmphora id a) := by
    rw [h.amphorae.find? (fun _ _ => rfl), hget, Option.map_some]
  change Action.runOn (orFail _ (t.amphorae.find? fun row => row.id = id) >>= _) t = _
  rw [hfind, orFail_some_bind]
  simp only [rowOfAmphora, decoded_toText (a.writes (h.fits hget))]
  rfl

/-- The rows of a load balancer's amphorae, in the order of their ids. -/
theorem Holds.amphoraRowsOf (h : t.Holds r) (id : String) :
    t.amphoraRowsOf id =
      (r.amphorae.filter fun a => a.loadBalancerId = some id).entries.map
        fun e => rowOfAmphora e.1 e.2 :=
  Tabulates.mergeSort (h.amphorae.filter fun _ _ _ => rfl) fun _ _ => rfl

/-- The rows that the column selects give the amphorae whose records name the load balancer. -/
theorem Holds.decode_amphoraRowsOf (h : t.Holds r) (id : String) :
    ((t.amphoraRowsOf id).mapM fun row => decoded Amphora.codec row.document) =
      pure (r.amphoraeOf id) := by
  have hwrites : ∀ e ∈ (r.amphorae.filter fun a => a.loadBalancerId = some id).entries,
      Amphora.codec.Writes e.2 := by
    intro e he
    have hget := IdMap.mem_entries_iff.mp he
    rw [IdMap.get?_filter, Option.filter_eq_some_iff] at hget
    exact e.2.writes (h.fits hget.1)
  rw [h.amphoraRowsOf, mapM_decoded AmphoraRow.document (fun _ _ => rfl) hwrites]
  simp only [Repository.amphoraeOf, IdMap.values, IdMap.filter, List.filter_map]
  rfl

/-- A load balancer is read from the tables as from the records, with its amphorae in the same
order. -/
theorem runOn_getLoadBalancer (h : t.Holds r) (id : String) :
    (getLoadBalancer id).runOn t = (((Repository.getLoadBalancer id).runOn r).1, t) := by
  have hfind : (t.loadBalancers.find? fun row => row.id = id) =
      (r.loadBalancers.get? id).map (rowOfLoadBalancer id) :=
    h.loadBalancers.find? fun _ _ => rfl
  rw [Repository.runOn_getLoadBalancer h.script]
  cases hget : r.loadBalancers.get? id with
  | none =>
    rw [hget, Option.map_none] at hfind
    refine runOn_transaction_of_error (u := t) ?_
    change Action.runOn (orFail _ (t.loadBalancers.find? fun row => row.id = id) >>= _) t = _
    rw [hfind]
    rfl
  | some lb =>
    rw [hget, Option.map_some] at hfind
    have hwrites := lb.writes fun a ha => by
      rw [h.alone hget] at ha
      cases ha
    refine runOn_transaction_of_ok ?_
    change Action.runOn (orFail _ (t.loadBalancers.find? fun row => row.id = id) >>= _) t = _
    rw [hfind, orFail_some_bind]
    simp only [rowOfLoadBalancer, decoded_toText hwrites, pure_bind]
    change Action.runOn
      ((t.amphoraRowsOf id).mapM (fun row => decoded Amphora.codec row.document) >>= _) t = _
    rw [h.decode_amphoraRowsOf]
    rfl

/-- A lone amphora is read from the tables as from the records. -/
theorem runOn_getAmphora (h : t.Holds r) (id : String) :
    (getAmphora id).runOn t = (((Repository.getAmphora id).runOn r).1, t) := by
  rw [Repository.runOn_getAmphora h.script]
  cases hget : r.amphorae.get? id with
  | none => exact runOn_transaction_of_error (amphoraById_of_none h hget)
  | some a => exact runOn_transaction_of_ok (amphoraById_of_some h hget)

/-- The order of the row ids is the order of the bindings. -/
theorem runOn_getMemberPortIds (h : t.Holds r) (amphoraId : String) :
    (getMemberPortIds amphoraId).runOn t =
      (((Repository.getMemberPortIds amphoraId).runOn r).1, t) := by
  have hsorted : (t.memberPorts.filter fun row => row.amphoraId = amphoraId).Pairwise
      fun a b => decide (a.rowId ≤ b.rowId) = true :=
    (h.numbered.sublist List.filter_sublist).imp fun hlt => decide_eq_true hlt.le
  rw [Repository.runOn_getMemberPortIds h.script, ← h.bindings]
  refine runOn_transaction_of_ok ?_
  change (Except.ok (((t.memberPorts.filter fun row => row.amphoraId = amphoraId).mergeSort
    fun a b => a.rowId ≤ b.rowId).map (·.portId)), t) = _
  rw [List.mergeSort_of_pairwise hsorted, List.filter_map, List.map_map]
  rfl

/-! Putting a load balancer -/

/-- Whether its row is inserted or updated, the load balancer is stored without its amphorae. -/
theorem Holds.insertLoadBalancer (h : t.Holds r) (lb : LoadBalancer) :
    ∃ t', (insertLoadBalancer lb).runOn t = (.ok (), t') ∧ t'.Holds { r with
      loadBalancers := r.loadBalancers.insert lb.id { lb with amphorae := [] } } := by
  have hrows : Tabulates LoadBalancerRow.id rowOfLoadBalancer
      (upsert LoadBalancerRow.id (fun old new => { old with document := new.document })
        (loadBalancerRow lb) t.loadBalancers)
      (r.loadBalancers.insert lb.id { lb with amphorae := [] }) :=
    h.loadBalancers.upsert (fun _ _ => rfl) fun _ _ => rfl
  refine ⟨_, rfl, { h with loadBalancers := hrows, alone := fun {id stored} hget => ?_ }⟩
  rw [IdMap.get?_insert] at hget
  split at hget
  · cases hget
    rfl
  · exact h.alone hget

/-- The rows that the column selects are those of the amphorae whose records name the load
balancer. -/
theorem Holds.deleteAmphoraeOf (h : t.Holds r) (loadBalancerId : String) :
    ∃ t', (deleteAmphoraeOf loadBalancerId).runOn t = (.ok (), t') ∧ t'.Holds { r with
      amphorae := r.amphorae.filter fun a => a.loadBalancerId ≠ some loadBalancerId } := by
  have hrows : Tabulates AmphoraRow.id rowOfAmphora
      (t.amphorae.filter fun row => row.loadBalancerId ≠ some loadBalancerId)
      (r.amphorae.filter fun a => a.loadBalancerId ≠ some loadBalancerId) :=
    h.amphorae.filter fun _ _ _ => rfl
  refine ⟨_, rfl, { h with amphorae := hrows, fits := fun {id a} hget => ?_ }⟩
  rw [IdMap.get?_filter, Option.filter_eq_some_iff] at hget
  exact h.fits hget.1

/-- A row in conflict may belong to another load balancer; column and document are both updated, so
the amphora is moved. -/
theorem Holds.insertAmphora (h : t.Holds r) (loadBalancerId : String) {a : Amphora}
    (ha : a.Fits) : ∃ t', (insertAmphora loadBalancerId a).runOn t = (.ok (), t') ∧
      t'.Holds { r with amphorae := Repository.adopt loadBalancerId r.amphorae a } := by
  have hrows : Tabulates AmphoraRow.id rowOfAmphora
      (upsert AmphoraRow.id
        (fun old new => { old with loadBalancerId := new.loadBalancerId, document := new.document })
        (rowOfAmphora a.id { a with loadBalancerId := some loadBalancerId }) t.amphorae)
      (r.amphorae.insert a.id { a with loadBalancerId := some loadBalancerId }) :=
    h.amphorae.upsert (fun _ _ => rfl) fun _ _ => rfl
  refine ⟨_, rfl, { h with amphorae := hrows, fits := fun {id stored} hget => ?_ }⟩
  rw [Repository.get?_adopt] at hget
  split at hget
  · cases hget
    exact ha
  · exact h.fits hget

/-- The insertions of a put, one after the other; a later entry updates the row of an earlier
one. -/
theorem Holds.insertAmphorae (h : t.Holds r) (loadBalancerId : String) {as : List Amphora}
    (has : ∀ a ∈ as, a.Fits) :
    ∃ t', (as.forM (Tables.insertAmphora loadBalancerId)).runOn t = (.ok (), t') ∧
      t'.Holds { r with
        amphorae := as.foldl (Repository.adopt loadBalancerId) r.amphorae } := by
  induction as generalizing t r with
  | nil => exact ⟨t, rfl, h⟩
  | cons a rest ih =>
    obtain ⟨ha, hrest⟩ := List.forall_mem_cons.mp has
    obtain ⟨u, hu, hholds⟩ := h.insertAmphora loadBalancerId ha
    obtain ⟨t', ht', hholds'⟩ := ih hholds hrest
    refine ⟨t', ?_, hholds'⟩
    change Action.runOn (Tables.insertAmphora loadBalancerId a >>= _) t = _
    rw [runOn_bind, hu]
    exact ht'

/-- The three statements of a put together do what the repository does with its records. -/
theorem Holds.putLoadBalancer (h : t.Holds r) {lb : LoadBalancer} (hlb : lb.Fits) :
    ∃ t', (putLoadBalancer lb).runOn t = (.ok (), t') ∧ t'.Holds (r.store lb) := by
  obtain ⟨t₁, h₁, hinserted⟩ := h.insertLoadBalancer lb
  obtain ⟨t₂, h₂, hdeleted⟩ := hinserted.deleteAmphoraeOf lb.id
  obtain ⟨t₃, h₃, hput⟩ := hdeleted.insertAmphorae lb.id hlb
  refine ⟨t₃, runOn_transaction_of_ok ?_, hput⟩
  rw [runOn_bind, h₁]
  change Action.runOn (Tables.deleteAmphoraeOf lb.id >>= _) t₁ = _
  rw [runOn_bind, h₂]
  exact h₃

/-- A put passes, whatever is in the tables and in the load balancer. -/
theorem putLoadBalancer_passes (lb : LoadBalancer) (t : Tables) :
    ∃ t', (putLoadBalancer lb).runOn t = (.ok (), t') := by
  have hforM : ∀ (as : List Amphora) (t : Tables),
      ∃ t', (as.forM (insertAmphora lb.id)).runOn t = (.ok (), t') := by
    intro as
    induction as with
    | nil => exact fun t => ⟨t, rfl⟩
    | cons a rest ih =>
      exact fun t => ih _
  obtain ⟨t', ht'⟩ := hforM lb.amphorae _
  exact ⟨t', runOn_transaction_of_ok ht'⟩

/-! The other changes -/

/-- Only the document is written anew, and the owner in it stays what the column says. -/
theorem Holds.updateAmphoraPorts {a : Amphora} (h : t.Holds r)
    (hget : r.amphorae.get? id = some a) (vrrpPortId haPortId : Option String) :
    ∃ t', (updateAmphoraPorts id vrrpPortId haPortId).runOn t = (.ok (), t') ∧
      t'.Holds (r.putAmphora id { a with vrrpPortId, haPortId }) := by
  let document := Amphora.codec.toText { a with vrrpPortId, haPortId }
  let rows := t.amphorae.map fun row => if row.id = id then { row with document } else row
  have hrows : Tabulates AmphoraRow.id rowOfAmphora rows
      (r.amphorae.insert id { a with vrrpPortId, haPortId }) :=
    h.amphorae.rewrite (fun _ _ => rfl) hget rfl
  have hrun : (Tables.updateAmphoraPorts id vrrpPortId haPortId).runOn t =
      (.ok (), { t with amphorae := rows }) := by
    refine runOn_transaction_of_ok ?_
    rw [runOn_bind, amphoraById_of_some h hget]
    rfl
  refine ⟨_, hrun, { h with amphorae := hrows, fits := fun {id' stored} hstored => ?_ }⟩
  change (r.amphorae.insert id _).get? id' = _ at hstored
  rw [IdMap.get?_insert] at hstored
  have ha : a.Fits := h.fits hget
  split at hstored
  · cases hstored
    exact ha
  · exact h.fits hstored

/-- A new row comes behind all others in the order of the ids. -/
theorem lt_nextRowId {rows : List MemberPortRow} {row : MemberPortRow} (h : row ∈ rows) :
    row.rowId < nextRowId rows := by
  induction rows with
  | nil => cases h
  | cons first rest ih =>
    simp only [nextRowId, List.map_cons, List.foldr_cons] at ih ⊢
    rcases List.mem_cons.mp h with rfl | h
    · omega
    · have := ih h
      omega

theorem Holds.any_memberPorts (h : t.Holds r) (portId : String) :
    (t.memberPorts.any fun row => row.portId = portId) =
      r.bindings.any fun b => b.portId = portId := by
  rw [← h.bindings, List.any_map]
  rfl

/-- A binding of a port without one gets a row of its own, behind those that are there. -/
theorem Holds.createMemberPort {b : MemberPortBinding} (h : t.Holds r)
    (hnew : ¬ r.bindings.any fun other => other.portId = b.portId) :
    ∃ t', (createMemberPort b).runOn t = (.ok (), t') ∧ t'.Holds (r.addBinding b) := by
  rw [← h.any_memberPorts] at hnew
  have hrun : (Tables.createMemberPort b).runOn t = (.ok (), { t with memberPorts :=
      t.memberPorts ++ [⟨nextRowId t.memberPorts, b.portId, b.amphoraId, b.networkId⟩] }) := by
    refine runOn_transaction_of_ok ?_
    change Action.runOn (if _ then throw _ else _) t = _
    rw [if_neg hnew]
    rfl
  refine ⟨_, hrun, { h with bindings := ?_, numbered := ?_ }⟩
  · change List.map MemberPortRow.binding (t.memberPorts ++ [_]) = r.bindings ++ [b]
    rw [List.map_append, h.bindings]
    rfl
  · refine List.pairwise_append.mpr ⟨h.numbered, List.pairwise_singleton _ _, ?_⟩
    intro row hrow last hlast
    rw [List.mem_singleton.mp hlast]
    exact lt_nextRowId hrow

/-- The primary key refuses a second binding of a port. -/
theorem createMemberPort_of_bound {b : MemberPortBinding} (h : t.Holds r)
    (hbound : r.bindings.any fun other => other.portId = b.portId) :
    (createMemberPort b).runOn t = (.error (.database (.refused .duplicateMemberPort)), t) := by
  rw [← h.any_memberPorts] at hbound
  refine runOn_transaction_of_error (u := t) ?_
  change Action.runOn (if _ then throw _ else _) t = _
  rw [if_pos hbound]
  rfl

/-- The number of deleted rows says whether the port was bound. -/
theorem Holds.countP_memberPorts (h : t.Holds r) (portId : String) :
    t.memberPorts.countP (fun row => row.portId = portId) = 0 ↔
      ¬ r.bindings.any fun b => b.portId = portId := by
  rw [← h.any_memberPorts, List.countP_eq_zero]
  simp

/-- The other rows keep their ids, and so the bindings their order. -/
theorem Holds.deleteMemberPort {portId : String} (h : t.Holds r)
    (hbound : r.bindings.any fun b => b.portId = portId) :
    ∃ t', (deleteMemberPort portId).runOn t = (.ok (), t') ∧ t'.Holds (r.dropBinding portId) := by
  have hrun : (Tables.deleteMemberPort portId).runOn t = (.ok (), { t with
      memberPorts := t.memberPorts.filter fun row => row.portId ≠ portId }) := by
    refine runOn_transaction_of_ok ?_
    change Action.runOn (if _ then throw _ else _) _ = _
    rw [if_neg fun hnone => (h.countP_memberPorts portId).mp hnone hbound]
    rfl
  refine ⟨_, hrun, { h with
    bindings := ?_, numbered := h.numbered.sublist List.filter_sublist }⟩
  change _ = r.bindings.filter fun b => b.portId ≠ portId
  rw [← h.bindings, List.filter_map]
  rfl

/-- The rows that are missing have been deleted by then, and come back. -/
theorem deleteMemberPort_of_unbound {portId : String} (h : t.Holds r)
    (hunbound : ¬ r.bindings.any fun b => b.portId = portId) :
    (deleteMemberPort portId).runOn t = (.error (.notFound ("member port " ++ portId)), t) := by
  refine runOn_transaction_of_error (u := { t with
    memberPorts := t.memberPorts.filter fun row => row.portId ≠ portId }) ?_
  change Action.runOn (if _ then throw _ else _) _ = _
  rw [if_pos ((h.countP_memberPorts portId).mpr hunbound)]
  rfl

/-! Histories -/

/-- One change ends on the tables as on the records that they hold. -/
theorem Holds.change (h : t.Holds r) (c : Repository.Change) :
    (∃ e, (change c).runOn t = (.error e, t) ∧ c.call.runOn r = (.error e, r)) ∨
      ∃ t' r', (change c).runOn t = (.ok (), t') ∧ c.call.runOn r = (.ok (), r') ∧
        (c.Fits → t'.Holds r') := by
  cases c with
  | putLoadBalancer lb =>
    have hput := Repository.runOn_putLoadBalancer h.script lb
    by_cases hlb : lb.Fits
    · obtain ⟨t', hrun, hholds⟩ := h.putLoadBalancer hlb
      exact .inr ⟨t', _, hrun, hput, fun _ => hholds⟩
    · obtain ⟨t', hrun⟩ := putLoadBalancer_passes lb t
      exact .inr ⟨t', _, hrun, hput, fun hfits => absurd hfits hlb⟩
  | updateAmphoraPorts id vrrpPortId haPortId =>
    have hupdate := Repository.runOn_updateAmphoraPorts h.script id vrrpPortId haPortId
    cases hget : r.amphorae.get? id with
    | none =>
      rw [hget] at hupdate
      refine .inl ⟨_, runOn_transaction_of_error (u := t) ?_, hupdate⟩
      rw [runOn_bind, amphoraById_of_none h hget]
    | some a =>
      rw [hget] at hupdate
      obtain ⟨t', hrun, hholds⟩ := h.updateAmphoraPorts hget vrrpPortId haPortId
      exact .inr ⟨t', _, hrun, hupdate, fun _ => hholds⟩
  | createMemberPort b =>
    have hcreate := Repository.runOn_createMemberPort h.script b
    split at hcreate
    next hbound => exact .inl ⟨_, createMemberPort_of_bound h hbound, hcreate⟩
    next hnew =>
      obtain ⟨t', hrun, hholds⟩ := h.createMemberPort hnew
      exact .inr ⟨t', _, hrun, hcreate, fun _ => hholds⟩
  | deleteMemberPort portId =>
    have hdelete := Repository.runOn_deleteMemberPort h.script portId
    split at hdelete
    next hunbound =>
      exact .inl ⟨_, deleteMemberPort_of_unbound h (by simpa using hunbound), hdelete⟩
    next hbound =>
      obtain ⟨t', hrun, hholds⟩ := h.deleteMemberPort (by simpa using hbound)
      exact .inr ⟨t', _, hrun, hdelete, fun _ => hholds⟩

/-- A whole history leaves tables that hold the records it leaves, and the same calls pass. -/
theorem Holds.after (h : t.Holds r) {changes : List Repository.Change}
    (hfits : ∀ c ∈ changes, c.Fits) :
    (methods.after t changes).Holds (Repository.methods.after r changes) ∧
      methods.passing t changes = Repository.methods.passing r changes := by
  induction changes generalizing t r with
  | nil => exact ⟨h, rfl⟩
  | cons c rest ih =>
    obtain ⟨hc, hrest⟩ := List.forall_mem_cons.mp hfits
    have hafter : ∀ {σ : Type} (m : Repository.Methods σ) (s : σ),
        m.after s (c :: rest) = m.after ((m.change c).runOn s).2 rest := fun _ _ => rfl
    rw [hafter, hafter, Repository.Methods.passing, Repository.Methods.passing]
    rcases h.change c with ⟨e, ht, hr⟩ | ⟨t', r', ht, hr, hholds⟩
    · change (methods.change c).runOn t = _ at ht
      change (Repository.methods.change c).runOn r = _ at hr
      rw [ht, hr]
      exact ih h hrest
    · change (methods.change c).runOn t = _ at ht
      change (Repository.methods.change c).runOn r = _ at hr
      rw [ht, hr]
      obtain ⟨hend, hpassing⟩ := ih (hholds hc) hrest
      exact ⟨hend, congrArg (c :: ·) hpassing⟩

/-- Whatever calls are made on new tables, they return what their history says, as the repository
does, whose records they hold; and a call that fails could as well not have been made. -/
theorem answers_history (changes : List Repository.Change) (hfits : ∀ c ∈ changes, c.Fits) :
    Repository.Answers methods {} changes ∧ Repository.Answers Repository.methods {} changes ∧
      (methods.after {} changes).Holds (Repository.after {} changes) := by
  have hrepository := Repository.answers_after changes
  obtain ⟨hholds, hpassing⟩ := holds_empty.after hfits
  have hread {α : Type} {read : Call α} {read' : Repository.Call α} {a : Except StoreError α}
      (hrun : read.runOn (methods.after {} changes) =
        ((read'.runOn (Repository.methods.after {} changes)).1, methods.after {} changes))
      (hanswer : read'.runOn (Repository.methods.after {} changes) =
        (a, Repository.methods.after {} changes)) :
      read.runOn (methods.after {} changes) = (a, methods.after {} changes) := by
    rw [hrun, hanswer]
  refine ⟨?_, hrepository, hholds⟩
  constructor
  case loadBalancer =>
    intro id lb hput
    obtain ⟨amphorae, hanswer, hamphorae⟩ := hrepository.loadBalancer hput
    exact ⟨amphorae, hread (runOn_getLoadBalancer hholds id) hanswer, hamphorae⟩
  case noLoadBalancer =>
    exact fun hput => hread (runOn_getLoadBalancer hholds _) (hrepository.noLoadBalancer hput)
  case amphora => exact fun h => hread (runOn_getAmphora hholds _) (hrepository.amphora h)
  case noAmphora => exact fun h => hread (runOn_getAmphora hholds _) (hrepository.noAmphora h)
  case memberPortIds =>
    intro amphoraId
    rw [hpassing]
    exact hread (runOn_getMemberPortIds hholds amphoraId) (hrepository.memberPortIds amphoraId)
  case refused =>
    intro c e h
    rw [hpassing] at h
    obtain ⟨hanswer, -⟩ := hrepository.refused h
    rcases hholds.change c with ⟨e', ht, hr⟩ | ⟨t', r', -, hr, -⟩
    · cases hr.symm.trans hanswer
      exact ⟨ht, methods.after_skip (congrArg Prod.snd ht)⟩
    · cases hr.symm.trans hanswer
  case passed =>
    intro c h
    rw [hpassing] at h
    obtain ⟨r', hanswer⟩ := hrepository.passed h
    rcases hholds.change c with ⟨e, -, hr⟩ | ⟨t', r', ht, -, -⟩
    · cases hr.symm.trans hanswer
    · exact ⟨t', ht⟩

/-- A load balancer lists one amphora twice. The amphora gets ports, is moved to another load
balancer and gets other ports there. Then the first load balancer is put without amphorae. Of the
bindings one is refused, one is deleted and created anew, and one that is missing is deleted. -/
def relocation : List Repository.Change :=
  let entry : Amphora := { id := "amp-1", loadBalancerId := some "lb-1" }
  let first := Sample.loadBalancer [entry, { id := "amp-2" }, { entry with vrrpId := some 7 }]
  [.putLoadBalancer first,
   .createMemberPort ⟨"amp-1", "port-1", "net-a"⟩,
   .createMemberPort ⟨"amp-2", "port-1", "net-b"⟩,
   .updateAmphoraPorts "amp-1" (some "vrrp-1") none,
   .putLoadBalancer { Sample.loadBalancer [{ id := "amp-3" }, { entry with vrrpId := some 9 }] with
     id := "lb-2" },
   .updateAmphoraPorts "amp-1" (some "vrrp-2") (some "ha-2"),
   .putLoadBalancer { first with amphorae := [] },
   .createMemberPort ⟨"amp-1", "port-2", "net-b"⟩,
   .deleteMemberPort "port-1",
   .createMemberPort ⟨"amp-1", "port-1", "net-a"⟩,
   .deleteMemberPort "port-9"]

/-- The moved amphora is told by its new owner with the ports it got there, and the binding that was
created anew is the younger one. -/
theorem answers_history_relocation : (∀ c ∈ relocation, c.Fits) ∧
    let t := methods.after {} relocation
    let moved : Amphora :=
      { id := "amp-1", loadBalancerId := some "lb-2", vrrpPortId := some "vrrp-2",
        haPortId := some "ha-2", vrrpId := some 9 }
    (getLoadBalancer "lb-2").runOn t =
        (.ok { Sample.loadBalancer [moved, { id := "amp-3", loadBalancerId := some "lb-2" }] with
          id := "lb-2" }, t) ∧
      (getAmphora "amp-1").runOn t = (.ok moved, t) ∧
      (getAmphora "amp-2").runOn t = (.error (.notFound "amphora amp-2"), t) ∧
      (getMemberPortIds "amp-1").runOn t = (.ok ["port-2", "port-1"], t) := by
  have hfits : ∀ c ∈ relocation, c.Fits := by decide
  obtain ⟨-, -, hholds⟩ := answers_history relocation hfits
  refine ⟨hfits, ?_, ?_, ?_, ?_⟩
  · rw [runOn_getLoadBalancer hholds]
    rfl
  · rw [runOn_getAmphora hholds]
    rfl
  · rw [runOn_getAmphora hholds]
    rfl
  · rw [runOn_getMemberPortIds hholds]
    rfl

end Tables

end AmphoraWiring
