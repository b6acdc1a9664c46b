import AmphoraWiring.Proofs.Saga.PortDisposal

/-!
When the member ports of an amphora are deleted, its bindings tell how far the work has come. A port
loses its binding as soon as the attempts to delete it are over, so if a deletion fails for good the
bindings that are left begin with the port that could not be deleted, nothing of them has been
touched, and to do the same again finishes the work.
-/
namespace AmphoraWiring

open Action Substrate

namespace Repository

/-- The bindings of an amphora, the oldest one first. -/
def bindingsOf (r : Repository) (amphoraId : String) : List MemberPortBinding :=
  r.bindings.filter fun b => b.amphoraId = amphoraId

/-- The ports bound to an amphora, the oldest binding first. -/
def portIdsOf (r : Repository) (amphoraId : String) : List String :=
  (r.bindingsOf amphoraId).map (·.portId)

/-- No port has two bindings: the port is the key by which a binding is kept. -/
def OneBindingEach (r : Repository) : Prop := (r.bindings.map (·.portId)).Nodup

variable {r r' : Repository} {amphoraId : String}

theorem OneBindingEach.of_sublist (h : r.OneBindingEach)
    (hsub : r'.bindings.Sublist r.bindings) : r'.OneBindingEach :=
  h.sublist (hsub.map _)

/-- The repository takes no second binding of a port. -/
theorem OneBindingEach.ends_createMemberPort (h : r.OneBindingEach) (b : MemberPortBinding) :
    (createMemberPort b).Ends r (fun _ r' => r'.OneBindingEach) fun _ r' => r'.OneBindingEach := by
  apply (Repository.ends_createMemberPort b r).mono
  · intro _ r' hend
    obtain ⟨hadded, hfree⟩ := hend
    have hnew : b.portId ∉ r.bindings.map (·.portId) := by
      intro hmem
      obtain ⟨b', hb', hid⟩ := List.mem_map.mp hmem
      exact hfree ⟨b', hb', hid⟩
    unfold OneBindingEach
    rw [hadded.bindings, addBinding, List.map_append, List.map_singleton, ← List.concat_eq_append]
    exact List.Nodup.concat hnew h
  · exact fun _ r' hend => h.of_sublist (hend.1.bindings ▸ .refl _)

/-- A record that is removed leaves no second one of its port. -/
theorem OneBindingEach.ends_deleteMemberPort (h : r.OneBindingEach) (portId : String) :
    (deleteMemberPort portId).Ends r (fun _ r' => r'.OneBindingEach)
      fun _ r' => r'.OneBindingEach := by
  apply (Repository.ends_deleteMemberPort portId r).mono
  · exact fun _ r' hdropped => h.of_sublist (hdropped.bindings ▸ List.filter_sublist)
  · exact fun _ r' hend => h.of_sublist (hend.1.bindings ▸ .refl _)

theorem OneBindingEach.portIdsOf_nodup (h : r.OneBindingEach) (amphoraId : String) :
    (r.portIdsOf amphoraId).Nodup :=
  h.sublist (List.filter_sublist.map _)

theorem bound_of_mem_portIdsOf {id : String} (h : id ∈ r.portIdsOf amphoraId) : r.Bound id := by
  obtain ⟨b, hb, rfl⟩ := List.mem_map.mp h
  exact ⟨b, List.mem_of_mem_filter hb, rfl⟩

/-- A port that is bound to another amphora is not bound to this one. -/
theorem OneBindingEach.not_mem_portIdsOf (h : r.OneBindingEach) {b : MemberPortBinding}
    (hb : b ∈ r.bindings) (hother : b.amphoraId ≠ amphoraId) :
    b.portId ∉ r.portIdsOf amphoraId := by
  intro hmem
  obtain ⟨b', hb', hid⟩ := List.mem_map.mp hmem
  obtain ⟨hmem', hown⟩ := List.mem_filter.mp hb'
  have heq : b' = b := List.inj_on_of_nodup_map h hmem' hb hid
  exact hother (heq ▸ of_decide_eq_true hown)

end Repository

namespace Substrate

variable {s t : Substrate} {calls : List JournalEntry} {op : Operation} {ids : List String}
  {id : String}

theorem Issues.callsUntil (h : s.Issues calls t) : s.callsUntil t = calls := by
  rw [Substrate.callsUntil, h.journal, List.drop_left]

/-- Where no deletion is due to fail, no port that exists is denied. -/
theorem truthful_of_due_nil (hdue : s.failuresDue .deletePort = []) : s.Truthful t := by
  intro id h
  obtain ⟨k, what, -, hfailure⟩ := h
  simp [hdue] at hfailure

/-- A call for which no failure is due does not fail as scripted. -/
theorem Struck.not_mem (h : s.Struck op ids id) (hdue : s.failuresDue op = []) : id ∉ ids := by
  rw [struck_iff, passing, hdue] at h
  exact h

end Substrate

/-- The same deployment, with no failure of the substrate to come. -/
def Deployment.undisturbed (d : Deployment) : Deployment :=
  { d with substrate := { d.substrate with faults := [] } }

namespace Disposal

variable {xs : List Disposal} {x : Disposal} {call : JournalEntry}

theorem target_of_mem_calls (h : call ∈ x.calls) : call.target = x.portId := by
  rcases List.mem_append.mp h with h | h
  · rw [List.eq_of_mem_replicate h]
  · split at h
    · rw [List.mem_singleton.mp h]
    · cases h

/-- A port that was given up on is taken down once. -/
theorem count_adminDownPort (hreason : x.reason ≠ none) :
    x.calls.count ⟨.adminDownPort, x.portId⟩ = 1 := by
  have hsome : x.reason.isSome := Option.isSome_iff_ne_none.mpr hreason
  simp [calls, hsome, List.count_replicate]

/-- Among different ports each is taken out of service by a call of its own. -/
theorem count_flatMap_calls (hnodup : (xs.map (·.portId)).Nodup) (hx : x ∈ xs)
    (hreason : x.reason ≠ none) :
    (xs.flatMap calls).count ⟨.adminDownPort, x.portId⟩ = 1 := by
  obtain ⟨before, after, rfl⟩ := List.append_of_mem hx
  have hothers : ∀ ys : List Disposal, x.portId ∉ ys.map (·.portId) →
      (ys.flatMap calls).count ⟨.adminDownPort, x.portId⟩ = 0 := by
    intro ys hys
    rw [List.count_eq_zero]
    intro hmem
    obtain ⟨y, hy, hcall⟩ := List.mem_flatMap.mp hmem
    exact hys (List.mem_map.mpr ⟨y, hy, (target_of_mem_calls hcall).symm⟩)
  rw [List.map_append, List.map_cons, List.nodup_middle, List.nodup_cons, List.mem_append,
    not_or] at hnodup
  rw [List.flatMap_append, List.flatMap_cons, List.count_append, List.count_append,
    hothers before hnodup.1.1, hothers after hnodup.1.2, count_adminDownPort hreason]

end Disposal

namespace Step

open Deployment

variable {passive : Bool} {amphoraId : String} {xs : List Disposal} {failing : List JournalEntry}
  {d d' : Deployment} {run : Run Deployment}

/-- The ports that are bound to the amphora, in the order of their bindings. -/
theorem ends_deleteAmphoraMemberPorts (policy : RetryPolicy) (passive : Bool) (amphoraId : String)
    (hharmless : run.state.repository.Harmless) (hbound : run.state.repository.OneBindingEach) :
    Action.Ends (deleteAmphoraMemberPorts policy passive amphoraId).execute run
      (fun results run' => ∃ xs : List Disposal,
        run.state.repository.portIdsOf amphoraId = xs.map (·.portId) ∧
        results = xs.map Disposal.deletion ∧
        Disposed passive amphoraId xs [] run.state run'.state)
      fun _ run' => ∃ (xs : List Disposal) (id : String) (rest : List String) (attempts : Nat),
        run.state.repository.portIdsOf amphoraId = xs.map (·.portId) ++ id :: rest ∧
        BrokenOff passive amphoraId xs id attempts run.state run'.state := by
  refine (ends_onRepository (Repository.ends_getMemberPortIds amphoraId _)).bind ?_ ?_
  · intro ids run₁ hend
    obtain ⟨⟨hheard, hids⟩, hsubstrate, haudit⟩ := hend
    have hids : ids = run.state.repository.portIdsOf amphoraId := by
      rw [hids, Repository.records, List.map_map]
      rfl
    subst hids
    refine (ends_mapM_removeMemberPort policy passive amphoraId _
      (hbound.portIdsOf_nodup amphoraId) (hheard.harmless hharmless) ?_).mono ?_ ?_
    · intro id hid
      exact (hheard.bound_iff id).mpr (Repository.bound_of_mem_portIdsOf hid)
    · intro results run₂ hend
      obtain ⟨xs, hxs, hresults, hdisposed⟩ := hend
      exact ⟨xs, hxs, hresults, hdisposed.of_heard hheard hsubstrate haudit⟩
    · intro _ run₂ hend
      obtain ⟨xs, id, rest, attempts, hxs, hbroken⟩ := hend
      exact ⟨xs, id, rest, attempts, hxs, hbroken.disposed.of_heard hheard hsubstrate haudit,
        hbroken.attempted, hsubstrate ▸ hbroken.struck⟩
  · intro _ run' hend
    obtain ⟨⟨_, -, hharm⟩, -⟩ := hend
    exact absurd hharmless hharm

/-! What the amphora is left with -/

section

variable {done left : List MemberPortBinding}

theorem Disposed.oneBindingEach (h : Disposed passive amphoraId xs failing d d')
    (hbound : d.repository.OneBindingEach) : d'.repository.OneBindingEach :=
  hbound.of_sublist (h.bindings ▸ List.filter_sublist)

/-- A port that was disposed of is not recorded. -/
theorem Disposed.not_bound (h : Disposed passive amphoraId xs failing d d') {id : String}
    (hid : id ∈ xs.map (·.portId)) : ¬ d'.repository.Bound id := by
  intro hbound
  obtain ⟨b, hb, rfl⟩ := hbound
  rw [h.bindings, List.mem_filter] at hb
  exact of_decide_eq_true hb.2 hid

/-- The bindings of the ports that were disposed of are gone, and the others are left. -/
theorem Disposed.bindingsOf_eq (h : Disposed passive amphoraId xs failing d d')
    (hbound : d.repository.OneBindingEach)
    (hsplit : d.repository.bindingsOf amphoraId = done ++ left)
    (hdone : done.map (·.portId) = xs.map (·.portId)) :
    d'.repository.bindingsOf amphoraId = left := by
  have hnodup := hbound.portIdsOf_nodup amphoraId
  rw [Repository.portIdsOf, hsplit, List.map_append] at hnodup
  have hdisjoint := List.disjoint_of_nodup_append hnodup
  have hforgotten : done.filter (fun b => b.portId ∉ xs.map (·.portId)) = [] := by
    rw [List.filter_eq_nil_iff]
    intro b hb
    rw [← hdone]
    simpa using ⟨b, hb, rfl⟩
  have hkept : left.filter (fun b => b.portId ∉ xs.map (·.portId)) = left := by
    rw [List.filter_eq_self]
    intro b hb
    rw [← hdone]
    exact decide_eq_true fun hmem => hdisjoint hmem (List.mem_map_of_mem hb)
  have hswap : d'.repository.bindingsOf amphoraId =
      (d.repository.bindingsOf amphoraId).filter fun b => b.portId ∉ xs.map (·.portId) := by
    unfold Repository.bindingsOf
    rw [h.bindings, List.filter_filter, List.filter_filter]
    exact List.filter_congr fun _ _ => Bool.and_comm _ _
  rw [hswap, hsplit, List.filter_append, hforgotten, hkept, List.nil_append]

/-- Nothing of what belongs to other amphorae has changed, and no port without a binding. -/
structure SparesOthers (amphoraId : String) (d d' : Deployment) : Prop where
  bindings : ∀ other ≠ amphoraId,
    d'.repository.bindingsOf other = d.repository.bindingsOf other
  bound : ∀ b ∈ d.repository.bindings, b.amphoraId ≠ amphoraId →
    d.substrate.Untouched d'.substrate b.portId
  unbound : ∀ id, ¬ d.repository.Bound id → d.substrate.Untouched d'.substrate id

theorem Disposed.sparesOthers (h : Disposed passive amphoraId xs failing d d')
    (hbound : d.repository.OneBindingEach)
    (hown : xs.map (·.portId) ⊆ d.repository.portIdsOf amphoraId) :
    SparesOthers amphoraId d d' := by
  have hapart : ∀ b ∈ d.repository.bindings, b.amphoraId ≠ amphoraId →
      b.portId ∉ xs.map (·.portId) :=
    fun b hb hother hmem => hbound.not_mem_portIdsOf hb hother (hown hmem)
  constructor
  case bindings =>
    intro other hother
    unfold Repository.bindingsOf
    rw [h.bindings, List.filter_filter]
    apply List.filter_congr
    intro b hb
    by_cases heq : b.amphoraId = other
    · have hkept := hapart b hb (heq ▸ hother)
      simp [heq, hkept]
    · simp [heq]
  case bound => exact fun b hb hother => h.ports.untouched (hapart b hb hother)
  case unbound =>
    intro id hfree
    exact h.ports.untouched fun hmem => hfree (Repository.bound_of_mem_portIdsOf (hown hmem))

end

/-- The port was given up: it was to be taken out of service once, it is reported, and it is still
there if it was there before. -/
structure Abandoned (d d' : Deployment) (id : String) : Prop where
  downed : (d.substrate.callsUntil d'.substrate).count ⟨.adminDownPort, id⟩ = 1
  reported : ∃ reason, ⟨.warn, d.audit.component,
    "Port abandoned, manual cleanup required: " ++ reason, [id]⟩ ∈
      d'.audit.events.drop d.audit.events.length
  kept : d'.substrate.ports.contains id ↔ d.substrate.ports.contains id

/-- The port has come to the end that the result tells. What counts as deleted is gone, if it was
told only of ports that do not exist that they do not. -/
inductive Settled (passive : Bool) (d d' : Deployment) (id : String) : PortDeletion → Prop where
  | deleted (h : d.substrate.Truthful d'.substrate → d'.substrate.ports.get? id = none) :
      Settled passive d d' id .deleted
  | abandoned (hpassive : passive = true) (h : Abandoned d d' id) :
      Settled passive d d' id .abandoned

/-- There is a result for every binding, and the amphora has no binding any more. -/
structure Emptied (passive : Bool) (amphoraId : String) (results : List PortDeletion)
    (d d' : Deployment) : Prop where
  settled : List.Forall₂ (fun b r => Settled passive d d' b.portId r)
    (d.repository.bindingsOf amphoraId) results
  unbound : d'.repository.bindingsOf amphoraId = []

theorem Disposed.abandoned (h : Disposed passive amphoraId xs failing d d')
    (hnodup : (xs.map (·.portId)).Nodup) (hfailing : ∀ call ∈ failing, call.operation = .deletePort)
    {x : Disposal} (hx : x ∈ xs) (hreason : x.reason ≠ none) : Abandoned d d' x.portId where
  downed := by
    have hnone : failing.count ⟨.adminDownPort, x.portId⟩ = 0 := by
      rw [List.count_eq_zero]
      intro hmem
      cases hfailing _ hmem
    rw [h.ports.issues.callsUntil, List.count_append,
      Disposal.count_flatMap_calls hnodup hx hreason, hnone]
  reported := by
    obtain ⟨e, he⟩ := Option.ne_none_iff_exists'.mp hreason
    refine ⟨e.message, ?_⟩
    rw [h.audit, List.drop_left]
    refine List.mem_flatMap.mpr ⟨x, hx, ?_⟩
    simp [Disposal.events, Disposal.verdict, he]
  kept := (h.ports.abandoned x hx hreason).2.2

/-- A port that was reported as deleted is gone. -/
theorem Disposed.gone (h : Disposed passive amphoraId xs failing d d')
    (htruthful : d.substrate.Truthful d'.substrate) {x : Disposal} (hx : x ∈ xs)
    (hreason : x.reason = none) : d'.substrate.ports.get? x.portId = none := by
  rcases h.ports.deleted x hx hreason with hgone | ⟨hdenied, hsame⟩
  · exact hgone
  · rw [hsame]
    refine htruthful x.portId ?_
    rw [h.ports.issues.callsUntil, asked_append]
    exact hdenied.append _

theorem Disposed.settled (h : Disposed passive amphoraId xs failing d d')
    (hnodup : (xs.map (·.portId)).Nodup) (hfailing : ∀ call ∈ failing, call.operation = .deletePort)
    {x : Disposal} (hx : x ∈ xs) : Settled passive d d' x.portId x.deletion := by
  unfold Disposal.deletion
  cases hreason : x.reason with
  | none => exact .deleted fun htruthful => h.gone htruthful hx hreason
  | some e =>
    have hgiven : x.reason ≠ none := by simp [hreason]
    exact .abandoned (h.ports.abandoned x hx hgiven).1 (h.abandoned hnodup hfailing hx hgiven)

theorem Disposed.emptied (h : Disposed passive amphoraId xs [] d d')
    (hbound : d.repository.OneBindingEach)
    (hxs : d.repository.portIdsOf amphoraId = xs.map (·.portId)) :
    Emptied passive amphoraId (xs.map Disposal.deletion) d d' where
  settled := by
    have hnodup := hxs ▸ hbound.portIdsOf_nodup amphoraId
    have hports : List.Forall₂ (fun b x => b.portId = x.portId)
        (d.repository.bindingsOf amphoraId) xs := by
      rwa [Repository.portIdsOf, ← List.forall₂_eq_eq_eq, List.forall₂_map_left_iff,
        List.forall₂_map_right_iff] at hxs
    rw [List.forall₂_map_right_iff, List.forall₂_iff_zip]
    refine ⟨hports.length_eq, fun hmem => ?_⟩
    rw [(List.forall₂_iff_zip.mp hports).2 hmem]
    exact h.settled hnodup (by simp) (List.of_mem_zip hmem).2
  unbound := h.bindingsOf_eq hbound (List.append_nil _).symm hxs

/-- With no failure to come every port that is bound to the amphora is deleted, however the context
bounds the waiting: there is nothing to wait for. -/
theorem ends_deleteAmphoraMemberPorts_undisturbed (policy : RetryPolicy) (passive : Bool)
    (amphoraId : String) (run : Run Deployment) (hharmless : run.state.repository.Harmless)
    (hbound : run.state.repository.OneBindingEach)
    (hdue : run.state.substrate.failuresDue .deletePort = []) :
    Action.Ends (deleteAmphoraMemberPorts policy passive amphoraId).execute run
      (fun results run' =>
        results = List.replicate (run.state.repository.bindingsOf amphoraId).length .deleted ∧
        run'.state.repository.bindingsOf amphoraId = [] ∧
        (∀ b ∈ run.state.repository.bindingsOf amphoraId,
          run'.state.substrate.ports.get? b.portId = none) ∧
        SparesOthers amphoraId run.state run'.state)
      fun _ _ => False := by
  apply (ends_deleteAmphoraMemberPorts policy passive amphoraId hharmless hbound).mono
  · intro results run' hend
    obtain ⟨xs, hxs, rfl, hdisposed⟩ := hend
    have hemptied := hdisposed.emptied hbound hxs
    have hdeleted : ∀ x ∈ xs, x.reason = none := by
      intro x hx
      by_contra hreason
      have hstruck := (hdisposed.ports.abandoned x hx hreason).2.1
      exact hstruck.not_mem hdue (mem_asked_flatMap_calls.mpr (List.mem_map_of_mem hx))
    refine ⟨List.eq_replicate_iff.mpr ⟨hemptied.settled.length_eq.symm, ?_⟩, hemptied.unbound, ?_,
      hdisposed.sparesOthers hbound (hxs ▸ List.Subset.refl _)⟩
    · intro r hr
      obtain ⟨x, hx, rfl⟩ := List.mem_map.mp hr
      simp [Disposal.deletion, hdeleted x hx]
    · intro b hb
      have hmem : b.portId ∈ xs.map (·.portId) := hxs ▸ List.mem_map_of_mem hb
      obtain ⟨x, hx, hport⟩ := List.mem_map.mp hmem
      exact hport ▸ hdisposed.gone (truthful_of_due_nil hdue) hx (hdeleted x hx)
  · intro _ run' hend
    obtain ⟨xs, id, rest, attempts, -, hbroken⟩ := hend
    have hpos := hbroken.attempted
    refine hbroken.struck.not_mem hdue ?_
    rw [asked_append, asked_replicate]
    exact List.mem_append_right _ (List.mem_replicate.mpr ⟨by omega, rfl⟩)

/-- The work has failed. The bindings that are left begin with `b`, because every call to delete
the port of `b` failed, and the work can be taken up there. -/
structure Interrupted (passive : Bool) (amphoraId : String) (done : List MemberPortBinding)
    (b : MemberPortBinding) (later : List MemberPortBinding) (d d' : Deployment) : Prop where
  split : d.repository.bindingsOf amphoraId = done ++ b :: later
  left : d'.repository.bindingsOf amphoraId = b :: later
  settled : ∀ b' ∈ done, ∃ r, Settled passive d d' b'.portId r
  tried : ⟨.deletePort, b.portId⟩ ∈ d.substrate.callsUntil d'.substrate
  failed : d.substrate.Struck .deletePort
    (asked .deletePort (d.substrate.callsUntil d'.substrate)) b.portId
  untouched : ∀ b' ∈ b :: later, d.substrate.Untouched d'.substrate b'.portId
  resumable : ∀ (policy : RetryPolicy) (passive : Bool) (c : Context), ∃ run : Run Deployment,
    (deleteAmphoraMemberPorts policy passive amphoraId).execute.runOn ⟨c, d'.undisturbed⟩ =
      (.ok (List.replicate (b :: later).length .deleted), run) ∧
    run.state.repository.bindingsOf amphoraId = [] ∧
    (∀ b' ∈ b :: later, run.state.substrate.ports.get? b'.portId = none) ∧
    ∀ b' ∈ done, d'.substrate.Untouched run.state.substrate b'.portId

theorem BrokenOff.interrupted {id : String} {attempts : Nat} {rest : List String}
    (h : BrokenOff passive amphoraId xs id attempts d d') (hbound : d.repository.OneBindingEach)
    (hxs : d.repository.portIdsOf amphoraId = xs.map (·.portId) ++ id :: rest) :
    ∃ done b later, Interrupted passive amphoraId done b later d d' := by
  obtain ⟨done, left, hsplit, hdone, hleft⟩ := List.map_eq_append_iff.mp hxs
  obtain ⟨b, later, rfl, rfl, rfl⟩ := List.map_eq_cons_iff.mp hleft
  have hcalls := h.disposed.ports.issues.callsUntil
  have hbindings := h.disposed.bindingsOf_eq hbound hsplit hdone
  have hnodup := hbound.portIdsOf_nodup amphoraId
  rw [hxs] at hnodup
  refine ⟨done, b, later, hsplit, hbindings, ?_, ?_, ?_, ?_, ?_⟩
  · intro b' hb'
    have hmem : b'.portId ∈ xs.map (·.portId) := hdone ▸ List.mem_map_of_mem hb'
    obtain ⟨x, hx, hport⟩ := List.mem_map.mp hmem
    refine ⟨x.deletion, hport ▸ h.disposed.settled hnodup.of_append_left ?_ hx⟩
    intro call hcall
    rw [List.eq_of_mem_replicate hcall]
  · rw [hcalls]
    refine List.mem_append_right _ (List.mem_replicate.mpr ⟨?_, rfl⟩)
    exact Nat.pos_iff_ne_zero.mp h.attempted
  · rw [hcalls]
    exact h.struck
  · intro b' hb'
    refine h.disposed.ports.untouched fun hmem => ?_
    exact List.disjoint_of_nodup_append hnodup hmem (List.mem_map_of_mem hb')
  · intro policy passive' c
    obtain ⟨results, run, hrun, rfl, hunbound, hgone, hspares⟩ :=
      (ends_deleteAmphoraMemberPorts_undisturbed policy passive' amphoraId ⟨c, d'.undisturbed⟩
        h.disposed.harmless (h.disposed.oneBindingEach hbound) rfl).value
    change d'.undisturbed.repository.bindingsOf amphoraId = b :: later at hbindings
    rw [hbindings] at hrun hgone
    refine ⟨run, hrun, hunbound, hgone, fun b' hb' => ?_⟩
    have hmem : b'.portId ∈ xs.map (·.portId) := hdone ▸ List.mem_map_of_mem hb'
    obtain ⟨hport, hplugged⟩ := hspares.unbound b'.portId (h.disposed.not_bound hmem)
    exact ⟨hport, hplugged⟩

/-- Deleting the member ports of an amphora is accurate, and can be taken up again where it failed.
What belongs to other amphorae is never touched. -/
theorem member_ports_deleted_or_resumable (policy : RetryPolicy) (passive : Bool)
    (amphoraId : String) (run : Run Deployment) (hharmless : run.state.repository.Harmless)
    (hbound : run.state.repository.OneBindingEach) :
    (deleteAmphoraMemberPorts policy passive amphoraId).execute.Ends run
      (fun results run' => Emptied passive amphoraId results run.state run'.state ∧
        SparesOthers amphoraId run.state run'.state)
      fun _ run' =>
        (∃ done b later, Interrupted passive amphoraId done b later run.state run'.state) ∧
        SparesOthers amphoraId run.state run'.state := by
  apply (ends_deleteAmphoraMemberPorts policy passive amphoraId hharmless hbound).mono
  · intro results run' hend
    obtain ⟨xs, hxs, rfl, hdisposed⟩ := hend
    exact ⟨hdisposed.emptied hbound hxs, hdisposed.sparesOthers hbound (hxs ▸ List.Subset.refl _)⟩
  · intro _ run' hend
    obtain ⟨xs, id, rest, attempts, hxs, hbroken⟩ := hend
    refine ⟨hbroken.interrupted hbound hxs, hbroken.disposed.sparesOthers hbound ?_⟩
    rw [hxs]
    exact List.subset_append_left _ _

end Step

namespace Sample

def binding (amphoraId portId : String) : MemberPortBinding where
  amphoraId := amphoraId
  portId := portId
  networkId := "mgmt-net"

/-- The first amphora has bindings of a port that does not exist and of its only port, the second
one of its port. -/
def bound (faults : List ScriptedFault) : Run Deployment where
  context := {}
  state := {
    substrate := { substrate with faults }
    repository := { bindings :=
      [binding "amp-1" "gone", binding "amp-1" (drawnId 1), binding "amp-2" (drawnId 2)] } }

def twice : RetryPolicy := { RetryPolicy.standard with maxAttempts := 2 }

end Sample

namespace Step

/-- A port is said not to exist and another one is given up after two attempts. Where the second
port resists for good, its binding stays and the next time the port is deleted. -/
theorem member_ports_deleted_or_resumable_sample :
    (∃ run', (deleteAmphoraMemberPorts Sample.twice true "amp-1").execute.runOn
        (Sample.bound [⟨.deletePort, .portNotFound "gone", 1⟩, ⟨.deletePort, .driver "busy", 2⟩]) =
          (.ok [.deleted, .abandoned], run') ∧
      run'.state.substrate.ports.get? "gone" = none ∧
      run'.state.substrate.ports.contains (drawnId 1) ∧
      run'.state.repository.bindingsOf "amp-1" = []) ∧
    ∃ e run', (deleteAmphoraMemberPorts Sample.twice true "amp-1").execute.runOn
        (Sample.bound [⟨.deletePort, .portNotFound "gone", 1⟩,
          ⟨.deletePort, .invalidInput "locked", 1⟩]) = (.error e, run') ∧
      run'.state.repository.bindingsOf "amp-1" = [Sample.binding "amp-1" (drawnId 1)] ∧
      ∃ again : Run Deployment, (deleteAmphoraMemberPorts Sample.twice false "amp-1").execute.runOn
          ⟨{}, run'.state.undisturbed⟩ = (.ok [.deleted], again) ∧
        again.state.substrate.ports.get? (drawnId 1) = none := by
  constructor
  · obtain ⟨start, hstart, hscript, hbound, hbindings, hdue, hgone, hthere, hend⟩ : ∃ start,
        start = Sample.bound
          [⟨.deletePort, .portNotFound "gone", 1⟩, ⟨.deletePort, .driver "busy", 2⟩] ∧
        start.state.repository.script = [] ∧
        (start.state.repository.bindings.map (·.portId)).Nodup ∧
        start.state.repository.bindingsOf "amp-1" =
          [Sample.binding "amp-1" "gone", Sample.binding "amp-1" (drawnId 1)] ∧
        start.state.substrate.failuresDue .deletePort =
          [.portNotFound "gone", .driver "busy", .driver "busy"] ∧
        start.state.substrate.ports.get? "gone" = none ∧
        start.state.substrate.ports.contains (drawnId 1) ∧
        ∀ reached ∈ [(deleteAmphoraMemberPorts Sample.twice true "amp-1").execute.runOn start],
          reached.1.toOption = some [.deleted, .abandoned] ∧
          (asked .deletePort (start.state.substrate.callsUntil
            reached.2.state.substrate))[0]? = some "gone" :=
      ⟨_, rfl, by decide +kernel⟩
    rw [← hstart]
    obtain ⟨hresults, hasked⟩ := hend _ List.mem_cons_self
    obtain ⟨results, run', hrun⟩ := exists_of_isSome
      (deleteAmphoraMemberPorts Sample.twice true "amp-1").execute start (by rw [hresults]; rfl)
    rw [hrun] at hresults hasked
    cases hresults
    obtain ⟨hemptied, -⟩ := (member_ports_deleted_or_resumable Sample.twice true "amp-1" start
      (Repository.harmless_of_script_nil hscript) hbound).of_ok hrun
    have htruthful : start.state.substrate.Truthful run'.state.substrate := by
      intro id h
      obtain ⟨k, what, htarget, hfailure⟩ := h
      rw [hdue] at hfailure
      rcases k with _ | _ | _ | k
      · cases hasked.symm.trans htarget
        exact hgone
      all_goals simp at hfailure
    have hsettled := hemptied.settled
    rw [hbindings, List.forall₂_cons, List.forall₂_cons] at hsettled
    obtain ⟨hdeleted, habandoned, -⟩ := hsettled
    refine ⟨run', hrun, ?_, ?_, hemptied.unbound⟩
    · cases hdeleted with
      | deleted h => exact h htruthful
    · cases habandoned with
      | abandoned _ h => exact h.kept.mpr hthere
  · obtain ⟨start, hstart, hscript, hbound, hend⟩ : ∃ start,
        start = Sample.bound
          [⟨.deletePort, .portNotFound "gone", 1⟩, ⟨.deletePort, .invalidInput "locked", 1⟩] ∧
        start.state.repository.script = [] ∧
        (start.state.repository.bindings.map (·.portId)).Nodup ∧
        ∀ reached ∈ [(deleteAmphoraMemberPorts Sample.twice true "amp-1").execute.runOn start],
          reached.1.toOption.isNone ∧ reached.2.state.repository.bindingsOf "amp-1" =
            [Sample.binding "amp-1" (drawnId 1)] :=
      ⟨_, rfl, by decide +kernel⟩
    rw [← hstart]
    obtain ⟨hfails, hleft⟩ := hend _ List.mem_cons_self
    rcases hrun : (deleteAmphoraMemberPorts Sample.twice true "amp-1").execute.runOn start with
      ⟨e | results, run'⟩
    · rw [hrun] at hleft
      obtain ⟨⟨done, b, later, hinterrupted⟩, -⟩ :=
        (member_ports_deleted_or_resumable Sample.twice true "amp-1" start
          (Repository.harmless_of_script_nil hscript) hbound).of_error hrun
      cases hinterrupted.left.symm.trans hleft
      obtain ⟨again, hagain, -, hgone, -⟩ := hinterrupted.resumable Sample.twice false {}
      exact ⟨e, run', rfl, hleft, again, hagain, hgone _ List.mem_cons_self⟩
    · rw [hrun] at hfails
      cases hfails

end Step

end AmphoraWiring
