import AmphoraWiring.Proofs.Substrate.Addresses

/-!
Scripted failures, call by call. Those scripted for an operation stand in a line: each call of the
operation fails with the first of them and takes it away, and once none is left the calls do their
work. So the calls that fail as scripted can be told from the state in which a run begins: of the
calls of one operation they are the first ones, as many as there are failures in the line.
-/
namespace AmphoraWiring.Substrate

open Action

/-- The failures scripted for the operation, each as often as it is to happen. -/
def failuresOf (op : Operation) (faults : List ScriptedFault) : List NetworkError :=
  faults.flatMap fun f =>
    if f.operation = op then List.replicate (max f.remaining 1) f.error else []

/-- The failures of the operation that are still to come, the next one first. -/
def failuresDue (s : Substrate) (op : Operation) : List NetworkError := failuresOf op s.faults

theorem failuresOf_cons_self {op : Operation} {f : ScriptedFault} (h : f.operation = op)
    (faults : List ScriptedFault) : failuresOf op (f :: faults) =
      List.replicate (max f.remaining 1) f.error ++ failuresOf op faults := by
  simp [failuresOf, h]

theorem failuresOf_cons_of_ne {op : Operation} {f : ScriptedFault} (h : f.operation ≠ op)
    (faults : List ScriptedFault) : failuresOf op (f :: faults) = failuresOf op faults := by
  simp [failuresOf, h]

/-- A call takes the first failure in the line of its operation, and none of another line. -/
theorem takeFault_cases (op : Operation) (faults : List ScriptedFault) :
    match takeFault op faults with
    | none => failuresOf op faults = []
    | some (e, rest) => failuresOf op faults = e :: failuresOf op rest ∧
        ∀ other ≠ op, failuresOf other rest = failuresOf other faults := by
  induction faults with
  | nil => rfl
  | cons f faults ih =>
    by_cases hop : f.operation = op
    · have hother : ∀ other ≠ op, f.operation ≠ other := fun other hne heq => hne (heq ▸ hop)
      by_cases hlast : f.remaining ≤ 1
      · have hone : max f.remaining 1 = 1 := by omega
        simp only [takeFault, if_pos hop, if_pos hlast]
        refine ⟨by simp [failuresOf_cons_self hop, hone], fun other hne => ?_⟩
        rw [failuresOf_cons_of_ne (hother other hne)]
      · obtain ⟨left, hleft⟩ : ∃ left, f.remaining = left + 2 := ⟨f.remaining - 2, by omega⟩
        simp only [takeFault, if_pos hop, if_neg hlast]
        constructor
        · rw [failuresOf_cons_self hop, failuresOf_cons_self (by exact hop)]
          simp [hleft, List.replicate_succ]
        · intro other hne
          rw [failuresOf_cons_of_ne (hother other hne), failuresOf_cons_of_ne]
          exact hother other hne
    · simp only [takeFault, if_neg hop]
      rw [failuresOf_cons_of_ne hop]
      cases htake : takeFault op faults with
      | none =>
        rw [htake] at ih
        exact ih
      | some taken =>
        rw [htake] at ih
        refine ⟨ih.1.trans (congrArg _ (failuresOf_cons_of_ne hop _).symm), fun other hne => ?_⟩
        by_cases heq : f.operation = other
        · rw [failuresOf_cons_self heq, failuresOf_cons_self heq, ih.2 other hne]
        · rw [failuresOf_cons_of_ne heq, failuresOf_cons_of_ne heq, ih.2 other hne]

/-- Exactly these calls were made between the states, and each took the failure that was due for
it, if there was one. -/
structure Issues (s : Substrate) (calls : List JournalEntry) (t : Substrate) : Prop where
  journal : t.journal = s.journal ++ calls
  due : ∀ op, t.failuresDue op =
    (s.failuresDue op).drop (calls.countP fun call => call.operation = op)

variable {s t u : Substrate} {op : Operation} {target : String} {calls calls' : List JournalEntry}

/-- A failure is due if the script has one for the operation. -/
theorem due_iff : s.Due op ↔ s.failuresDue op ≠ [] := by
  have htaken := takeFault_cases op s.faults
  unfold Due failuresDue
  cases htake : takeFault op s.faults with
  | none =>
    rw [htake] at htaken
    simp [htaken]
  | some taken =>
    rw [htake] at htaken
    simp [htaken.1]

namespace Issues

theorem refl (s : Substrate) : s.Issues [] s := ⟨(List.append_nil _).symm, fun _ => rfl⟩

theorem trans (h : s.Issues calls t) (h' : t.Issues calls' u) : s.Issues (calls ++ calls') u where
  journal := by rw [h'.journal, h.journal, List.append_assoc]
  due := fun op => by rw [h'.due, h.due, List.drop_drop, List.countP_append]

/-- Work that calls nothing. -/
theorem of_eq (hjournal : t.journal = s.journal) (hfaults : t.faults = s.faults) :
    s.Issues [] t :=
  ⟨by rw [hjournal, List.append_nil], fun op => by rw [failuresDue, hfaults]; rfl⟩

/-- Where every call was one of the operation. -/
theorem due_of_map {α : Type} {l : List α} {f : α → JournalEntry}
    (h : s.Issues (l.map f) t) (hop : ∀ x, (f x).operation = op) :
    t.failuresDue op = (s.failuresDue op).drop l.length := by
  rw [h.due, List.countP_map]
  congr 1
  exact List.countP_eq_length.mpr fun x _ => by simpa using hop x

/-- A line from which no call was made is as it was. -/
theorem due_of_ne {l : List JournalEntry} (h : s.Issues l t)
    (hop : ∀ call ∈ l, call.operation ≠ op) : t.failuresDue op = s.failuresDue op := by
  rw [h.due, List.countP_eq_zero.mpr fun call hcall => by simpa using hop call hcall]
  rfl

end Issues

/-! Calls of one operation with given targets, made one after the other -/

section

variable {β : Type} {targets done : List β} {x : β}

/-- The targets of the calls that do not fail as scripted. -/
def passing (s : Substrate) (op : Operation) (targets : List β) : List β :=
  targets.drop (s.failuresDue op).length

/-- Every call for the target fails as scripted. -/
def Struck (s : Substrate) (op : Operation) (targets : List β) (target : β) : Prop :=
  ∀ i : Nat, targets[i]? = some target → i < (s.failuresDue op).length

/-- The targets that are struck are those that do not pass. -/
theorem struck_iff : s.Struck op targets x ↔ x ∉ s.passing op targets := by
  simp only [Struck, passing, List.mem_drop_iff_getElem, not_exists]
  constructor
  · intro h i hi heq
    have hlt := h ((s.failuresDue op).length + i) (List.getElem?_eq_some_iff.mpr ⟨_, heq⟩)
    omega
  · intro h i hi
    obtain ⟨hlt, heq⟩ := List.getElem?_eq_some_iff.mp hi
    by_contra hle
    obtain ⟨j, rfl⟩ : ∃ j, i = (s.failuresDue op).length + j :=
      ⟨i - (s.failuresDue op).length, by omega⟩
    exact h j (by omega) heq

theorem struck_singleton_iff {y : β} :
    s.Struck op [y] x ↔ (x = y → s.failuresDue op ≠ []) := by
  rw [struck_iff, passing]
  cases s.failuresDue op <;> simp

/-- The failures that are used up by the first calls do not strike the later ones. -/
theorem passing_append (h : t.failuresDue op = (s.failuresDue op).drop done.length)
    (rest : List β) :
    s.passing op (done ++ rest) = s.passing op done ++ t.passing op rest := by
  simp only [passing, h, List.length_drop, List.drop_append]

theorem passing_concat (h : t.failuresDue op = (s.failuresDue op).drop done.length) (x : β) :
    s.passing op (done ++ [x]) =
      if t.failuresDue op = [] then s.passing op done ++ [x] else s.passing op done := by
  rw [passing_append h]
  cases hdue : t.failuresDue op with
  | nil => simp [passing, hdue]
  | cons e rest => simp [passing, hdue]

/-- A target is struck in each part of the calls. -/
theorem struck_append (h : t.failuresDue op = (s.failuresDue op).drop done.length)
    (rest : List β) :
    s.Struck op (done ++ rest) x ↔ s.Struck op done x ∧ t.Struck op rest x := by
  rw [struck_iff, struck_iff, struck_iff, passing_append h, List.mem_append, not_or]

end

/-- A call fails with the failure that is due for it, and does its work if there is none. -/
theorem ends_scripted {rest : Call α} {ok : α → Substrate → Prop}
    {bad : NetworkError → Substrate → Prop}
    (hfault : ∀ e t, s.Heard t → s.Issues [⟨op, target⟩] t → (s.failuresDue op).head? = some e →
      bad e t)
    (hrest : ∀ t, s.Heard t → s.Issues [⟨op, target⟩] t → s.failuresDue op = [] →
      rest.Ends t ok bad) :
    Action.Ends (do begin op target; rest) s ok bad := by
  have htaken := takeFault_cases op s.faults
  cases htake : takeFault op s.faults with
  | none =>
    rw [htake] at htaken
    have hbegin : (begin op target).runOn s = (.ok (), s.journaled [⟨op, target⟩]) := by
      simp only [runOn, begin, htake]
      rfl
    have hissues : s.Issues [⟨op, target⟩] (s.journaled [⟨op, target⟩]) := by
      refine ⟨rfl, fun other => ?_⟩
      by_cases hother : op = other
      · subst hother
        exact (show _ = _ from htaken).trans (by rw [failuresDue, htaken, List.drop_nil])
      · simp [hother]
        rfl
    exact ends_bind_of_ok hbegin (hrest _ ⟨_, _, rfl, id⟩ hissues htaken)
  | some taken =>
    rw [htake] at htaken
    obtain ⟨hline, hothers⟩ := htaken
    have hbegin : (begin op target).runOn s = (.error taken.1,
        { s with journal := s.journal ++ [⟨op, target⟩], faults := taken.2 }) := by
      simp only [runOn, begin, htake]
    have hissues : s.Issues [⟨op, target⟩]
        { s with journal := s.journal ++ [⟨op, target⟩], faults := taken.2 } := by
      refine ⟨rfl, fun other => ?_⟩
      by_cases hother : op = other
      · subst hother
        simp [failuresDue, hline]
      · simp [hother, failuresDue, hothers other (Ne.symm hother)]
    refine ends_bind_of_error hbegin (hfault _ _ ⟨_, _, rfl, fun hnil => ?_⟩ hissues ?_)
    · simp [hnil, takeFault] at htake
    · simp [failuresDue, hline]

/-- A call whose work calls nothing is one call. -/
theorem ends_issues {rest : Call α}
    (hrest : ∀ u, rest.Ends u (fun _ t => u.Issues [] t) fun _ t => u.Issues [] t) :
    Action.Ends (do begin op target; rest) s
      (fun _ t => s.Issues [⟨op, target⟩] t ∧ s.failuresDue op = [])
      fun _ t => s.Issues [⟨op, target⟩] t :=
  ends_scripted (fun _ _ _ hissues _ => hissues) fun t _ hissues hundue =>
    (hrest t).mono (fun _ _ h => ⟨hissues.trans h, hundue⟩) fun _ _ h => hissues.trans h

/-! The calls -/

/-- One call is issued, which fails exactly if a failure is due. -/
theorem ends_deletePort_issues (id : String) (s : Substrate) : (deletePort id).Ends s
    (fun _ t => s.Issues [⟨.deletePort, id⟩] t ∧ (s.removePort id).Heard t ∧
      s.failuresDue .deletePort = [])
    fun e t => s.Issues [⟨.deletePort, id⟩] t ∧ s.Heard t ∧
      (s.failuresDue .deletePort).head? = some e :=
  ends_scripted (fun _ _ h hissues hdue => ⟨hissues, h, hdue⟩) fun _ h hissues hundue =>
    ends_modify_last ⟨hissues.trans (.of_eq rfl rfl), h.removePort id, hundue⟩

/-- One call is issued, whether it fails as scripted or for want of a port. -/
theorem ends_unplugNetwork_issues (c networkId : String) (s : Substrate) :
    (unplugNetwork c networkId).Ends s
      (fun _ t => s.Issues [⟨.unplugNetwork, c ++ "/" ++ networkId⟩] t ∧
        (s.detach c networkId).Heard t ∧ s.plugged.contains c ∧
        s.failuresDue .unplugNetwork = [])
      fun _ t => s.Issues [⟨.unplugNetwork, c ++ "/" ++ networkId⟩] t ∧ s.Heard t ∧
        (s.failuresDue .unplugNetwork = [] → s.plugged.contains c →
          s.idsOn c networkId = []) := by
  have hissues : (unplugNetwork c networkId).Ends s
      (fun _ t => s.Issues [⟨.unplugNetwork, c ++ "/" ++ networkId⟩] t ∧
        s.failuresDue .unplugNetwork = [])
      fun _ t => s.Issues [⟨.unplugNetwork, c ++ "/" ++ networkId⟩] t := by
    refine ends_issues fun u => (ends_portsOfInstance c u).bind ?_ fun _ _ hend => hend.1 ▸ .refl u
    intro ids v hend
    obtain ⟨rfl, -, -⟩ := hend
    apply ends_get
    change Ends (if _ then _ else _) _ _ _
    split
    · exact ends_throw_bind (.refl v)
    · exact ends_modify_last (.of_eq rfl rfl)
  apply ((ends_unplugNetwork_due c networkId s).and hissues).mono
  · exact fun _ _ h => ⟨h.2.1, h.1.1, h.1.2, h.2.2⟩
  · exact fun _ _ h => ⟨h.2, h.1.1, fun hundue => h.1.2 fun hdue => due_iff.mp hdue hundue⟩

/-- However an instance was detached, the same ports exist. -/
theorem ends_unplugNetwork_kept (c networkId : String) (s : Substrate) :
    (unplugNetwork c networkId).Ends s
      (fun _ t => s.Issues [⟨.unplugNetwork, c ++ "/" ++ networkId⟩] t ∧
        ∀ id, t.ports.contains id ↔ s.ports.contains id)
      fun _ t => s.Issues [⟨.unplugNetwork, c ++ "/" ++ networkId⟩] t ∧
        ∀ id, t.ports.contains id ↔ s.ports.contains id := by
  apply (ends_unplugNetwork_issues c networkId s).mono
  · intro _ t hend
    obtain ⟨hissues, hdetached, -, -⟩ := hend
    refine ⟨hissues, fun id => ?_⟩
    rw [hdetached.ports]
    simp only [IdMap.contains, get?_ports_detach]
    split <;> simp
  · intro _ t hend
    obtain ⟨hissues, hheard, -⟩ := hend
    exact ⟨hissues, fun id => by rw [hheard.ports]⟩

theorem ends_updatePort_issues (id : String) (f : Port → Port) (s : Substrate) :
    (updatePort id f).Ends s (fun _ t => s.Issues [] t) fun _ t => s.Issues [] t := by
  apply (ends_updatePort id f s).mono
  · intro _ t hend
    rw [hend.1]
    exact .of_eq rfl rfl
  · exact fun _ t hend => hend.1 ▸ .refl s

theorem ends_applyQosOnPort_issues (policyId : Option String) (portId : String) (s : Substrate) :
    (applyQosOnPort policyId portId).Ends s
      (fun _ t => s.Issues [⟨.applyQosOnPort, portId ++ "=" ++ policyId.getD "none"⟩] t ∧
        (s.amend portId fun p => { p with qosPolicyId := policyId }).Heard t ∧
        s.failuresDue .applyQosOnPort = [])
      fun _ t => s.Issues [⟨.applyQosOnPort, portId ++ "=" ++ policyId.getD "none"⟩] t ∧
        s.Heard t ∧ (s.failuresDue .applyQosOnPort = [] → s.ports.get? portId = none) := by
  refine ends_scripted (fun e t h hissues hdue => ⟨hissues, h, fun hundue => ?_⟩)
    fun t h hissues hundue => ?_
  · rw [hundue] at hdue
    cases hdue
  · refine ((ends_updatePort portId _ t).and (ends_updatePort_issues portId _ t)).bind ?_ ?_
    · intro _ u hend
      obtain ⟨⟨rfl, -⟩, hissues'⟩ := hend
      exact ends_pure ⟨hissues.trans hissues', h.amend portId _, hundue⟩
    · intro e u hend
      obtain ⟨⟨rfl, hnone⟩, hissues'⟩ := hend
      exact ⟨hissues.trans hissues', h, fun _ => h.ports ▸ hnone⟩

theorem ends_adminDownPort_issues (portId : String) (s : Substrate) :
    (adminDownPort portId).Ends s
      (fun _ t => s.Issues [⟨.adminDownPort, portId⟩] t ∧
        (s.amend portId fun p => { p with adminStateUp := false, status := .down }).Heard t)
      fun _ t => s.Issues [⟨.adminDownPort, portId⟩] t ∧ s.Heard t := by
  refine ends_scripted (fun e t h hissues _ => ⟨hissues, h⟩) fun t h hissues _ => ?_
  refine ((ends_updatePort portId _ t).and (ends_updatePort_issues portId _ t)).bind ?_ ?_
  · intro _ u hend
    obtain ⟨⟨rfl, -⟩, hissues'⟩ := hend
    exact ends_pure ⟨hissues.trans hissues', h.amend portId _⟩
  · intro e u hend
    obtain ⟨⟨rfl, -⟩, hissues'⟩ := hend
    exact ⟨hissues.trans hissues', h⟩

theorem ends_plugPort_issues (amphora : Amphora) (port : Port) (s : Substrate) :
    (plugPort amphora port).Ends s (fun _ t => s.Issues [⟨.plugPort, port.id⟩] t)
      fun _ t => s.Issues [⟨.plugPort, port.id⟩] t := by
  refine (ends_issues fun u => ?_).mono (fun _ _ h => h.1) (fun _ _ h => h)
  refine (ends_orFail _ amphora.computeId u).bind ?_ fun _ _ hend => hend.1 ▸ .refl u
  intro c v hend
  obtain ⟨rfl, -⟩ := hend
  apply (ends_plug c port.id v).mono
  · intro _ t hend
    rw [hend.1]
    exact .of_eq rfl rfl
  · exact fun _ _ hend => hend.1 ▸ .refl v

theorem ends_createPort_issues (request : PortRequest) (s : Substrate) :
    (createPort request).Ends s (fun _ t => s.Issues [⟨.createPort, request.name⟩] t)
      fun _ t => s.Issues [⟨.createPort, request.name⟩] t := by
  refine (ends_issues fun u => ?_).mono (fun _ _ h => h.1) (fun _ _ h => h)
  have hserving : ∀ {v : Substrate}, u.Serving v request → u.Issues [] v := by
    intro v h
    obtain ⟨ids, ⟨m, rfl, -⟩, -⟩ := h
    exact .of_eq rfl rfl
  apply (ends_newPort request u).mono
  · intro p t hend
    obtain ⟨v, hv, -, rfl⟩ := hend
    exact (hserving hv).trans (.of_eq rfl rfl)
  · exact fun _ _ hend => hserving hend.1

end AmphoraWiring.Substrate
