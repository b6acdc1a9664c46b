import AmphoraWiring.Proofs.Retrying
import AmphoraWiring.Proofs.Saga.Updates
import AmphoraWiring.Proofs.Substrate.Failures
import AmphoraWiring.Proofs.Substrate.SameBut
import AmphoraWiring.Saga.PortRemoval

/-!
Ports that are deleted one after the other, each with as many attempts as the policy allows. A
deletion ends in one of three ways. The port is gone, or it is said not to exist; every attempt
failed, and the port is given up and taken out of service; or every attempt failed, and the whole
work ends there. A member port loses its binding in the first two cases, and only then.
-/
namespace AmphoraWiring

open Action Substrate

/-- What became of a member port. The attempt to delete it was repeated so often, and it was given
up in the end if there is a reason. -/
structure Disposal where
  portId : String
  repeats : Nat
  reason : Option NetworkError

namespace Disposal

def deletion (x : Disposal) : PortDeletion :=
  if x.reason.isSome then .abandoned else .deleted

/-- A port that is given up is taken out of service by one more call. -/
def calls (x : Disposal) : List JournalEntry :=
  List.replicate (x.repeats + 1) ⟨.deletePort, x.portId⟩ ++
    if x.reason.isSome then [⟨.adminDownPort, x.portId⟩] else []

/-- How the end of the port is reported. -/
def verdict (component : String) (x : Disposal) : AuditEvent :=
  match x.reason with
  | none => ⟨.info, component, "Port deleted", [x.portId]⟩
  | some e =>
    ⟨.warn, component, "Port abandoned, manual cleanup required: " ++ e.message, [x.portId]⟩

def events (component amphoraId : String) (x : Disposal) : List AuditEvent :=
  [x.verdict component, ⟨.info, component, "Member port binding removed", [amphoraId, x.portId]⟩]

end Disposal

namespace Substrate

variable {s t u : Substrate} {op : Operation} {id : String} {ids done rest : List String}
  {calls calls' failing : List JournalEntry} {xs ys : List Disposal} {x : Disposal}
  {passive : Bool}

/-- The targets of the calls of the operation. -/
def asked (op : Operation) (calls : List JournalEntry) : List String :=
  (calls.filter fun call => call.operation = op).map (·.target)

@[simp] theorem asked_append (op : Operation) (calls calls' : List JournalEntry) :
    asked op (calls ++ calls') = asked op calls ++ asked op calls' := by
  simp [asked]

@[simp] theorem asked_replicate (op : Operation) (n : Nat) (id : String) :
    asked op (List.replicate n ⟨op, id⟩) = List.replicate n id := by
  simp [asked]

@[simp] theorem asked_calls (x : Disposal) :
    asked .deletePort x.calls = List.replicate (x.repeats + 1) x.portId := by
  have hdown : asked .deletePort (if x.reason.isSome then [⟨.adminDownPort, x.portId⟩] else []) =
      [] := by
    split <;> rfl
  rw [Disposal.calls, asked_append, asked_replicate, hdown, List.append_nil]

theorem asked_flatMap_calls (xs : List Disposal) : asked .deletePort (xs.flatMap Disposal.calls) =
    xs.flatMap fun x => List.replicate (x.repeats + 1) x.portId := by
  induction xs with
  | nil => rfl
  | cons x xs ih => rw [List.flatMap_cons, List.flatMap_cons, asked_append, asked_calls, ih]

theorem mem_asked_flatMap_calls :
    id ∈ asked .deletePort (xs.flatMap Disposal.calls) ↔ id ∈ xs.map (·.portId) := by
  simp [asked_flatMap_calls, List.mem_flatMap, List.mem_replicate, eq_comm]

theorem Issues.due_asked (h : s.Issues calls t) (op : Operation) :
    t.failuresDue op = (s.failuresDue op).drop (asked op calls).length := by
  rw [h.due, asked, List.length_map, List.countP_eq_length_filter]

/-- A call with the target was answered that there is no such port. -/
def Denied (s : Substrate) (op : Operation) (targets : List String) (id : String) : Prop :=
  ∃ (k : Nat) (what : String), targets[k]? = some id ∧
    (s.failuresDue op)[k]? = some (.portNotFound what)

theorem Denied.append (h : s.Denied op done id) (rest : List String) :
    s.Denied op (done ++ rest) id := by
  obtain ⟨k, what, htarget, hdue⟩ := h
  have hk := (List.getElem?_eq_some_iff.mp htarget).1
  exact ⟨k, what, (List.getElem?_append_left hk).trans htarget, hdue⟩

theorem Denied.after (h : t.Denied op rest id)
    (hdue : t.failuresDue op = (s.failuresDue op).drop done.length) :
    s.Denied op (done ++ rest) id := by
  obtain ⟨k, what, htarget, hfailure⟩ := h
  refine ⟨done.length + k, what, ?_, ?_⟩
  · rw [List.getElem?_append_right (Nat.le_add_right _ _), Nat.add_sub_cancel_left, htarget]
  · rw [hdue, List.getElem?_drop] at hfailure
    exact hfailure

/-- The calls that were made between the states. -/
def callsUntil (s t : Substrate) : List JournalEntry := t.journal.drop s.journal.length

/-- Between the states no call to delete a port was answered that there is no such port unless it
did not exist. -/
def Truthful (s t : Substrate) : Prop :=
  ∀ id, s.Denied .deletePort (asked .deletePort (s.callsUntil t)) id →
    s.ports.get? id = none

theorem struck_of_not_mem (h : id ∉ ids) : s.Struck op ids id :=
  struck_iff.mpr fun hmem => h (List.mem_of_mem_drop hmem)

/-- The port is as it was, and it is plugged into the same instances. -/
structure Untouched (s t : Substrate) (id : String) : Prop where
  port : t.ports.get? id = s.ports.get? id
  plugged : ∀ c, id ∈ t.pluggedPortIds c ↔ id ∈ s.pluggedPortIds c

theorem SameBut.untouched (h : SameBut ids s t) (hid : id ∉ ids) : s.Untouched t id := by
  refine ⟨h.ports id hid, fun c => ?_⟩
  have hkeeps : ∀ l : List String, id ∈ l ↔ id ∈ l.filter (· ∉ ids) := by
    intro l
    simp [hid]
  rw [hkeeps, h.pluggedPortIds, ← hkeeps]

/-- So many calls were made to delete the port. All of them failed, and that is all. -/
structure Resisted (id : String) (n : Nat) (s t : Substrate) : Prop where
  issues : s.Issues (List.replicate n ⟨.deletePort, id⟩) t
  heard : s.Heard t
  failed : n ≤ (s.failuresDue .deletePort).length

/-- The ports were disposed of one after the other, and then the calls `failing` were made in
vain. -/
structure Disposes (passive : Bool) (xs : List Disposal) (failing : List JournalEntry)
    (s t : Substrate) : Prop where
  issues : s.Issues (xs.flatMap Disposal.calls ++ failing) t
  same : SameBut (xs.map (·.portId)) s t
  /-- A port may count as deleted because it was said not to exist. -/
  deleted : ∀ x ∈ xs, x.reason = none → t.ports.get? x.portId = none ∨
    s.Denied .deletePort (asked .deletePort (xs.flatMap Disposal.calls)) x.portId ∧
      t.ports.get? x.portId = s.ports.get? x.portId
  abandoned : ∀ x ∈ xs, x.reason ≠ none → passive = true ∧
    s.Struck .deletePort (asked .deletePort (xs.flatMap Disposal.calls)) x.portId ∧
      (t.ports.contains x.portId ↔ s.ports.contains x.portId)

theorem Resisted.disposes {n : Nat} (h : s.Resisted id n t) (passive : Bool) :
    s.Disposes passive [] (List.replicate n ⟨.deletePort, id⟩) t where
  issues := h.issues
  same := .of_heard h.heard
  deleted := by simp
  abandoned := by simp

/-- One more attempt, after so many that failed. -/
theorem Resisted.ends_deletePort {n : Nat} (h : s.Resisted id n t) (passive : Bool) :
    (deletePort id).Ends t (fun _ u => s.Disposes passive [⟨id, n, none⟩] [] u)
      fun e u => s.Resisted id (n + 1) u ∧
        ∀ what, e = .portNotFound what → s.Disposes passive [⟨id, n, none⟩] [] u := by
  have hdue : t.failuresDue .deletePort = (s.failuresDue .deletePort).drop n := by
    simpa using h.issues.due_asked .deletePort
  have hmore : ∀ {u : Substrate}, t.Issues [⟨.deletePort, id⟩] u →
      s.Issues (List.replicate (n + 1) ⟨.deletePort, id⟩) u := by
    intro u hissues
    rw [List.replicate_succ']
    exact h.issues.trans hissues
  apply (ends_deletePort_issues id t).mono
  · intro _ u hend
    obtain ⟨hissues, hremoved, -⟩ := hend
    have hsame : SameBut [id] s u :=
      (SameBut.of_heard h.heard).trans
        ((SameBut.of_removePort (List.mem_singleton_self id)).trans (.of_heard hremoved))
    refine ⟨by simpa [Disposal.calls] using hmore hissues, hsame, ?_, by simp⟩
    intro x hx _
    cases List.mem_singleton.mp hx
    left
    rw [hremoved.ports, get?_ports_removePort, if_pos rfl]
  · intro e u hend
    obtain ⟨hissues, hheard, hfirst⟩ := hend
    have hfailure : (s.failuresDue .deletePort)[n]? = some e := by
      rwa [hdue, List.head?_drop] at hfirst
    have hkept : s.Heard u := h.heard.trans hheard
    refine ⟨⟨hmore hissues, hkept, (List.getElem?_eq_some_iff.mp hfailure).1⟩, ?_⟩
    rintro what rfl
    refine ⟨by simpa [Disposal.calls] using hmore hissues, .of_heard hkept, ?_, by simp⟩
    intro x hx _
    cases List.mem_singleton.mp hx
    refine .inr ⟨⟨n, what, ?_, hfailure⟩, by rw [hkept.ports]⟩
    simp

/-- A port that resisted is given up; what is done then leaves it where it is. -/
theorem Resisted.abandoned {n : Nat} (h : s.Resisted id (n + 1) t) (e : NetworkError)
    (hissues : t.Issues [⟨.adminDownPort, id⟩] u) (hsame : SameBut [id] t u)
    (hthere : u.ports.contains id ↔ t.ports.contains id) :
    s.Disposes true [⟨id, n, some e⟩] [] u where
  issues := by simpa [Disposal.calls] using h.issues.trans hissues
  same := (SameBut.of_heard h.heard).trans hsame
  deleted := by simp
  abandoned := by
    intro x hx _
    cases List.mem_singleton.mp hx
    refine ⟨rfl, fun i hi => ?_, hthere.trans (by rw [h.heard.ports])⟩
    have hlt := (List.getElem?_eq_some_iff.mp hi).1
    have hlength := h.failed
    simp at hlt
    omega

/-- Whether the port can be taken out of service or not, it is given up. -/
theorem Resisted.ends_adminDownPort {n : Nat} (h : s.Resisted id (n + 1) t) :
    (adminDownPort id).Ends t (fun _ u => ∀ e, s.Disposes true [⟨id, n, some e⟩] [] u)
      fun _ u => ∀ e, s.Disposes true [⟨id, n, some e⟩] [] u := by
  apply (ends_adminDownPort_issues id t).mono
  · intro _ u hend e
    obtain ⟨hissues, hamended⟩ := hend
    refine h.abandoned e hissues ?_ ?_
    · exact (SameBut.of_amend (List.mem_singleton_self id) _).trans (.of_heard hamended)
    · rw [hamended.ports, contains_amend]
  · intro _ u hend e
    obtain ⟨hissues, hheard⟩ := hend
    exact h.abandoned e hissues (.of_heard hheard) (by rw [hheard.ports])

namespace Disposes

theorem untouched (h : s.Disposes passive xs failing t) (hid : id ∉ xs.map (·.portId)) :
    s.Untouched t id := h.same.untouched hid

/-- One port after the other, provided that they are different ports. -/
theorem trans (h : s.Disposes passive xs [] t) (h' : t.Disposes passive ys failing u)
    (hdisjoint : List.Disjoint (xs.map (·.portId)) (ys.map (·.portId))) :
    s.Disposes passive (xs ++ ys) failing u := by
  have hissues : s.Issues (xs.flatMap Disposal.calls) t := by simpa using h.issues
  have hdue := hissues.due_asked .deletePort
  have hfirst : ∀ x ∈ xs, x.portId ∉ ys.map (·.portId) :=
    fun x hx => hdisjoint (List.mem_map_of_mem hx)
  have hsecond : ∀ y ∈ ys, y.portId ∉ xs.map (·.portId) :=
    fun y hy hmem => hdisjoint hmem (List.mem_map_of_mem hy)
  constructor
  case issues => simpa using hissues.trans h'.issues
  case same =>
    rw [List.map_append]
    exact (h.same.mono (List.subset_append_left _ _)).trans
      (h'.same.mono (List.subset_append_right _ _))
  case deleted =>
    intro x hx hreason
    rw [List.flatMap_append, asked_append]
    rcases List.mem_append.mp hx with hx | hx
    · rw [(h'.untouched (hfirst x hx)).port]
      exact (h.deleted x hx hreason).imp_right fun hdenied => ⟨hdenied.1.append _, hdenied.2⟩
    · rw [← (h.untouched (hsecond x hx)).port]
      exact (h'.deleted x hx hreason).imp_right fun hdenied => ⟨hdenied.1.after hdue, hdenied.2⟩
  case abandoned =>
    intro x hx hreason
    rw [List.flatMap_append, asked_append, struck_append hdue]
    rcases List.mem_append.mp hx with hx | hx
    · obtain ⟨hpassive, hstruck, hthere⟩ := h.abandoned x hx hreason
      refine ⟨hpassive, ⟨hstruck, struck_of_not_mem ?_⟩, ?_⟩
      · rw [mem_asked_flatMap_calls]
        exact hfirst x hx
      · rw [← hthere, IdMap.contains_iff, (h'.untouched (hfirst x hx)).port, IdMap.contains_iff]
    · obtain ⟨hpassive, hstruck, hthere⟩ := h'.abandoned x hx hreason
      refine ⟨hpassive, ⟨struck_of_not_mem ?_, hstruck⟩, ?_⟩
      · rw [mem_asked_flatMap_calls]
        exact hsecond x hx
      · rw [hthere, IdMap.contains_iff, (h.untouched (hsecond x hx)).port, IdMap.contains_iff]

end Disposes

end Substrate

namespace Deployment

variable {d : Deployment} {run : Run Deployment} {α : Type}

/-- Nothing but the substrate has changed since `d`, and `p` holds of it now. -/
structure Solely (d : Deployment) (p : Substrate → Prop) (d' : Deployment) : Prop where
  substrate : p d'.substrate
  repository : d'.repository = d.repository
  audit : d'.audit = d.audit

theorem Solely.ends_onSubstrate {p : Substrate → Prop} (h : d.Solely p run.state)
    {call : Substrate.Call α} {ok : α → Substrate → Prop} {bad : NetworkError → Substrate → Prop}
    (hcall : call.Ends run.state.substrate ok bad) :
    Action.Ends (onSubstrate call) run (fun a run' => d.Solely (ok a) run'.state)
      fun e run' => d.Solely (bad e) run'.state := by
  apply (Deployment.ends_onSubstrate hcall).mono
  · intro a run' hend
    exact ⟨hend.1, hend.2.1.trans h.repository, hend.2.2.trans h.audit⟩
  · intro e run' hend
    exact ⟨hend.1, hend.2.1.trans h.repository, hend.2.2.trans h.audit⟩

end Deployment

namespace Step

open Deployment

variable {run : Run Deployment} {d : Deployment} {s : Substrate}

/-- The port has resisted every attempt to delete it, at least so many. -/
def Resisting (id : String) (least : Nat) (d d' : Deployment) : Prop :=
  ∃ n, d.Solely (d.substrate.Resisted id (n + least)) d'

/-- The port is deleted, after some attempts that it has resisted. -/
def Deleted (passive : Bool) (id : String) (d d' : Deployment) : Prop :=
  ∃ n, d.Solely (d.substrate.Disposes passive [⟨id, n, none⟩] []) d'

/-- The port is given up, whichever failure that is put down to. -/
def Forsaken (id : String) (d d' : Deployment) : Prop :=
  ∃ n, d.Solely (fun t => ∀ e, d.substrate.Disposes true [⟨id, n, some e⟩] [] t) d'

theorem resisting_start (id : String) (d : Deployment) : Resisting id 0 d d :=
  ⟨0, ⟨.refl _, .refl _, Nat.zero_le _⟩, rfl, rfl⟩

theorem Resisting.again {id : String} {d d' : Deployment} (h : Resisting id 1 d d') :
    Resisting id 0 d d' :=
  h.elim fun n hn => ⟨n + 1, hn⟩

theorem Resisting.ends_attemptDeletion {id : String} (h : Resisting id 0 d run.state)
    (passive : Bool) : Action.Ends (attemptDeletion id) run
      (fun _ run' => Deleted passive id d run'.state)
      fun _ run' => Resisting id 1 d run'.state := by
  obtain ⟨n, hresisted⟩ := h
  unfold attemptDeletion
  refine Flow.ends_outcome
    (hresisted.ends_onSubstrate (hresisted.substrate.ends_deletePort passive)) ?_ ?_
  · exact fun _ run' hend => ends_pure ⟨n, hend⟩
  · intro e run' hend
    obtain ⟨⟨hresisted, hdenied⟩, hrepository, haudit⟩ := hend
    cases e
    case portNotFound what => exact ends_pure ⟨n, hdenied what rfl, hrepository, haudit⟩
    all_goals exact ends_throw ⟨n, hresisted, hrepository, haudit⟩

/-- After the last attempt the port is put down, whether that succeeds or not. -/
theorem Resisting.ends_adminDownPort {id : String} (h : Resisting id 1 d run.state) :
    Action.Ends (onSubstrate (Substrate.adminDownPort id)) run
      (fun _ run' => Forsaken id d run'.state) fun _ run' => Forsaken id d run'.state := by
  obtain ⟨n, hresisted⟩ := h
  exact (hresisted.ends_onSubstrate hresisted.substrate.ends_adminDownPort).mono
    (fun _ _ h => ⟨n, h⟩) fun _ _ h => ⟨n, h⟩

/-- The port was disposed of, and its end was reported. -/
structure Removed (passive : Bool) (x : Disposal) (d d' : Deployment) : Prop where
  ports : d.substrate.Disposes passive [x] [] d'.substrate
  repository : d'.repository = d.repository
  audit : d'.audit = { d.audit with
    events := d.audit.events ++ [x.verdict d.audit.component] }

theorem ends_report {passive : Bool} (x : Disposal) {f : AuditLog → AuditLog}
    (h : d.Solely (d.substrate.Disposes passive [x] []) run.state)
    (hf : f d.audit =
      { d.audit with events := d.audit.events ++ [x.verdict d.audit.component] })
    {bad : NetworkError → Run Deployment → Prop} :
    Action.Ends (do let () ← liftM (record f); return x.deletion : Work PortDeletion) run
      (fun r run' => ∃ y : Disposal, y.portId = x.portId ∧ r = y.deletion ∧
        Removed passive y d run'.state) bad := by
  refine ends_record (ends_pure ⟨x, rfl, rfl, h.substrate, h.repository, ?_⟩)
  rw [← hf, ← h.audit]

theorem ends_removePort (policy : RetryPolicy) (passive : Bool) (id : String)
    (run : Run Deployment) :
    Action.Ends (removePort policy passive id) run
      (fun r run' => ∃ x : Disposal, x.portId = id ∧ r = x.deletion ∧
        Removed passive x run.state run'.state)
      fun _ run' => Resisting id 1 run.state run'.state := by
  have hop : ∀ (_ : Nat) (run₁ : Run Deployment), Resisting id 0 run.state run₁.state →
      Action.Ends (attemptDeletion id) run₁
        (fun _ run' => Deleted passive id run.state run'.state)
        fun _ run' => Resisting id 1 run.state run'.state :=
    fun _ _ h => h.ends_attemptDeletion passive
  unfold removePort
  cases passive with
  | false =>
    refine (Flow.ends_retry (Resisting id 0 run.state) (Resisting id 1 run.state)
      (fun _ => Deleted false id run.state) hop (fun _ h => h.again)
      (resisting_start id run.state)).bind ?_ (fun _ _ h => h)
    intro _ run₁ hend
    obtain ⟨n, hdeleted⟩ := hend
    exact ends_report ⟨id, n, none⟩ hdeleted rfl
  | true =>
    refine (Flow.ends_retryOrAbandon (Resisting id 0 run.state) (Resisting id 1 run.state)
      (Forsaken id run.state) (fun _ => Deleted true id run.state) hop (fun _ h => h.again)
      (fun _ h => h.ends_adminDownPort) (resisting_start id run.state)).bind ?_ (fun _ _ h => h)
    intro r run₁ hend
    cases r with
    | completed _ =>
      obtain ⟨n, hdeleted⟩ := hend
      exact ends_report ⟨id, n, none⟩ hdeleted rfl
    | exhausted e =>
      obtain ⟨n, hforsaken, hrepository, haudit⟩ := hend
      exact ends_report ⟨id, n, some e⟩ ⟨hforsaken e, hrepository, haudit⟩ rfl

/-- The member ports were disposed of one after the other, each was forgotten then, and in the end
the calls `failing` were made in vain. -/
structure Disposed (passive : Bool) (amphoraId : String) (xs : List Disposal)
    (failing : List JournalEntry) (d d' : Deployment) : Prop where
  ports : d.substrate.Disposes passive xs failing d'.substrate
  bindings : d'.repository.bindings =
    d.repository.bindings.filter fun b => b.portId ∉ xs.map (·.portId)
  harmless : d'.repository.Harmless
  audit : d'.audit = { d.audit with
    events := d.audit.events ++ xs.flatMap (·.events d.audit.component amphoraId) }

variable {passive : Bool} {amphoraId : String} {xs ys : List Disposal}
  {failing : List JournalEntry} {d' d'' : Deployment}

theorem Disposed.trans (h : Disposed passive amphoraId xs [] d d')
    (h' : Disposed passive amphoraId ys failing d' d'')
    (hdisjoint : List.Disjoint (xs.map (·.portId)) (ys.map (·.portId))) :
    Disposed passive amphoraId (xs ++ ys) failing d d'' where
  ports := h.ports.trans h'.ports hdisjoint
  bindings := by
    rw [h'.bindings, h.bindings, List.filter_filter]
    apply List.filter_congr
    intro b _
    simp [not_or, Bool.and_comm]
  harmless := h'.harmless
  audit := by
    rw [h'.audit, h.audit, List.flatMap_append, List.append_assoc]

/-- To ask the repository is not part of the work. -/
theorem Disposed.of_heard (h : Disposed passive amphoraId xs failing d' d'')
    (hrepository : d.repository.Heard d'.repository) (hsubstrate : d'.substrate = d.substrate)
    (haudit : d'.audit = d.audit) : Disposed passive amphoraId xs failing d d'' where
  ports := hsubstrate ▸ h.ports
  bindings := hrepository.bindings ▸ h.bindings
  harmless := h.harmless
  audit := haudit ▸ h.audit

theorem ends_removeMemberPort (policy : RetryPolicy) (passive : Bool) (amphoraId id : String)
    (hharmless : run.state.repository.Harmless) (hbound : run.state.repository.Bound id) :
    Action.Ends (removeMemberPort policy passive amphoraId id) run
      (fun r run' => ∃ x : Disposal, x.portId = id ∧ r = x.deletion ∧
        Disposed passive amphoraId [x] [] run.state run'.state)
      fun _ run' => ∃ n, n < (run.state.substrate.failuresDue .deletePort).length ∧
        Disposed passive amphoraId [] (List.replicate (n + 1) ⟨.deletePort, id⟩) run.state
          run'.state := by
  unfold removeMemberPort
  refine (ends_removePort policy passive id run).bind ?_ ?_
  · intro r run₁ hend
    obtain ⟨x, hx, hr, hdisposes, hrepository, haudit⟩ := hend
    refine Flow.ends_outcome (ends_onRepository (Repository.ends_deleteMemberPort id _)) ?_ ?_
    · intro _ run₂ hend'
      obtain ⟨hdropped, hsubstrate, haudit'⟩ := hend'
      rw [hrepository] at hdropped
      refine ends_record (ends_pure ⟨x, hx, hr, ?_⟩)
      constructor
      case ports => exact hsubstrate ▸ hdisposes
      case bindings =>
        refine hdropped.bindings.trans ?_
        simp [Repository.dropBinding, hx]
      case harmless => exact hdropped.harmless hharmless
      case audit =>
        simp only [haudit', haudit]
        simp [AuditLog.memberPortRemoved, AuditLog.log, Disposal.events, hx]
    · intro e run₂ hend'
      obtain ⟨⟨e', -, -, hwhy⟩, -⟩ := hend'
      rw [hrepository] at hwhy
      exact absurd hbound (hwhy hharmless).2
  · intro _ run' hend
    obtain ⟨n, hresisted, hrepository, haudit⟩ := hend
    refine ⟨n, hresisted.failed, hresisted.disposes passive, ?_, ?_, ?_⟩
    · rw [hrepository]
      simp
    · rwa [hrepository]
    · simp [haudit]

/-- The work ended with the deletion of the port `id`: it was tried so many times, and every attempt
failed. -/
structure BrokenOff (passive : Bool) (amphoraId : String) (xs : List Disposal) (id : String)
    (attempts : Nat) (d d' : Deployment) : Prop where
  disposed : Disposed passive amphoraId xs (List.replicate attempts ⟨.deletePort, id⟩) d d'
  attempted : 0 < attempts
  struck : d.substrate.Struck .deletePort (asked .deletePort (xs.flatMap Disposal.calls ++
    List.replicate attempts ⟨.deletePort, id⟩)) id

/-- What was done before does not change how the work ends. -/
theorem Disposed.brokenOff {id : String} {attempts : Nat}
    (h : Disposed passive amphoraId xs [] d d')
    (h' : BrokenOff passive amphoraId ys id attempts d' d'')
    (hdisjoint : List.Disjoint (xs.map (·.portId)) (ys.map (·.portId)))
    (hid : id ∉ xs.map (·.portId)) : BrokenOff passive amphoraId (xs ++ ys) id attempts d d'' where
  disposed := h.trans h'.disposed hdisjoint
  attempted := h'.attempted
  struck := by
    have hissues : d.substrate.Issues (xs.flatMap Disposal.calls) d'.substrate := by
      simpa using h.ports.issues
    rw [List.flatMap_append, List.append_assoc, asked_append,
      struck_append (hissues.due_asked .deletePort)]
    exact ⟨struck_of_not_mem fun hmem => hid (mem_asked_flatMap_calls.mp hmem), h'.struck⟩

/-- Port after port: the loop comes to its end, or to a port that resists. -/
theorem ends_mapM_removeMemberPort (policy : RetryPolicy) (passive : Bool) (amphoraId : String)
    (ids : List String) (hnodup : ids.Nodup) {run : Run Deployment}
    (hharmless : run.state.repository.Harmless)
    (hbound : ∀ id ∈ ids, run.state.repository.Bound id) :
    Action.Ends (ids.mapM (removeMemberPort policy passive amphoraId)) run
      (fun results run' => ∃ xs : List Disposal, ids = xs.map (·.portId) ∧
        results = xs.map Disposal.deletion ∧
        Disposed passive amphoraId xs [] run.state run'.state)
      fun _ run' => ∃ (xs : List Disposal) (id : String) (rest : List String) (attempts : Nat),
        ids = xs.map (·.portId) ++ id :: rest ∧
        BrokenOff passive amphoraId xs id attempts run.state run'.state := by
  induction ids generalizing run with
  | nil =>
    refine ends_pure ⟨[], rfl, rfl, ⟨⟨.refl _, .refl _ _, ?_, ?_⟩, ?_, hharmless, ?_⟩⟩ <;> simp
  | cons id ids ih =>
    obtain ⟨hid, hids⟩ := List.nodup_cons.mp hnodup
    rw [List.mapM_cons]
    refine (ends_removeMemberPort policy passive amphoraId id hharmless
      (hbound id List.mem_cons_self)).bind ?_ ?_
    · intro r run₁ hend
      obtain ⟨x, rfl, rfl, hfirst⟩ := hend
      have hbound₁ : ∀ id ∈ ids, run₁.state.repository.Bound id := by
        intro k hk
        obtain ⟨b, hb, rfl⟩ := hbound k (List.mem_cons_of_mem _ hk)
        refine ⟨b, ?_, rfl⟩
        rw [hfirst.bindings]
        have hne : b.portId ≠ x.portId := fun heq => hid (heq ▸ hk)
        simpa [hne] using hb
      refine (ih hids hfirst.harmless hbound₁).bind ?_ ?_
      · intro results run₂ hend'
        obtain ⟨xs, rfl, rfl, hrest⟩ := hend'
        have hdisjoint : List.Disjoint ([x].map (·.portId)) (xs.map (·.portId)) := by
          simpa using hid
        exact ends_pure ⟨x :: xs, rfl, rfl, hfirst.trans hrest hdisjoint⟩
      · intro _ run₂ hend'
        obtain ⟨xs, failed, rest, attempts, rfl, hrest⟩ := hend'
        simp only [List.mem_append, List.mem_cons, not_or] at hid
        obtain ⟨hapart, hne, -⟩ := hid
        have hdisjoint : List.Disjoint ([x].map (·.portId)) (xs.map (·.portId)) := by
          simpa using hapart
        exact ⟨x :: xs, failed, rest, attempts, rfl,
          hfirst.brokenOff hrest hdisjoint (by simpa using Ne.symm hne)⟩
    · intro _ run' hend
      obtain ⟨n, hfailed, hdisposed⟩ := hend
      refine ⟨[], id, ids, n + 1, rfl, hdisposed, Nat.succ_pos n, fun i hi => ?_⟩
      have hlt := (List.getElem?_eq_some_iff.mp hi).1
      simp at hlt
      omega

end Step

end AmphoraWiring
