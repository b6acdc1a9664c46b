import AmphoraWiring.Proofs.Saga.MadePorts

/-!
Taking back the ports that were made, whatever fails on the way. For each of them its instance is
detached from the network, the port is deleted and its record is removed. A failure costs the port
whose deletion failed and no other: it stays, and it is reported.
-/
namespace AmphoraWiring

open Action Substrate Deployment Delta

/-- Where the record of a port is removed, the other records stay as they are. -/
theorem Delta.Unbound.bindings {portId : String} {r r' : Repository} (h : Unbound portId r r')
    (hharmless : r.Harmless) :
    r'.bindings = r.bindings.filter fun b => b.portId ≠ portId := by
  rcases h.repository with hheard | hheard
  · rw [hheard.bindings, eq_comm, List.filter_eq_self]
    intro b hb
    have hnot := h.unbound hharmless
    simpa using fun heq => hnot ⟨b, hheard.bindings ▸ hb, heq⟩
  · rw [hheard.bindings]
    rfl

namespace MadePort

variable {made made' : List MadePort} {d d' d'' : Deployment} {run : Run Deployment}

/-- The calls that take the port back. -/
def calls (m : MadePort) : List JournalEntry :=
  [⟨.unplugNetwork, m.computeId ++ "/" ++ m.networkId⟩, ⟨.deletePort, m.portId⟩]

theorem countP_calls (made : List MadePort) :
    (made.flatMap calls).countP (fun call => call.operation = .deletePort) = made.length := by
  induction made with
  | nil => rfl
  | cons m made ih =>
    rw [List.flatMap_cons, List.countP_append, ih, List.length_cons]
    simp [calls, Nat.add_comm]

/-- The ports were taken back one after the other. Those are still there for which every deletion
failed, and they are reported; no port has a record. -/
structure TakenBack (made : List MadePort) (d d' : Deployment) : Prop where
  issues : d.substrate.Issues (made.flatMap calls) d'.substrate
  stays : ∀ id, d'.substrate.ports.contains id ↔ d.substrate.ports.contains id ∧
    d.substrate.Struck .deletePort (made.map (·.portId)) id
  reports : ∃ news : AuditLog, d'.audit.events = d.audit.events ++ news.events ∧
    ∀ m ∈ made, d.substrate.Struck .deletePort (made.map (·.portId)) m.portId →
      news.LeakReported m.portId
  bindings : d'.repository.bindings =
    d.repository.bindings.filter fun b => b.portId ∉ made.map (·.portId)
  harmless : d'.repository.Harmless

namespace TakenBack

theorem nothing (hharmless : d.repository.Harmless) : TakenBack [] d d where
  issues := .refl _
  stays := by simp [Struck]
  reports := ⟨{}, by simp, by simp⟩
  bindings := by simp
  harmless := hharmless

theorem trans (h : TakenBack made d d') (h' : TakenBack made' d' d'') :
    TakenBack (made ++ made') d d'' := by
  have hstruck : ∀ id, d.substrate.Struck .deletePort ((made ++ made').map (·.portId)) id ↔
      d.substrate.Struck .deletePort (made.map (·.portId)) id ∧
        d'.substrate.Struck .deletePort (made'.map (·.portId)) id := by
    intro id
    rw [List.map_append]
    exact struck_append (by rw [h.issues.due, countP_calls, List.length_map]) _
  constructor
  case issues =>
    rw [List.flatMap_append]
    exact h.issues.trans h'.issues
  case stays =>
    intro id
    rw [h'.stays, h.stays, hstruck, and_assoc]
  case reports =>
    obtain ⟨news, hevents, hnews⟩ := h.reports
    obtain ⟨news', hevents', hnews'⟩ := h'.reports
    refine ⟨{ events := news.events ++ news'.events }, ?_, ?_⟩
    · rw [hevents', hevents, List.append_assoc]
    · intro m hm hfails
      obtain ⟨hfails, hfails'⟩ := (hstruck m.portId).mp hfails
      rcases List.mem_append.mp hm with hm | hm
      · obtain ⟨component, kind, reason, hmem⟩ := hnews m hm hfails
        exact ⟨component, kind, reason, List.mem_append_left _ hmem⟩
      · obtain ⟨component, kind, reason, hmem⟩ := hnews' m hm hfails'
        exact ⟨component, kind, reason, List.mem_append_right _ hmem⟩
  case bindings =>
    rw [h'.bindings, h.bindings, List.filter_filter]
    apply List.filter_congr
    intro b _
    simp only [List.map_append, List.mem_append, not_or, Bool.decide_and, Bool.and_comm]
  case harmless => exact h'.harmless

end TakenBack

/-- One port after the other is taken back. -/
theorem ends_forM_takenBack {γ : Type} {f : γ → Effect Deployment PUnit} {made : γ → List MadePort}
    {l : List γ} (hstep : ∀ x ∈ l, ∀ run : Run Deployment, run.state.repository.Harmless →
      Effect.Ends (f x) run fun _ run' => TakenBack (made x) run.state run'.state)
    (hharmless : run.state.repository.Harmless) :
    Effect.Ends (l.forM f) run fun _ run' => TakenBack (l.flatMap made) run.state run'.state := by
  induction l generalizing run with
  | nil => exact Effect.ends_pure (.nothing hharmless)
  | cons x rest ih =>
    refine Effect.Ends.bind (hstep x List.mem_cons_self run hharmless) fun _ run₁ h₁ => ?_
    apply (ih (fun y hy => hstep y (List.mem_cons_of_mem _ hy)) h₁.harmless).mono
    intro _ run₂ h₂
    exact h₁.trans h₂

/-- An added interface is taken back with the port that it led to. -/
theorem ends_removeAddedNic_takenBack {delta : Delta} {ports : List Port} {nic : Interface}
    {id : String} (hfound : portOf ports nic = some id)
    (hharmless : run.state.repository.Harmless) :
    Effect.Ends (removeAddedNic delta ports nic) run fun _ run' =>
      TakenBack [⟨delta.computeId, nic.networkId, id⟩] run.state run'.state := by
  have hdetach := ends_unplugNetwork_kept delta.computeId nic.networkId run.state.substrate
  refine Effect.ends_settle_attempt (ends_onSubstrate hdetach) ?_
  intro _ run₁ hend
  obtain ⟨⟨hissues, hsame⟩, hrepository, haudit⟩ := hend
  simp only [hfound]
  apply (ends_removeAddedPort id run₁).mono
  intro _ run₂ h
  have hdue : run₁.state.substrate.failuresDue .deletePort =
      run.state.substrate.failuresDue .deletePort := hissues.due_of_ne (by simp)
  constructor
  case issues => exact hissues.trans h.issues
  case stays =>
    intro k
    rw [List.map_singleton, struck_singleton_iff, ← hsame, ← hdue]
    rcases h.ending with ⟨hundue, hremoved, -⟩ | ⟨e, hfails, hheard, -⟩
    · rw [hremoved.ports]
      simp only [IdMap.contains, get?_ports_removePort, hundue]
      by_cases hk : k = id <;> simp [hk]
    · have hne : run₁.state.substrate.failuresDue .deletePort ≠ [] := by
        intro hnil
        simp [hnil] at hfails
      simp [hheard.ports, hne]
  case reports =>
    rw [← haudit]
    rcases h.ending with ⟨hundue, -, hevents⟩ | ⟨e, -, -, hevents⟩
    · refine ⟨{ events := [_] }, by rw [hevents]; rfl, fun m hm hfails => ?_⟩
      rw [List.mem_singleton.mp hm, List.map_singleton, struck_singleton_iff,
        ← hdue] at hfails
      exact absurd hundue (hfails rfl)
    · refine ⟨{ events := [_] }, by rw [hevents]; rfl, fun m hm _ => ?_⟩
      rw [List.mem_singleton.mp hm]
      exact ⟨_, "port", e.message, List.mem_singleton_self _⟩
  case bindings =>
    rw [h.unbound.bindings (hrepository ▸ hharmless), hrepository]
    simp
  case harmless =>
    rw [← hrepository] at hharmless
    exact h.unbound.repository.elim (·.harmless hharmless) (·.harmless hharmless)

variable {entries : List (String × Delta)} {changed : IdMap (List Port)} {s t : Substrate}

theorem ends_unwind_takenBack {delta : Delta} {ports : List Port}
    (hfound : ∀ nic ∈ delta.addNics, (portOf ports nic).isSome)
    (hharmless : run.state.repository.Harmless) :
    Effect.Ends (delta.unwind ports) run fun _ run' =>
      TakenBack (ofDelta delta ports) run.state run'.state := by
  rw [ofDelta, List.filterMap_eq_flatMap_toList]
  refine ends_forM_takenBack (fun nic hnic run hharmless => ?_) hharmless
  obtain ⟨id, hid⟩ := Option.isSome_iff_exists.mp (hfound nic hnic)
  have hone : Effect.Ends (removeAddedNic delta ports nic) run fun _ run' =>
      TakenBack [⟨delta.computeId, nic.networkId, id⟩] run.state run'.state :=
    ends_removeAddedNic_takenBack hid hharmless
  simpa [hid] using hone

/-- Everything that was made is taken back. -/
theorem Traced.ends_unwind (h : Traced entries changed s t)
    (hharmless : run.state.repository.Harmless) :
    Effect.Ends (entries.forM fun e => e.2.unwind ((changed.get? e.1).getD [])) run
      fun _ run' => TakenBack (ofEntries entries changed) run.state run'.state :=
  ends_forM_takenBack (fun e he _ => ends_unwind_takenBack (h.found e he)) hharmless

end MadePort

namespace Step

open MadePort

/-- Where the step comes to its end from `run`, a port was made for each new interface in turn, and
reverting takes these ports back, whatever has become of the deployment in between. -/
def TakesBack {ο : Type} (step : Step ο) (entries : List (String × Delta))
    (run : Run Deployment) : Prop :=
  ∀ out run₁, step.execute.runOn run = (.ok out, run₁) → ∃ made : List MadePort,
    made.map (fun m => (m.computeId, m.networkId)) = interfaces entries ∧
    made.map (·.portId) = run.state.substrate.newIds run₁.state.substrate ∧
    (made.map (·.portId)).Nodup ∧
    (∀ m ∈ made, run.state.substrate.ports.get? m.portId = none ∧
      run₁.state.substrate.Keeps m.portId m.networkId) ∧
    ∀ run₂ : Run Deployment, run₂.state.repository.Harmless →
      TakenBack made run₂.state ((step.revert out).run run₂).2.state

variable {run : Run Deployment}

/-- A step whose ports can be traced takes them back. -/
theorem takesBack_of_traced {step : Step (IdMap (List Port))} {entries : List (String × Delta)}
    (hs : run.state.substrate.Sound)
    (hexecute : Action.Ends step.execute run (fun changed run₁ =>
      Traced entries changed run.state.substrate run₁.state.substrate) fun _ _ => True)
    (hrevert : ∀ changed, step.revert changed =
      entries.forM fun e => e.2.unwind ((changed.get? e.1).getD [])) :
    step.TakesBack entries run := by
  intro changed run₁ hok
  have htraced := hexecute.of_ok hok
  refine ⟨ofEntries entries changed, htraced.interfaces, htraced.ids, ?_, fun m hm => ⟨?_, ?_⟩, ?_⟩
  · rw [htraced.ids]
    exact newIds_nodup _ _
  · have hmem := List.mem_map_of_mem (f := (·.portId)) hm
    rw [htraced.ids] at hmem
    exact (hs.absent_of_new hmem).port
  · exact htraced.there m hm
  · intro run₂ hharmless
    rw [hrevert]
    exact (htraced.ends_unwind hharmless).state

/-- A delta takes back the ports that it made. -/
theorem applyDelta_takesBack {delta : Delta} (hs : run.state.substrate.Sound)
    (horderly : delta.Orderly run.state.substrate) (amphoraId : String) :
    (applyDelta amphoraId delta).TakesBack [(amphoraId, delta)] run :=
  takesBack_of_traced hs (ends_applyDelta_traced hs horderly) fun _ => bind_pure_unit.symm

/-- Several deltas take back the ports that they made. -/
theorem applyDeltas_takesBack {deltas : IdMap Delta} (hs : run.state.substrate.Sound)
    (horderly : ∀ e ∈ deltas.entries, e.2.Orderly run.state.substrate) (loadBalancerId : String) :
    (applyDeltas loadBalancerId deltas).TakesBack deltas.entries run :=
  takesBack_of_traced hs (ends_applyDeltas_traced hs horderly) fun _ => rfl

end Step

end AmphoraWiring
