import AmphoraWiring.Proofs.Saga.Ownership
import AmphoraWiring.Proofs.Seeding

/-!
Ports over the rounds of a service: deltas are computed, applied and reverted in any order, load
balancers are stored, and failures of the substrate are scripted at any time. As long as the calls
to the repository do not fail, a port that was made on the way has an owner or its leak has been
reported, unless a delta that was applied gave it up and the call to delete it failed. A delta that
was applied to its end leaves none of the ports that it gave up with an owner.
-/
namespace AmphoraWiring

open Action Deployment Substrate

namespace Delta

/-- The delta gives up the port with an interface. -/
def GivesUp (delta : Delta) (id : String) : Prop :=
  ∃ nic ∈ delta.deleteNics, nic.portId = some id

/-- All ports are accounted for since `d`, whatever has been changed. -/
def AccountedRun {α : Type} (named : String → Prop) (d : Deployment) (_ : α)
    (run : Run Deployment) : Prop :=
  Accounted named d run.state

/-- No record is made where an interface is removed. -/
theorem NicDeleted.bound_before {c : String} {nic : Interface} {d d' : Deployment}
    (h : NicDeleted c nic d d') {id : String} (hbound : d'.repository.Bound id) :
    d.repository.Bound id := by
  rcases h.repository with hheard | ⟨dropped, -, hheard⟩
  · exact (hheard.bound_iff id).mp hbound
  · exact ((Repository.bound_dropBinding _ _ _).mp ((hheard.bound_iff id).mp hbound)).1

/-- Of the ports that are given up, only those of the interfaces in `rest` may still be owned. -/
def Forgetting (delta : Delta) (d : Deployment) (rest : List Interface) (_ : ChangedPorts)
    (run : Run Deployment) : Prop :=
  Accounted delta.GivesUp d run.state ∧ (∀ nic ∈ rest, nic ∈ delta.deleteNics) ∧
    (d.repository.Harmless → ∀ id, delta.GivesUp id →
      (∃ nic ∈ rest, nic.portId = some id) ∨ ¬ run.state.repository.Bound id)

/-- The removals silence only ports that they give up, and after a success none of those is
recorded. -/
theorem ends_deleteNics_accounted (delta : Delta) (amphora : Amphora) {d : Deployment}
    {changed : ChangedPorts} {run : Run Deployment}
    (h : AccountedRun delta.GivesUp d changed run) :
    Action.Ends (delta.deleteNics.foldlM (deleteNic amphora) changed) run
      (delta.Forgetting d []) (AccountedRun delta.GivesUp d) := by
  have hbegin : delta.Forgetting d delta.deleteNics changed run :=
    ⟨h, fun _ hnic => hnic, fun _ _ hid => .inl hid⟩
  refine Ends.foldlM ?_ _ _ _ hbegin
  intro nic rest changed run₁ hend
  obtain ⟨h, hmem, howned⟩ := hend
  have hnamed : ∀ id, nic.portId = some id → delta.GivesUp id :=
    fun id hid => ⟨nic, hmem nic List.mem_cons_self, hid⟩
  apply (ends_deleteNic amphora changed nic run₁).mono
  · intro changed' run₂ hend
    obtain ⟨-, hend⟩ := hend
    refine ⟨h.trans (hend.accounted hnamed), fun n hn => hmem n (List.mem_cons_of_mem _ hn), ?_⟩
    intro hharmless id hid
    rcases howned hharmless id hid with ⟨nic', hnic', hport⟩ | hunbound
    · rcases List.mem_cons.mp hnic' with rfl | hnic'
      · exact .inr (hend.unbound (h.harmless hharmless) id hport)
      · exact .inl ⟨nic', hnic', hport⟩
    · exact .inr fun hbound => hunbound (hend.bound_before hbound)
  · intro e run₂ hend
    obtain ⟨hend, -⟩ := hend
    exact Accounted.trans h (hend.accounted hnamed)

/-- Applying a delta accounts for all ports but those that it gives up, and these have no owner
any more if it comes to its end. -/
theorem ends_apply_accounted (delta : Delta) (amphora : Amphora) (run : Run Deployment) :
    Action.Ends (delta.apply amphora) run
      (fun _ run' => Accounted delta.GivesUp run.state run'.state ∧
        (run.state.repository.Harmless →
          ∀ id, delta.GivesUp id → ¬ run'.state.repository.Bound id))
      fun _ run' => Accounted delta.GivesUp run.state run'.state := by
  have hbegin : AccountedRun delta.GivesUp run.state (.empty : ChangedPorts) run :=
    Accounted.refl _
  refine (Ends.foldlM_mem ?_ hbegin).bind ?_ (fun e t h => h)
  · intro nic _ changed run₁ h
    apply (ends_addNic amphora changed nic run₁).mono
    · intro changed' run₂ hend
      obtain ⟨c, p, q, hend⟩ := hend
      exact Accounted.trans h hend.accounted
    · intro e run₂ hend
      obtain ⟨hend, -⟩ := hend
      exact Accounted.trans h hend.accounted
  intro changed₁ run₁ h₁
  refine (Ends.foldlM_mem ?_ h₁).bind ?_ (fun e t h => h)
  · intro change _ changed run₂ h
    apply (ends_addSubnet changed change run₂).mono
    · exact fun changed' run₃ hend => Accounted.trans h hend.accounted
    · intro e run₃ hend
      obtain ⟨hend, -⟩ := hend
      exact Accounted.trans h hend.accounted
  intro changed₂ run₂ h₂
  refine (Ends.foldlM_mem ?_ h₂).bind ?_ (fun e t h => h)
  · intro change _ changed run₃ h
    apply (ends_deleteSubnet changed change run₃).mono
    · exact fun changed' run₄ hend => Accounted.trans h hend.accounted
    · intro e run₄ hend
      obtain ⟨hend, -⟩ := hend
      exact Accounted.trans h hend.accounted
  intro changed₃ run₃ h₃
  refine (delta.ends_deleteNics_accounted amphora h₃).bind ?_ (fun e t h => h)
  intro changed₄ run₄ hend
  obtain ⟨h₄, -, hforgotten⟩ := hend
  refine ends_pure ⟨h₄, fun hharmless id hid => ?_⟩
  rcases hforgotten hharmless id hid with ⟨nic, hnic, -⟩ | hunbound
  · cases hnic
  · exact hunbound

/-- Reverting a delta accounts for all ports. -/
theorem ends_unwind_accounted (delta : Delta) (ports : List Port) (named : String → Prop)
    (run : Run Deployment) : Effect.Ends (delta.unwind ports) run
      fun _ run' => Accounted named run.state run'.state := by
  have hbegin : Accounted named run.state run.state := .refl _
  refine Effect.Ends.forM_mem ?_ hbegin
  intro nic _ run₁ h
  exact (ends_removeAddedNic delta ports nic run₁).mono
    fun _ run₂ hend => Accounted.trans h hend.accounted

end Delta

/-- What may happen to a deployment at a time. -/
inductive Round where
  | applyDelta (amphoraId : String) (delta : Delta)
  | revertDelta (amphoraId : String) (delta : Delta) (changed : IdMap (List Port))
  | applyDeltas (loadBalancerId : String) (deltas : IdMap Delta)
  | revertDeltas (loadBalancerId : String) (deltas : IdMap Delta) (changed : IdMap (List Port))
  | computeDelta (management : List String) (lb : LoadBalancer) (amphora : Amphora)
  | computeDeltas (management : List String) (lb : LoadBalancer)
  | store (lb : LoadBalancer)
  | script (faults : List ScriptedFault)

namespace Round

def perform (run : Run Deployment) : Round → Run Deployment
  | applyDelta amphoraId delta => ((Step.applyDelta amphoraId delta).execute.runOn run).2
  | revertDelta amphoraId delta changed =>
    (((Step.applyDelta amphoraId delta).revert changed).run run).2
  | applyDeltas lbId deltas => ((Step.applyDeltas lbId deltas).execute.runOn run).2
  | revertDeltas lbId deltas changed =>
    (((Step.applyDeltas lbId deltas).revert changed).run run).2
  | computeDelta management lb amphora =>
    (Action.runOn (onSubstrate (Substrate.computeDelta management lb amphora)) run).2
  | computeDeltas management lb =>
    (Action.runOn (onSubstrate (Substrate.computeDeltas management lb)) run).2
  | store lb => { run with state := { run.state with repository := run.state.repository.store lb } }
  | script faults =>
    { run with state := { run.state with substrate := { run.state.substrate with faults } } }

/-- The rounds one after the other. -/
def performAll (run : Run Deployment) (rounds : List Round) : Run Deployment :=
  rounds.foldl perform run

/-- A delta that is applied in the round gives up the port. -/
def GivesUp : Round → String → Prop
  | applyDelta _ delta, id => delta.GivesUp id
  | applyDeltas _ deltas, id => ∃ delta ∈ deltas.values, delta.GivesUp id
  | _, _ => False

/-- The round was to delete the port that it gives up, but the port is still there. -/
structure Abandons (round : Round) (run : Run Deployment) (id : String) : Prop where
  givesUp : round.GivesUp id
  called : run.state.substrate.Called (perform run round).state.substrate ⟨.deletePort, id⟩
  existing : ∃ p, (perform run round).state.substrate.ports.get? id = some p

variable {run : Run Deployment}

theorem accounted_of_heard {named : String → Prop} {d d' : Deployment}
    (h : d.substrate.Heard d'.substrate) (hrecords : d.SameRecords d') :
    Accounted named d d' := by
  refine .of_sameRecords h.journal_grows (fun id q hq => ⟨q, ?_⟩) hrecords
  rwa [h.ports] at hq

theorem ends_onSubstrate_accounted {α : Type} {named : String → Prop} {call : Substrate.Call α}
    (h : call.Ends run.state.substrate (fun _ t => run.state.substrate.Heard t)
      fun _ t => run.state.substrate.Heard t) :
    Accounted named run.state (Action.runOn (onSubstrate call) run).2.state := by
  refine Action.Ends.state (p := Delta.AccountedRun named run.state ()) ?_
  exact (ends_onSubstrate h).mono (fun _ run' h => accounted_of_heard h.1 h.2)
    fun _ run' h => accounted_of_heard h.1 h.2

/-- Reading in the repository is of no account. -/
theorem accounted_of_read {named : String → Prop} {d d' : Deployment}
    (h : d.repository.Heard d'.repository) (hsubstrate : d'.substrate = d.substrate)
    (haudit : d'.audit = d.audit) : Accounted named d d' :=
  .of_grows (hsubstrate ▸ List.prefix_refl _) (fun _ q hq => ⟨q, hsubstrate ▸ hq⟩) h
    (haudit ▸ List.prefix_refl _)

/-- A delta silences only ports that it gives up, and after a success none of those is recorded. -/
theorem ends_applyDelta_accounted (amphoraId : String) (delta : Delta) (run : Run Deployment) :
    Action.Ends (Step.applyDelta amphoraId delta).execute run
      (fun _ run' => Accounted delta.GivesUp run.state run'.state ∧
        (run.state.repository.Harmless →
          ∀ id, delta.GivesUp id → ¬ run'.state.repository.Bound id))
      fun _ run' => Accounted delta.GivesUp run.state run'.state := by
  refine (ends_onRepository (Repository.ends_getAmphora amphoraId _)).bind ?_ ?_
  · intro amphora run₁ hend
    obtain ⟨⟨hheard, -⟩, hsubstrate, haudit⟩ := hend
    have hread : Accounted delta.GivesUp run.state run₁.state :=
      accounted_of_read hheard hsubstrate haudit
    refine (delta.ends_apply_accounted amphora run₁).bind ?_ ?_
    · intro ports run₂ hend
      obtain ⟨h, hforgotten⟩ := hend
      exact ends_pure ⟨hread.trans h, fun hharmless => hforgotten (hread.harmless hharmless)⟩
    · exact fun e run₂ h => hread.trans h
  · intro e run₁ hend
    obtain ⟨⟨e', -, hheard, -⟩, hsubstrate, haudit⟩ := hend
    exact accounted_of_read hheard hsubstrate haudit

/-- Several deltas silence only ports that they give up. -/
theorem ends_applyDeltas_accounted (lbId : String) (deltas : IdMap Delta) (run : Run Deployment) :
    Action.Ends (Step.applyDeltas lbId deltas).execute run
      (Delta.AccountedRun (GivesUp (applyDeltas lbId deltas)) run.state)
      (Delta.AccountedRun (GivesUp (applyDeltas lbId deltas)) run.state) := by
  refine (ends_onRepository (Repository.ends_getLoadBalancer lbId _)).bind ?_ ?_
  · intro lb run₁ hend
    obtain ⟨⟨hheard, -⟩, hsubstrate, haudit⟩ := hend
    have hread : Delta.AccountedRun (GivesUp (applyDeltas lbId deltas)) run.state
        (.empty : IdMap (List Port)) run₁ := accounted_of_read hheard hsubstrate haudit
    refine Ends.foldlM_mem ?_ hread
    intro hend hentry changed run₂ h
    obtain ⟨amphoraId, delta⟩ := hend
    have hvalues : delta ∈ deltas.values :=
      List.mem_map.mpr ⟨(amphoraId, delta), hentry, rfl⟩
    refine (ends_orFail _ _ run₂).bind ?_ ?_
    · intro amphora run₃ hend
      obtain ⟨rfl, -⟩ := hend
      have hnamed : ∀ id, delta.GivesUp id → GivesUp (applyDeltas lbId deltas) id :=
        fun id hid => ⟨delta, hvalues, hid⟩
      refine (delta.ends_apply_accounted amphora run₃).bind ?_ ?_
      · exact fun ports run₄ h' => ends_pure (Accounted.trans h (h'.1.mono hnamed))
      · exact fun e run₄ h' => Accounted.trans h (h'.mono hnamed)
    · intro e run₃ hend
      obtain ⟨rfl, -⟩ := hend
      exact h
  · intro e run₁ hend
    obtain ⟨⟨e', -, hheard, -⟩, hsubstrate, haudit⟩ := hend
    exact accounted_of_read hheard hsubstrate haudit

/-- Every round accounts for all ports but those that it gives up. -/
theorem accounted (run : Run Deployment) (round : Round) :
    Accounted round.GivesUp run.state (perform run round).state := by
  cases round with
  | applyDelta amphoraId delta =>
    refine Action.Ends.state (p := Delta.AccountedRun delta.GivesUp run.state ()) ?_
    exact (ends_applyDelta_accounted amphoraId delta run).imp_ok fun _ _ h => h.1
  | revertDelta amphoraId delta changed => exact (Delta.ends_unwind_accounted _ _ _ run).state
  | applyDeltas lbId deltas => exact (ends_applyDeltas_accounted lbId deltas run).state
  | revertDeltas lbId deltas changed =>
    have hbegin : Delta.AccountedRun (fun _ => False) run.state () run := Accounted.refl _
    have hend := Effect.Ends.forM_mem (l := deltas.entries) (f := fun entry : String × Delta =>
      entry.2.unwind ((changed.get? entry.1).getD [])) (fun entry _ run₁ h =>
        (entry.2.ends_unwind_accounted _ _ run₁).mono fun _ run₂ h' => Accounted.trans h h') hbegin
    exact hend.state
  | computeDelta management lb amphora =>
    exact ends_onSubstrate_accounted ((ends_computeDelta management lb amphora _).imp_ok
      fun _ _ h => h.1)
  | computeDeltas management lb =>
    exact ends_onSubstrate_accounted ((ends_computeDeltas management lb _).mono
      (fun _ _ h => h.1) fun _ _ h => h.1)
  | store lb =>
    exact ⟨id, List.prefix_refl _, fun _ _ hsilent =>
      .inl ⟨hsilent.existing, hsilent.unbound, hsilent.unreported⟩⟩
  | script faults =>
    exact ⟨id, List.prefix_refl _, fun _ _ hsilent =>
      .inl ⟨hsilent.existing, hsilent.unbound, hsilent.unreported⟩⟩

/-- A port that is silent in the end was silent before, or some round has abandoned it. -/
theorem silent_or_abandoned (run : Run Deployment) (hharmless : run.state.repository.Harmless)
    (rounds : List Round) {id : String} (hsilent : (performAll run rounds).state.Silent id) :
    run.state.Silent id ∨ ∃ earlier round later, rounds = earlier ++ round :: later ∧
      round.Abandons (performAll run earlier) id := by
  induction rounds generalizing run with
  | nil => exact .inl hsilent
  | cons round rest ih =>
    have haccounted := accounted run round
    rcases ih (perform run round) (haccounted.harmless hharmless) hsilent with
      hsilent | ⟨earlier, round', later, rfl, habandons⟩
    · refine (haccounted.silent hharmless id hsilent).imp_right fun h => ?_
      exact ⟨[], round, rest, rfl, h.1, h.2, hsilent.existing⟩
    · exact .inr ⟨round :: earlier, round', later, rfl, habandons⟩

/-- A port that was made on the way is owned or reported, unless some round has abandoned it; and a
delta that is applied to its end leaves none of the ports that it gives up with an owner. -/
theorem made_ports_owned_or_abandoned {run : Run Deployment}
    (hharmless : run.state.repository.Harmless) (rounds : List Round) :
    (∀ id, run.state.substrate.ports.get? id = none →
      (∃ p, (performAll run rounds).state.substrate.ports.get? id = some p) →
      (performAll run rounds).state.repository.Bound id ∨
      (performAll run rounds).state.audit.LeakReported id ∨
      ∃ earlier round later, rounds = earlier ++ round :: later ∧
        round.Abandons (performAll run earlier) id) ∧
    ∀ amphoraId delta,
      ((Step.applyDelta amphoraId delta).execute.runOn
        (performAll run rounds)).1.toOption.isSome →
      ∀ id, delta.GivesUp id →
        ¬ (performAll run (rounds ++ [.applyDelta amphoraId delta])).state.repository.Bound id := by
  have hall : ∀ (rounds : List Round) (run : Run Deployment), run.state.repository.Harmless →
      (performAll run rounds).state.repository.Harmless := by
    intro rounds
    induction rounds with
    | nil => exact fun run h => h
    | cons round rest ih => exact fun run h => ih _ ((accounted run round).harmless h)
  constructor
  · intro id hnew hexisting
    by_cases hbound : (performAll run rounds).state.repository.Bound id
    · exact .inl hbound
    by_cases hreported : (performAll run rounds).state.audit.LeakReported id
    · exact .inr (.inl hreported)
    refine .inr (.inr ?_)
    refine (silent_or_abandoned run hharmless rounds ⟨hexisting, hbound, hreported⟩).resolve_left ?_
    intro h
    obtain ⟨⟨p, hp⟩, -, -⟩ := h
    simp [hnew] at hp
  · intro amphoraId delta hok id hid
    obtain ⟨out, run', hrun⟩ := exists_of_isSome _ _ hok
    have hforgotten := ((ends_applyDelta_accounted amphoraId delta _).of_ok hrun).2
      (hall rounds run hharmless) id hid
    have hlast : performAll run (rounds ++ [.applyDelta amphoraId delta]) = run' := by
      unfold performAll at hrun ⊢
      rw [List.foldl_append, List.foldl_cons, List.foldl_nil, perform, hrun]
    rwa [hlast]

/-- The delta of the first amphora of the sample deployment, for the given pools. -/
def sampleDelta (s : Substrate) (pools : List Pool) : Except NetworkError Delta :=
  ((Substrate.computeDelta ["mgmt-net"] { Sample.loadBalancer [] with pools }
    (Sample.amphora "amp-1" "vm-1")).runOn s).1

/-- One delta is applied, and then another one while a port cannot be deleted. -/
def sampleRounds (delta delta' : Delta) : List Round :=
  [.applyDelta "amp-1" delta, .script [⟨.deletePort, .createPort "busy", 1⟩],
    .applyDelta "amp-1" delta']

/-- A port that was made for the sample is accounted for. -/
theorem made_ports_owned_or_abandoned_sample :
    ∃ delta ∈ (sampleDelta Sample.substrate (Sample.loadBalancer []).pools).toOption,
    Sample.substrate.ports.get? (drawnId 3) = none ∧
    ((performAll (Sample.start Sample.substrate) [.applyDelta "amp-1" delta]).state.repository.Bound
        (drawnId 3) ∨
      (performAll (Sample.start Sample.substrate)
        [.applyDelta "amp-1" delta]).state.audit.LeakReported (drawnId 3) ∨
      ∃ earlier round later, [Round.applyDelta "amp-1" delta] = earlier ++ round :: later ∧
        round.Abandons (performAll (Sample.start Sample.substrate) earlier) (drawnId 3)) := by
  have hmade : ∃ delta ∈ (sampleDelta Sample.substrate (Sample.loadBalancer []).pools).toOption,
      Sample.substrate.ports.get? (drawnId 3) = none ∧ ((performAll (Sample.start Sample.substrate)
        [.applyDelta "amp-1" delta]).state.substrate.ports.get? (drawnId 3)).isSome := by
    decide +kernel
  obtain ⟨delta, hdelta, hnew, hexisting⟩ := hmade
  have hharmless : (Sample.start Sample.substrate).state.repository.Harmless := by
    intro o ho
    cases ho
  refine ⟨delta, hdelta, hnew, ?_⟩
  exact (made_ports_owned_or_abandoned hharmless [.applyDelta "amp-1" delta]).1 _ hnew
    (Option.isSome_iff_exists.mp hexisting)

/-- The second delta gives up a port that was made for the first. It cannot be deleted, and nobody
owns it any more. -/
theorem given_up_port_silent :
    ∃ delta ∈ (sampleDelta Sample.substrate (Sample.loadBalancer []).pools).toOption,
    ∃ delta' ∈ (sampleDelta (perform (Sample.start Sample.substrate)
      (.applyDelta "amp-1" delta)).state.substrate []).toOption,
    Sample.substrate.ports.get? (drawnId 3) = none ∧
    (performAll (Sample.start Sample.substrate) (sampleRounds delta delta')).state.Silent
      (drawnId 3) := by
  have hrun : ∃ delta ∈ (sampleDelta Sample.substrate (Sample.loadBalancer []).pools).toOption,
      ∃ delta' ∈ (sampleDelta (perform (Sample.start Sample.substrate)
        (.applyDelta "amp-1" delta)).state.substrate []).toOption,
      Sample.substrate.ports.get? (drawnId 3) = none ∧
      ((performAll (Sample.start Sample.substrate)
        (sampleRounds delta delta')).state.substrate.ports.get? (drawnId 3)).isSome ∧
      (¬ ∃ b ∈ (performAll (Sample.start Sample.substrate)
        (sampleRounds delta delta')).state.repository.bindings, b.portId = drawnId 3) ∧
      ∀ e ∈ (performAll (Sample.start Sample.substrate)
        (sampleRounds delta delta')).state.audit.events, e.level ≠ .error := by
    decide +kernel
  obtain ⟨delta, hdelta, delta', hdelta', hnew, hexisting, hunbound, hquiet⟩ := hrun
  refine ⟨delta, hdelta, delta', hdelta', hnew, Option.isSome_iff_exists.mp hexisting, hunbound, ?_⟩
  intro h
  obtain ⟨component, kind, reason, hmem⟩ := h
  exact hquiet _ hmem rfl

end Round

end AmphoraWiring
