import AmphoraWiring.Proofs.Saga.Policies

/-!
A policy is brought to all amphorae at once, or to one amphora after the other. Both ways make the
same calls, so they agree also where a base port is missing. They part where no policy is in force
and there is no update: then nothing is done at once, but one after the other the base ports lose
the policy that they have.
-/
namespace AmphoraWiring

open Action

namespace Deployment

/-- The work from `run` ends like the other from `run'`, and with the same substrate. -/
def Alike (x y : Work α) (run run' : Run Deployment) : Prop :=
  (x.runOn run).1 = (y.runOn run').1 ∧
    (x.runOn run).2.state.substrate = (y.runOn run').2.state.substrate

variable {run run' : Run Deployment}

theorem alike_onSubstrate (h : run.state.substrate = run'.state.substrate)
    (call : Substrate.Call α) : Alike (onSubstrate call) (onSubstrate call) run run' := by
  have hrun : ∀ run, Action.runOn (onSubstrate call) run =
      ((call.runOn run.state.substrate).1.mapError id,
        { run with state :=
          { run.state with substrate := (call.runOn run.state.substrate).2 } }) := fun _ => rfl
  simp only [Alike, hrun, h, and_self]

theorem Alike.bind {x y : Work α} {f g : α → Work β} (h : Alike x y run run')
    (hrest : ∀ a run₁ run₁', run₁.state.substrate = run₁'.state.substrate →
      Alike (f a) (g a) run₁ run₁') : Alike (x >>= f) (y >>= g) run run' := by
  obtain ⟨hresult, hsubstrate⟩ := h
  unfold Alike
  rw [runOn_bind, runOn_bind]
  rcases hx : x.runOn run with ⟨e | a, run₁⟩ <;> rcases hy : y.runOn run' with ⟨e' | b, run₁'⟩ <;>
    simp only [hx, hy] at hresult hsubstrate <;> cases hresult
  · exact ⟨rfl, hsubstrate⟩
  · exact hrest a run₁ run₁' hsubstrate

end Deployment

namespace Step

open Deployment Substrate

variable {run run' : Run Deployment} {lb stored : LoadBalancer} {policyId : Option String}
  {update : Option LoadBalancerUpdate}

/-- The policy of the request is brought to one amphora after the other. -/
def applyQosInTurn (lb : LoadBalancer) (update : Option LoadBalancerUpdate)
    (amphorae : List Amphora) : Work Unit :=
  amphorae.forM fun a => (applyQosOnAmphora lb a update).execute

/-- The update leaves the policy alone, or it asks for this one. -/
def Confirms (policyId : Option String) (update : Option LoadBalancerUpdate) : Prop :=
  ∀ u ∈ update, u.touchesQos → u.vip.bind (·.qosPolicyId) = some policyId

/-- Bringing a policy to amphorae depends on the substrate alone. -/
theorem alike_forM_setPolicy (h : run.state.substrate = run'.state.substrate)
    (policyId : Option String) (amphorae : List Amphora) :
    Alike (amphorae.forM (setPolicy policyId)) (amphorae.forM (setPolicy policyId)) run run' := by
  induction amphorae generalizing run run' with
  | nil => exact ⟨rfl, h⟩
  | cons a amphorae ih =>
    have hhead : Alike (setPolicy policyId a) (setPolicy policyId a) run run' := by
      unfold setPolicy
      split
      · exact ⟨rfl, h⟩
      · exact alike_onSubstrate h _
    exact hhead.bind fun _ _ _ h' => ih h'

/-- An update that asks for the policy in force brings that one to the ports. -/
theorem applied_of_confirms (h : Confirms stored.vip.qosPolicyId update) :
    applied stored update = stored.vip.qosPolicyId := by
  unfold applied
  cases update with
  | none => rfl
  | some u =>
    rcases hvip : u.vip with _ | ⟨_ | policy⟩
    · simp [LoadBalancerUpdate.requestedQos, hvip]
    · simp [LoadBalancerUpdate.requestedQos, hvip]
    · have hasked := h u rfl (by simp [LoadBalancerUpdate.touchesQos, hvip])
      have hsame : policy = stored.vip.qosPolicyId := by simpa [hvip] using hasked
      simp [LoadBalancerUpdate.requestedQos, hvip, hsame]

/-- At once, the repository is asked first; then either there is nothing to do, or the amphorae are
gone through. -/
theorem runOn_spreadPolicy (hharmless : run.state.repository.Harmless)
    (hstored : run.state.repository.loadBalancers.get? lb.id = some stored)
    (amphorae : Option (List Amphora)) (update : Option LoadBalancerUpdate) :
    ∃ run₁, Consulted run.state run₁.state ∧
      (spreadPolicy lb amphorae update).runOn run =
        if stored.vip.qosPolicyId.isNone && !update.any (·.touchesQos) then (.ok (), run₁)
        else ((chosen run.state.repository lb amphorae).forM
          (setPolicy (applied stored update))).runOn run₁ := by
  obtain ⟨read, run₁, hread, hconsulted, rfl⟩ :=
    (ends_loadBalancer (.refl _) hharmless hstored).value
  unfold spreadPolicy
  by_cases hidle : stored.vip.qosPolicyId.isNone && !update.any (·.touchesQos)
  · refine ⟨run₁, hconsulted, ?_⟩
    rw [runOn_bind, hread, if_pos hidle]
    simp only [hidle, if_true]
    rfl
  · obtain ⟨as, run₂, hchosen, hconsulted', rfl⟩ :=
      (ends_amphoraeToChange hconsulted hharmless hstored amphorae).value
    refine ⟨run₂, hconsulted', ?_⟩
    rw [runOn_bind, hread, if_neg hidle]
    simp only [hidle, Bool.false_eq_true, if_false]
    rw [runOn_bind, hchosen]
    rfl

/-- In turn, nothing is done if no policy is in force and the update leaves it at that. -/
theorem runOn_applyQosInTurn_idle
    (hidle : lb.vip.qosPolicyId.isNone && update.any fun u => !u.touchesQos)
    (amphorae : List Amphora) (run : Run Deployment) :
    (applyQosInTurn lb update amphorae).runOn run = (.ok (), run) := by
  have hexecute : ∀ a, (applyQosOnAmphora lb a update).execute = pure () := fun a => if_pos hidle
  unfold applyQosInTurn
  simp only [hexecute]
  induction amphorae with
  | nil => rfl
  | cons a amphorae ih => exact ih

theorem applyQosInTurn_eq
    (hbusy : ¬ (lb.vip.qosPolicyId.isNone && update.any fun u => !u.touchesQos))
    (amphorae : List Amphora) :
    applyQosInTurn lb update amphorae = amphorae.forM (setPolicy lb.vip.qosPolicyId) := by
  have hexecute : ∀ a, (applyQosOnAmphora lb a update).execute = setPolicy lb.vip.qosPolicyId a :=
    fun a => if_neg hbusy
  simp only [applyQosInTurn, hexecute]

/-- Where a policy is in force or there is an update, both ways do the same. -/
theorem alike_applyQos (hharmless : run.state.repository.Harmless)
    (hstored : run.state.repository.loadBalancers.get? lb.id = some stored)
    (hpolicy : lb.vip.qosPolicyId = stored.vip.qosPolicyId) (amphorae : Option (List Amphora))
    (hupdate : Confirms stored.vip.qosPolicyId update)
    (hany : stored.vip.qosPolicyId ≠ none ∨ update ≠ none) :
    Alike (applyQos lb amphorae update).execute
      (applyQosInTurn lb update (chosen run.state.repository lb amphorae)) run run := by
  obtain ⟨run₁, hconsulted, hrun⟩ := runOn_spreadPolicy hharmless hstored amphorae update
  have hidle : (lb.vip.qosPolicyId.isNone && update.any fun u => !u.touchesQos) =
      (stored.vip.qosPolicyId.isNone && !update.any (·.touchesQos)) := by
    rw [hpolicy]
    cases hany' : stored.vip.qosPolicyId with
    | some policyId => rfl
    | none =>
      obtain ⟨u, rfl⟩ := Option.ne_none_iff_exists'.mp (hany.resolve_left (· hany'))
      rfl
  have hexecute : (applyQos lb amphorae update).execute.runOn run =
    (spreadPolicy lb amphorae update).runOn run := rfl
  unfold Alike
  rw [hexecute, hrun]
  by_cases h : stored.vip.qosPolicyId.isNone && !update.any (·.touchesQos)
  · rw [if_pos h, runOn_applyQosInTurn_idle (hidle ▸ h)]
    exact ⟨rfl, hconsulted.substrate⟩
  · rw [if_neg h, applyQosInTurn_eq (hidle ▸ h), applied_of_confirms hupdate, hpolicy]
    exact alike_forM_setPolicy hconsulted.substrate _ _

/-- Without a policy and without an update, the base ports lose theirs in turn. This leaves no trace
exactly if they all exist and none of them has one. -/
theorem forM_setPolicy_none_iff (hquiet : run.state.substrate.faults = [])
    (amphorae : List Amphora) :
    (((amphorae.forM (setPolicy none)).runOn run).1 = .ok () ∧
        ((amphorae.forM (setPolicy none)).runOn run).2.state.substrate.ports =
          run.state.substrate.ports) ↔
      ∀ id ∈ basePorts amphorae, ∃ p, run.state.substrate.ports.get? id = some p ∧
        p.qosPolicyId = none := by
  have hends := ends_forM_setPolicy hquiet none amphorae
  rcases hrun : Action.runOn (amphorae.forM (setPolicy none)) run with ⟨e | _, run₁⟩
  · obtain ⟨id, hid, hmissing⟩ := hends.of_error hrun
    refine ⟨fun h => (nomatch h.1), fun h => ?_⟩
    obtain ⟨p, hp, -⟩ := h id hid
    simp [IdMap.contains, hp] at hmissing
  · obtain ⟨hspread, hexist⟩ := hends.of_ok hrun
    have hget : ∀ id,
        (run.state.substrate.applyPolicies none (basePorts amphorae)).ports.get? id =
          if id ∈ basePorts amphorae then
            (run.state.substrate.ports.get? id).map (·.withPolicy none)
          else run.state.substrate.ports.get? id := get?_applyPolicies _
    rw [← hspread.substrate] at hget
    constructor
    · intro h id hid
      obtain ⟨p, hp⟩ := IdMap.contains_iff.mp (hexist id hid)
      have hsame := hget id
      rw [h.2, if_pos hid, hp, Option.map_some, Option.some.injEq] at hsame
      exact ⟨p, hp, congrArg Port.qosPolicyId hsame⟩
    · intro h
      refine ⟨rfl, IdMap.ext_get? fun id => ?_⟩
      rw [hget]
      split
      next hid =>
        obtain ⟨p, hp, hnone⟩ := h id hid
        rw [hp, Option.map_some, Port.withPolicy, ← hnone]
      next => rfl

/-- Bringing the policy in force to the amphorae at once ends as bringing it to them in turn does,
and leaves the same ports, if there is a policy or an update. If there is neither, nothing is done
at once, so the two agree exactly if the base ports exist and have no policy. -/
theorem applyQos_in_turn_iff (hquiet : run.state.substrate.faults = [])
    (hharmless : run.state.repository.Harmless)
    (hstored : run.state.repository.loadBalancers.get? lb.id = some stored)
    (hpolicy : lb.vip.qosPolicyId = stored.vip.qosPolicyId) (amphorae : Option (List Amphora))
    (hupdate : Confirms stored.vip.qosPolicyId update) :
    let chosen := chosen run.state.repository lb amphorae
    let atOnce := (applyQos lb amphorae update).execute.runOn run
    let inTurn := (applyQosInTurn lb update chosen).runOn run
    (atOnce.1 = inTurn.1 ∧
        atOnce.2.state.substrate.ports = inTurn.2.state.substrate.ports ↔
      stored.vip.qosPolicyId ≠ none ∨ update ≠ none ∨
        ∀ id ∈ basePorts chosen, ∃ p, run.state.substrate.ports.get? id = some p ∧
          p.qosPolicyId = none) ∧
    (stored.vip.qosPolicyId = none → ¬ update.any (·.touchesQos) →
      atOnce.1 = .ok () ∧ atOnce.2.state.substrate.ports = run.state.substrate.ports) := by
  intro chosen atOnce inTurn
  obtain ⟨run₁, hconsulted, hrun⟩ := runOn_spreadPolicy hharmless hstored amphorae update
  have hatOnce : stored.vip.qosPolicyId = none → ¬ update.any (·.touchesQos) →
      atOnce = (.ok (), run₁) := fun hnone huntouched =>
    hrun.trans (if_pos (by simp [hnone, huntouched]))
  refine ⟨?_, fun hnone huntouched => ?_⟩
  · by_cases hany : stored.vip.qosPolicyId ≠ none ∨ update ≠ none
    · have halike := alike_applyQos hharmless hstored hpolicy amphorae hupdate hany
      exact iff_of_true ⟨halike.1, congrArg Substrate.ports halike.2⟩ (or_assoc.mp (.inl hany))
    · rw [not_or, ne_eq, ne_eq, not_not, not_not] at hany
      obtain ⟨hnone, rfl⟩ := hany
      have hinTurn : inTurn = (chosen.forM (setPolicy none)).runOn run := by
        have hbusy : ¬ (lb.vip.qosPolicyId.isNone &&
            (none : Option LoadBalancerUpdate).any fun u => !u.touchesQos) := by simp
        have heq := applyQosInTurn_eq hbusy chosen
        rw [hpolicy, hnone] at heq
        exact congrArg (Action.runOn · run) heq
      rw [hatOnce hnone (by simp), hinTurn, hconsulted.substrate, eq_comm (a := Except.ok ()),
        eq_comm (a := run.state.substrate.ports), forM_setPolicy_none_iff hquiet]
      simp [hnone]
  · rw [hatOnce hnone huntouched]
    exact ⟨rfl, congrArg Substrate.ports hconsulted.substrate⟩

end Step

namespace Sample

open Substrate

/-- An amphora with a base port that exists, and one whose base port does not. -/
def wiredHalf : List Amphora :=
  [{ amphora "amp-1" "vm-1" with vrrpPortId := some (drawnId 3) },
   { amphora "amp-2" "vm-2" with vrrpPortId := some "gone" }]

/-- The base port of the first amphora has a policy, and none is in force. -/
def startUnregulated : Run Deployment where
  context := {}
  state :=
    { substrate := ((createPort
        { networkId := "vip-net"
          name := "vrrp-amp-1"
          qosPolicyId := some "stale" }).runOn substrate).2
      repository := Repository.store {} (loadBalancer (wiredHalf.take 1)) }

end Sample

namespace Step

open Substrate

/-- Both ways bring the policy to the first amphora and stop at the second one. -/
theorem applyQos_in_turn_iff_half :
    let atOnce := (applyQos (Sample.regulated "old") (some Sample.wiredHalf) none).execute.runOn
      Sample.startRegulated
    let inTurn := (applyQosInTurn (Sample.regulated "old") none Sample.wiredHalf).runOn
      Sample.startRegulated
    atOnce.1 = inTurn.1 ∧ inTurn.1.toOption = none ∧
      atOnce.2.state.substrate.ports = inTurn.2.state.substrate.ports ∧
      (inTurn.2.state.substrate.ports.get? (drawnId 3)).map (·.qosPolicyId) =
        some (some "old") := by
  have hquiet : Sample.startRegulated.state.substrate.faults = [] := by decide +kernel
  have hstored : Sample.startRegulated.state.repository.loadBalancers.get?
      (Sample.regulated "old").id = some { Sample.regulated "old" with amphorae := [] } := by
    decide +kernel
  have hconfirms : Confirms (Sample.regulated "old").vip.qosPolicyId none := nofun
  have hchosen : chosen Sample.startRegulated.state.repository (Sample.regulated "old")
      (some Sample.wiredHalf) = Sample.wiredHalf := by
    decide +kernel
  have hagree := (applyQos_in_turn_iff hquiet (Repository.harmless_of_script_nil rfl) hstored rfl
    (some Sample.wiredHalf) hconfirms).1
  rw [hchosen] at hagree
  obtain ⟨hresult, hports⟩ := hagree.mpr (.inl (by decide))
  exact ⟨hresult, by decide +kernel, hports, by decide +kernel⟩

/-- No policy is in force and none is asked for, but in turn the base port loses the one it has. -/
theorem idle_in_turn_clears_policy :
    let lb := Sample.loadBalancer (Sample.wiredHalf.take 1)
    let atOnce := (applyQos lb none none).execute.runOn Sample.startUnregulated
    let inTurn := (applyQosInTurn lb none lb.amphorae).runOn Sample.startUnregulated
    atOnce.1.toOption = some () ∧ inTurn.1.toOption = some () ∧
      (atOnce.2.state.substrate.ports.get? (drawnId 3)).map (·.qosPolicyId) =
        some (some "stale") ∧
      (inTurn.2.state.substrate.ports.get? (drawnId 3)).map (·.qosPolicyId) = some none := by
  decide +kernel

end Step

end AmphoraWiring
