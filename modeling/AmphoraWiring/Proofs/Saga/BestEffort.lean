import AmphoraWiring.Proofs.Saga.Policies
import AmphoraWiring.Proofs.Saga.TakingBack
import AmphoraWiring.Saga.Attachment

/-!
Loops that go on past failures. Taking back the interfaces that deltas added, detaching networks
and restoring policies each make their calls for one item after the other, whatever becomes of
them. A scripted failure costs the item for which the call was made and no other, so what is left
in the end is told by which of the calls fail.
-/
namespace AmphoraWiring

open Action Substrate

/-- A loop that passes over failures comes to its end. -/
theorem Flow.ends_forM_outcome {σ α γ : Type} {f : γ → Flow σ α} (inv : List γ → Run σ → Prop)
    (hstep : ∀ done x run, inv done run →
      Action.Ends (f x) run (fun _ => inv (done ++ [x])) fun _ => inv (done ++ [x]))
    (l : List γ) {run : Run σ} (h : inv [] run) :
    Action.Ends (l.forM fun x => do let _ ← Flow.outcome (f x)) run (fun _ => inv l)
      fun _ _ => False := by
  have hrest : ∀ rest done, l = done ++ rest → ∀ run, inv done run →
      Action.Ends (rest.forM fun x => do let _ ← Flow.outcome (f x)) run (fun _ => inv l)
        fun _ _ => False := by
    intro rest
    induction rest with
    | nil =>
      intro done hsplit run h
      rw [List.append_nil] at hsplit
      exact ends_pure (hsplit ▸ h)
    | cons x rest ih =>
      intro done hsplit run h
      have hhead : Action.Ends (do let _ ← Flow.outcome (f x)) run
          (fun _ => inv (done ++ [x])) fun _ _ => False :=
        Flow.ends_attempt (hstep done x run h) fun _ _ h' => ends_pure h'
      refine hhead.bind (fun _ run' h' => ?_) fun _ _ h => h
      exact ih (done ++ [x]) (by rw [hsplit, List.append_assoc, List.singleton_append]) run' h'
  exact hrest l [] rfl run h

/-! Detaching networks -/

namespace Substrate

variable {s t u : Substrate} {c n : String} {networks : List String}

/-- `t` is `s` after the instance left the networks, and nothing else has changed about ports and
lists. -/
structure Left (c : String) (networks : List String) (s t : Substrate) : Prop where
  listed : ∀ c', t.pluggedPortIds c' =
    if c' = c then (s.pluggedPortIds c).filter fun id => ∀ n ∈ networks, id ∉ s.idsOn c n
    else s.pluggedPortIds c'
  ports : ∀ id, t.ports.get? id =
    if ∃ n ∈ networks, id ∈ s.idsOn c n then
      (s.ports.get? id).map fun p => { p with deviceId := none }
    else s.ports.get? id

namespace Left

theorem refl (c : String) (s : Substrate) : Left c [] s s := by
  constructor
  · intro c'
    by_cases hc : c' = c <;> simp [hc]
  · simp

theorem heard (h : Left c networks s t) (hheard : t.Heard u) : Left c networks s u := by
  refine ⟨fun c' => ?_, fun id => hheard.ports ▸ h.ports id⟩
  rw [← h.listed]
  simp only [pluggedPortIds, hheard.plugged]

/-- The instance has left the networks, and no other. -/
theorem mem_idsOn (h : Left c networks s t) {id : String} :
    id ∈ t.idsOn c n ↔ id ∈ s.idsOn c n ∧ n ∉ networks := by
  have hunique : ∀ {n'}, id ∈ s.idsOn c n → id ∈ s.idsOn c n' → n' = n := by
    intro n' hn hn'
    obtain ⟨-, p, hp, rfl⟩ := Substrate.mem_idsOn.mp hn
    obtain ⟨-, q, hq, rfl⟩ := Substrate.mem_idsOn.mp hn'
    rw [hp] at hq
    cases hq
    rfl
  rw [Substrate.mem_idsOn, h.listed, if_pos rfl, h.ports]
  simp only [List.mem_filter, decide_eq_true_eq]
  constructor
  · intro hid
    obtain ⟨⟨hlisted, hstays⟩, p, hp, hnet⟩ := hid
    rw [if_neg fun hleft => hleft.elim fun n' hn' => hstays n' hn'.1 hn'.2] at hp
    have hmem := Substrate.mem_idsOn.mpr ⟨hlisted, p, hp, hnet⟩
    exact ⟨hmem, fun hn => hstays n hn hmem⟩
  · intro hid
    obtain ⟨hmem, hn⟩ := hid
    obtain ⟨hlisted, p, hp, hnet⟩ := Substrate.mem_idsOn.mp hmem
    have hstays : ∀ n' ∈ networks, id ∉ s.idsOn c n' :=
      fun n' hn' hmem' => hn (hunique hmem hmem' ▸ hn')
    refine ⟨⟨hlisted, hstays⟩, p, ?_, hnet⟩
    rw [if_neg fun hleft => hleft.elim fun n' hn' => hstays n' hn'.1 hn'.2, hp]

theorem detach (h : Left c networks s t) (n : String) :
    Left c (networks ++ [n]) s (t.detach c n) := by
  have hsplit : ∀ id, (∃ n' ∈ networks ++ [n], id ∈ s.idsOn c n') ↔
      (∃ n' ∈ networks, id ∈ s.idsOn c n') ∨ id ∈ t.idsOn c n := by
    intro id
    rw [exists_mem_concat_iff, h.mem_idsOn]
    by_cases hn : n ∈ networks
    · simp only [hn, not_true_eq_false, and_false, or_false, or_iff_left_iff_imp]
      exact fun hid => ⟨n, hn, hid⟩
    · simp [hn]
  constructor
  case listed =>
    intro c'
    rw [pluggedPortIds_detach]
    split
    next hc =>
      rw [h.listed, if_pos rfl, List.filter_filter]
      apply List.filter_congr
      intro id _
      rw [Bool.eq_iff_iff]
      have hiff := not_congr (hsplit id)
      simp only [not_exists, not_and, not_or] at hiff
      simp only [List.contains_eq_mem, Bool.and_eq_true, Bool.not_eq_true', decide_eq_true_eq,
        decide_eq_false_iff_not, hiff]
      exact and_comm
    next hc => rw [h.listed, if_neg hc]
  case ports =>
    intro id
    simp only [get?_ports_detach, hsplit, h.ports]
    by_cases hleft : ∃ n' ∈ networks, id ∈ s.idsOn c n' <;> by_cases hon : id ∈ t.idsOn c n <;>
      simp [hleft, hon, Function.comp_def]

/-- A network on which the instance has no port is left already. -/
theorem nothing (h : Left c networks s t) (hnone : t.idsOn c n = []) :
    Left c (networks ++ [n]) s t := by
  have hdetached := h.detach n
  constructor
  · intro c'
    rw [← hdetached.listed, pluggedPortIds_detach, hnone]
    split
    next hc => simp [hc]
    next => rfl
  · intro id
    rw [← hdetached.ports, get?_ports_detach, hnone, if_neg List.not_mem_nil]

end Left

/-- Each of the networks was to be detached. The instance is still attached to those for which
every call failed, and it has left the others. -/
structure Unplugged (c : String) (networks : List String) (s t : Substrate) : Prop where
  calls : t.journal =
    s.journal ++ networks.map fun n => ⟨.unplugNetwork, c ++ "/" ++ n⟩
  attached : ∀ n ∈ networks, s.idsOn c n ≠ [] →
    (t.idsOn c n ≠ [] ↔ s.Struck .unplugNetwork networks n)
  untouched : ∀ id p, s.ports.get? id = some p → p.networkId ∉ networks →
    t.ports.get? id = some p ∧ ∀ c', id ∈ t.pluggedPortIds c' ↔ id ∈ s.pluggedPortIds c'

/-- Some of the networks were to be detached so far, and the instance has left those for which a
call went through. -/
structure Detaching (c : String) (networks : List String) (s t : Substrate) : Prop where
  issues : s.Issues (networks.map fun n => ⟨.unplugNetwork, c ++ "/" ++ n⟩) t
  left : Left c (s.passing .unplugNetwork networks) s t

theorem detaching_start (c : String) (s : Substrate) : Detaching c [] s s where
  issues := .refl s
  left := by
    rw [passing, List.drop_nil]
    exact .refl c s

/-- One network more, whether it can be detached or not. -/
theorem Detaching.ends_unplugNetwork (h : Detaching c networks s t) (n : String) :
    (unplugNetwork c n).Ends t (fun _ u => Detaching c (networks ++ [n]) s u)
      fun _ u => Detaching c (networks ++ [n]) s u := by
  have hpassing := passing_concat (h.issues.due_of_map fun _ => rfl) n
  have hnext : ∀ {u : Substrate}, t.Issues [⟨.unplugNetwork, c ++ "/" ++ n⟩] u →
      s.Issues ((networks ++ [n]).map fun n => ⟨.unplugNetwork, c ++ "/" ++ n⟩) u := by
    intro u hu
    simpa using h.issues.trans hu
  apply (ends_unplugNetwork_issues c n t).mono
  · intro _ u hend
    obtain ⟨hmade, hdetached, -, hundue⟩ := hend
    refine ⟨hnext hmade, ?_⟩
    rw [hpassing, if_pos hundue]
    exact (h.left.detach n).heard hdetached
  · intro e u hend
    obtain ⟨hmade, hheard, hwhy⟩ := hend
    refine ⟨hnext hmade, ?_⟩
    rw [hpassing]
    split
    next hundue =>
      refine (h.left.nothing ?_).heard hheard
      -- an instance that is not there has no ports
      cases hhosted : t.plugged.contains c with
      | true => exact hwhy hundue hhosted
      | false =>
        have hnone := IdMap.contains_eq_false_iff.mp hhosted
        simp [idsOn, pluggedPortIds, hnone]
    next => exact h.left.heard hheard

theorem Detaching.unplugged (h : Detaching c networks s t) : Unplugged c networks s t where
  calls := h.issues.journal
  attached := by
    intro n hn hplugged
    rw [struck_iff]
    obtain ⟨id, hid⟩ := List.exists_mem_of_ne_nil _ hplugged
    constructor
    · intro hattached
      obtain ⟨id', hid'⟩ := List.exists_mem_of_ne_nil _ hattached
      exact (h.left.mem_idsOn.mp hid').2
    · exact fun hstays => List.ne_nil_of_mem (h.left.mem_idsOn.mpr ⟨hid, hstays⟩)
  untouched := by
    intro id p hp hother
    have hstays : ∀ n ∈ s.passing .unplugNetwork networks, id ∉ s.idsOn c n := by
      intro n hn hid
      obtain ⟨-, q, hq, rfl⟩ := Substrate.mem_idsOn.mp hid
      rw [hp] at hq
      cases hq
      exact hother (List.mem_of_mem_drop hn)
    constructor
    · rw [h.left.ports, if_neg fun h => h.elim fun n hn => hstays n hn.1 hn.2, hp]
    · intro c'
      rw [h.left.listed]
      split
      next hc =>
        simp only [List.mem_filter, decide_eq_true_eq, hc, and_iff_left_iff_imp]
        exact fun _ => hstays
      next => rfl

end Substrate

namespace Step

open Deployment

variable {run : Run Deployment}

/-- The instance leaves each network that it can, and no failure ends the work. -/
theorem ends_forM_detach (amphora : Amphora) (nics : List Interface) (run : Run Deployment) :
    Action.Ends (nics.forM (detach amphora)) run
      (fun _ run' => Unplugged amphora.instanceId (nics.map (·.networkId)) run.state.substrate
        run'.state.substrate) fun _ _ => False := by
  refine (Flow.ends_forM_outcome (fun done run' => Detaching amphora.instanceId
    (done.map (·.networkId)) run.state.substrate run'.state.substrate) ?_ nics
    (detaching_start _ _)).mono (fun _ _ h => h.unplugged) (fun _ _ h => h)
  intro done nic run₁ h
  rw [List.map_append, List.map_singleton]
  exact (ends_onSubstrate (h.ends_unplugNetwork nic.networkId)).mono (fun _ _ h => h.1)
    fun _ _ h => h.1

end Step

/-! Restoring policies -/

namespace Substrate

theorem ports_applyPolicies_concat (s : Substrate) (policyId : Option String)
    (portIds : List String) (id : String) : (s.applyPolicies policyId (portIds ++ [id])).ports =
      (s.applyPolicies policyId portIds).ports.modify id (·.withPolicy policyId) := by
  rw [← applyPolicies_append]
  rfl

/-- The port is there and has the policy. -/
def HasPolicy (s : Substrate) (policyId : Option String) (id : String) : Prop :=
  ∃ p, s.ports.get? id = some p ∧ p.qosPolicyId = policyId

/-- The policy was to be brought to each of the ports. Those for which every call failed are as
they were, the others have the policy. -/
structure PoliciesRestored (policyId : Option String) (portIds : List String)
    (s t : Substrate) : Prop where
  calls : t.journal =
    s.journal ++ portIds.map fun id => ⟨.applyQosOnPort, id ++ "=" ++ policyId.getD "none"⟩
  restored : ∀ id ∈ portIds, ¬ s.Struck .applyQosOnPort portIds id →
    t.ports.get? id = (s.ports.get? id).map (·.withPolicy policyId)
  kept : ∀ id, s.Struck .applyQosOnPort portIds id → t.ports.get? id = s.ports.get? id

/-- A port for which every call failed has the policy only if it had it before. -/
theorem PoliciesRestored.hasPolicy_iff {s t : Substrate} {policyId : Option String}
    {portIds : List String} (h : PoliciesRestored policyId portIds s t) {id : String}
    (hid : id ∈ portIds) (hport : s.ports.contains id) :
    t.HasPolicy policyId id ↔
      (s.Struck .applyQosOnPort portIds id → s.HasPolicy policyId id) := by
  obtain ⟨p, hp⟩ := IdMap.contains_iff.mp hport
  by_cases hstruck : s.Struck .applyQosOnPort portIds id
  · simp [HasPolicy, h.kept id hstruck, hstruck]
  · simp [HasPolicy, h.restored id hid hstruck, hp, hstruck, Port.withPolicy]

/-- The policy was to be brought to some of the ports so far, and those for which a call went
through have it. -/
structure Restoring (policyId : Option String) (portIds : List String) (s t : Substrate) :
    Prop where
  issues : s.Issues (portIds.map fun id =>
    ⟨.applyQosOnPort, id ++ "=" ++ policyId.getD "none"⟩) t
  ports : t.ports = (s.applyPolicies policyId (s.passing .applyQosOnPort portIds)).ports

variable {policyId : Option String} {portIds : List String} {s t : Substrate}

theorem restoring_start (policyId : Option String) (s : Substrate) :
    Restoring policyId [] s s where
  issues := .refl s
  ports := by
    rw [passing, List.drop_nil]
    rfl

/-- One port more, whether the policy can be brought to it or not. -/
theorem Restoring.ends_applyQosOnPort (h : Restoring policyId portIds s t) (id : String) :
    (applyQosOnPort policyId id).Ends t (fun _ u => Restoring policyId (portIds ++ [id]) s u)
      fun _ u => Restoring policyId (portIds ++ [id]) s u := by
  have hpassing := passing_concat (h.issues.due_of_map fun _ => rfl) id
  have hnext : ∀ {u : Substrate},
      t.Issues [⟨.applyQosOnPort, id ++ "=" ++ policyId.getD "none"⟩] u →
      s.Issues ((portIds ++ [id]).map fun id =>
        ⟨.applyQosOnPort, id ++ "=" ++ policyId.getD "none"⟩) u := by
    intro u hu
    simpa using h.issues.trans hu
  apply (ends_applyQosOnPort_issues policyId id t).mono
  · intro _ u hend
    obtain ⟨hmade, hamended, hundue⟩ := hend
    refine ⟨hnext hmade, ?_⟩
    rw [hpassing, if_pos hundue, ports_applyPolicies_concat, ← h.ports]
    exact hamended.ports
  · intro e u hend
    obtain ⟨hmade, hheard, hwhy⟩ := hend
    refine ⟨hnext hmade, ?_⟩
    rw [hpassing, hheard.ports]
    split
    next hundue =>
      -- a port that does not exist has no policy to be restored
      have hself : t.amend id (·.withPolicy policyId) = t := by
        apply amend_eq_self
        intro p hp
        rw [hwhy hundue] at hp
        cases hp
      rw [ports_applyPolicies_concat, ← h.ports]
      exact congrArg Substrate.ports hself.symm
    next => exact h.ports

theorem Restoring.restored (h : Restoring policyId portIds s t) :
    PoliciesRestored policyId portIds s t where
  calls := h.issues.journal
  restored := by
    intro id _ hpasses
    rw [h.ports, get?_applyPolicies, if_pos (not_not.mp (struck_iff.not.mp hpasses))]
  kept := by
    intro id hstruck
    rw [h.ports, get?_applyPolicies, if_neg (struck_iff.mp hstruck)]

end Substrate

namespace Step

variable {run : Run Deployment} {lb stored : LoadBalancer}

/-- Each port gets the policy that can, and no failure ends the work. -/
theorem ends_forM_setPolicy_restored (policyId : Option String) (amphorae : List Amphora)
    (run : Run Deployment) :
    Action.Ends (amphorae.forM fun a => do let _ ← Flow.outcome (setPolicy policyId a)) run
      (fun _ run' => PoliciesRestored policyId (basePorts amphorae) run.state.substrate
        run'.state.substrate) fun _ _ => False := by
  have hbegin : Restoring policyId (basePorts []) run.state.substrate run.state.substrate :=
    restoring_start policyId _
  refine (Flow.ends_forM_outcome (fun done run' => Restoring policyId (basePorts done)
    run.state.substrate run'.state.substrate) ?_ amphorae hbegin).mono (fun _ _ h => h.restored)
    (fun _ _ h => h)
  intro done a run₁ h
  have hconcat : basePorts (done ++ [a]) = basePorts done ++ a.vrrpPortId.toList := by
    simp [basePorts]
  rw [hconcat]
  unfold setPolicy
  cases a.vrrpPortId with
  | none =>
    rw [Option.toList_none, List.append_nil]
    exact ends_pure h
  | some portId =>
    rw [Option.toList_some]
    exact (Deployment.ends_onSubstrate (h.ends_applyQosOnPort portId)).mono (fun _ _ h => h.1)
      fun _ _ h => h.1

/-- Reverting acts if the request names another policy than the one in force. -/
theorem ends_revert_applyQos_restored (hharmless : run.state.repository.Harmless)
    (hstored : run.state.repository.loadBalancers.get? lb.id = some stored)
    (hacts : lb.vip.qosPolicyId ≠ stored.vip.qosPolicyId) (amphorae : Option (List Amphora))
    (update : Option LoadBalancerUpdate) :
    Effect.Ends ((applyQos lb amphorae update).revert ()) run fun _ run' =>
      PoliciesRestored stored.vip.qosPolicyId
        (basePorts (chosen run.state.repository lb amphorae)) run.state.substrate
        run'.state.substrate := by
  have hrestore : (restorePolicy lb amphorae).Ends run
      (fun _ run' => PoliciesRestored stored.vip.qosPolicyId
        (basePorts (chosen run.state.repository lb amphorae)) run.state.substrate
        run'.state.substrate) fun _ _ => False := by
    unfold restorePolicy
    refine (ends_loadBalancer (.refl _) hharmless hstored).bind ?_ fun _ _ h => h.elim
    intro read run₁ hend
    obtain ⟨hconsulted, rfl⟩ := hend
    simp only [hacts, if_false]
    refine (ends_amphoraeToChange hconsulted hharmless hstored amphorae).bind ?_
      fun _ _ h => h.elim
    intro as run₂ hend
    obtain ⟨hconsulted, rfl⟩ := hend
    rw [← hconsulted.substrate]
    exact ends_forM_setPolicy_restored _ _ run₂
  exact Effect.ends_settle hrestore (fun _ _ h => Effect.ends_pure h) fun _ _ h => h.elim

/-- The step succeeds whatever fails in it. -/
theorem unplugNetworks_unplugged (amphora : Amphora) (delta : Option Delta)
    (run : Run Deployment) : ∃ run',
      (unplugNetworks amphora delta).execute.runOn run = (.ok (), run') ∧
      Unplugged amphora.instanceId
        ((delta.map (·.deleteNics)).getD [] |>.map (·.networkId))
        run.state.substrate run'.state.substrate := by
  have hend : Action.Ends (unplugNetworks amphora delta).execute run
      (fun _ run' => Unplugged amphora.instanceId
        ((delta.map (·.deleteNics)).getD [] |>.map (·.networkId))
        run.state.substrate run'.state.substrate) fun _ _ => False := by
    cases delta with
    | none => exact ends_forM_detach amphora [] run
    | some delta => exact ends_forM_detach amphora delta.deleteNics run
  obtain ⟨_, run', hok, hunplugged⟩ := hend.value
  exact ⟨run', hok, hunplugged⟩

section

variable {s s₁ : Substrate} {management : List String}

/-- A computed delta takes back what it made, also when it is applied later. -/
theorem computedDelta_takesBack (hs : s.Sound) (hrun : run.state.substrate.Sound)
    (hlater : s₁.Later run.state.substrate) {amphora : Amphora} {delta : Delta}
    (hcompute : (computeDelta management lb amphora).runOn s = (.ok delta, s₁))
    (amphoraId : String) : (applyDelta amphoraId delta).TakesBack [(amphoraId, delta)] run := by
  obtain ⟨hheard, rfl, -⟩ := (ends_computeDelta_iff management lb amphora s).of_ok hcompute
  exact applyDelta_takesBack hrun ((hheard.orderly_delta hs).later hlater) amphoraId

/-- Computed deltas take back what they made, also when they are applied later. -/
theorem computedDeltas_takesBack (hs : s.Sound) (hrun : run.state.substrate.Sound)
    (hlater : s₁.Later run.state.substrate) {deltas : IdMap Delta}
    (hcompute : (computeDeltas management lb).runOn s = (.ok deltas, s₁))
    (loadBalancerId : String) :
    (applyDeltas loadBalancerId deltas).TakesBack deltas.entries run := by
  obtain ⟨hheard, rfl, -⟩ := (ends_computeDeltas_iff management lb s).of_ok hcompute
  refine applyDeltas_takesBack hrun (fun e he => ?_) loadBalancerId
  have hmem := IdMap.mem_of_get?_ofList (IdMap.mem_entries_iff.mp he)
  obtain ⟨a, -, heq⟩ := List.mem_map.mp hmem
  rw [← congrArg Prod.snd heq]
  exact (hheard.orderly_delta hs).later hlater

end

/-- Whatever failures are scripted, each costs the item for which the call was made: an added port
stays if its own deletion failed, a network stays attached if every call for it failed, and a base
port keeps the policy that it has if every call for it failed. -/
theorem failure_costs_one_item {s s₁ : Substrate} (hs : s.Sound) {run : Run Deployment}
    (hrun : run.state.substrate.Sound) (hlater : s₁.Later run.state.substrate)
    (management : List String) (lb : LoadBalancer) :
    (∀ amphora delta, (computeDelta management lb amphora).runOn s = (.ok delta, s₁) →
      ∀ amphoraId, (applyDelta amphoraId delta).TakesBack [(amphoraId, delta)] run) ∧
    (∀ deltas, (computeDeltas management lb).runOn s = (.ok deltas, s₁) →
      ∀ loadBalancerId, (applyDeltas loadBalancerId deltas).TakesBack deltas.entries run) ∧
    (∀ amphora delta, ∃ run',
      (unplugNetworks amphora delta).execute.runOn run = (.ok (), run') ∧
      Unplugged amphora.instanceId
        ((delta.map (·.deleteNics)).getD [] |>.map (·.networkId))
        run.state.substrate run'.state.substrate) ∧
    ∀ request stored amphorae update, run.state.repository.Harmless →
      run.state.repository.loadBalancers.get? request.id = some stored →
      request.vip.qosPolicyId ≠ stored.vip.qosPolicyId →
      ∃ run', ((applyQos request amphorae update).revert ()).run run = ((), run') ∧
        PoliciesRestored stored.vip.qosPolicyId
          (basePorts (chosen run.state.repository request amphorae)) run.state.substrate
          run'.state.substrate ∧
        ∀ id ∈ basePorts (chosen run.state.repository request amphorae),
          run.state.substrate.ports.contains id →
          (run'.state.substrate.HasPolicy stored.vip.qosPolicyId id ↔
            (run.state.substrate.Struck .applyQosOnPort
              (basePorts (chosen run.state.repository request amphorae)) id →
                run.state.substrate.HasPolicy stored.vip.qosPolicyId id)) := by
  refine ⟨fun amphora delta hcompute => computedDelta_takesBack hs hrun hlater hcompute,
    fun deltas hcompute => computedDeltas_takesBack hs hrun hlater hcompute,
    fun amphora delta => unplugNetworks_unplugged amphora delta run, ?_⟩
  intro request stored amphorae update hharmless hstored hacts
  have hrestored : PoliciesRestored stored.vip.qosPolicyId
      (basePorts (chosen run.state.repository request amphorae)) run.state.substrate _ :=
    (ends_revert_applyQos_restored hharmless hstored hacts amphorae update).state
  exact ⟨_, rfl, hrestored, fun id hid hport => hrestored.hasPolicy_iff hid hport⟩

end Step

/-- The next call of the operation is going to fail. -/
def Sample.disturbed (op : Operation) (run : Run Deployment) : Run Deployment :=
  { run with state := { run.state with
      substrate := run.state.substrate.injectFault op 1 (.driver "busy") } }

namespace Step

/-- Each amphora of the sample deployment gets two interfaces. When they are taken back the first
deletion fails, so the first port stays and the others go. -/
theorem failure_costs_one_item_pair : ∃ deltas s₁ changed run₁,
    (computeDeltas ["mgmt-net"] Sample.pair).runOn Sample.substrate = (.ok deltas, s₁) ∧
    (applyDeltas "lb-1" deltas).execute.runOn (Sample.startPair s₁) = (.ok changed, run₁) ∧
    ∀ id, (((applyDeltas "lb-1" deltas).revert changed).run
        (Sample.disturbed .deletePort run₁)).2.state.substrate.ports.contains id ↔
      run₁.state.substrate.ports.contains id ∧ id ∉ [drawnId 4, drawnId 5, drawnId 6] := by
  obtain ⟨deltas, s₁, hcompute⟩ := exists_of_isSome (computeDeltas ["mgmt-net"] Sample.pair)
    Sample.substrate (by decide +kernel)
  have hsteps : ∃ out ∈ ((computeDeltas ["mgmt-net"] Sample.pair).runOn
        Sample.substrate).1.toOption,
      ∀ reached ∈ [(applyDeltas "lb-1" out).execute.runOn (Sample.startPair
          ((computeDeltas ["mgmt-net"] Sample.pair).runOn Sample.substrate).2)],
        reached.1.toOption.isSome ∧
          ((computeDeltas ["mgmt-net"] Sample.pair).runOn Sample.substrate).2.newIds
            reached.2.state.substrate = [drawnId 3, drawnId 4, drawnId 5, drawnId 6] ∧
          (reached.2.state.substrate.injectFault .deletePort 1 (.driver "busy")).failuresDue
            .deletePort = [.driver "busy"] ∧
          reached.2.state.repository.script = [] := by
    decide +kernel
  rw [hcompute] at hsteps
  obtain ⟨out, hout, hreached⟩ := hsteps
  cases hout
  obtain ⟨hok, hend⟩ := hreached _ List.mem_cons_self
  obtain ⟨changed, run₁, hexecute⟩ :=
    exists_of_isSome (applyDeltas "lb-1" deltas).execute (Sample.startPair s₁) hok
  rw [show (applyDeltas "lb-1" deltas).execute.runOn _ = _ from hexecute] at hend
  obtain ⟨hids, hdue, hscript⟩ := hend
  have hheard := ((ends_computeDeltas_iff _ _ _).of_ok hcompute).1
  have hlater : s₁.Later (Sample.startPair s₁).state.substrate := .refl s₁
  have hsound : (Sample.startPair s₁).state.substrate.Sound :=
    hheard.sound Sample.substrate_fit.1
  obtain ⟨-, htaking, -⟩ := failure_costs_one_item Sample.substrate_fit.1 hsound hlater
    ["mgmt-net"] Sample.pair
  obtain ⟨made, -, hmade, -, -, htaken⟩ := htaking deltas hcompute "lb-1" changed run₁ hexecute
  have hback := htaken (Sample.disturbed .deletePort run₁)
    (Repository.harmless_of_script_nil hscript)
  have hpassing : (Sample.disturbed .deletePort run₁).state.substrate.passing .deletePort
      (made.map (·.portId)) = [drawnId 4, drawnId 5, drawnId 6] := by
    rw [hmade, Sample.startPair_substrate, hids, passing]
    change List.drop ((run₁.state.substrate.injectFault .deletePort 1
      (.driver "busy")).failuresDue .deletePort).length _ = _
    rw [hdue]
    rfl
  refine ⟨deltas, s₁, changed, run₁, hcompute, hexecute, fun id => ?_⟩
  rw [hback.stays id, struck_iff, hpassing]
  rfl

/-- A port for which every call failed may have the policy all the same: it had it before. -/
theorem policy_in_force_outlasts_failure :
    ¬ ∀ (run : Run Deployment) (request stored : LoadBalancer),
      run.state.repository.Harmless →
      run.state.repository.loadBalancers.get? request.id = some stored →
      request.vip.qosPolicyId ≠ stored.vip.qosPolicyId →
      (basePorts (chosen run.state.repository request none)).Nodup →
      ∀ id ∈ basePorts (chosen run.state.repository request none),
        run.state.substrate.ports.contains id →
        ((((applyQos request none none).revert ()).run run).2.state.substrate.HasPolicy
          stored.vip.qosPolicyId id ↔
          ¬ run.state.substrate.Struck .applyQosOnPort
            (basePorts (chosen run.state.repository request none)) id) := by
  intro h
  let request := Sample.regulated "new"
  obtain ⟨run, hscript, hstored, hports, hexists, hdue, hkept⟩ : ∃ run : Run Deployment,
      run.state.repository.script = [] ∧
      run.state.repository.loadBalancers.get? request.id =
        some { Sample.regulated "old" with amphorae := [] } ∧
      basePorts (chosen run.state.repository request none) = [drawnId 3] ∧
      run.state.substrate.ports.contains (drawnId 3) ∧
      run.state.substrate.failuresDue .applyQosOnPort = [.driver "busy"] ∧
      ((((applyQos request none none).revert ()).run run).2.state.substrate.ports.get?
        (drawnId 3)).map (·.qosPolicyId) = some (some "old") :=
    ⟨Sample.disturbed .applyQosOnPort
      ((applyQos request none none).execute.runOn Sample.startRegulated).2, by decide +kernel⟩
  have hstruck : run.state.substrate.Struck .applyQosOnPort [drawnId 3] (drawnId 3) := by
    rw [struck_iff, passing, hdue]
    exact List.not_mem_nil
  obtain ⟨p, hp, hpolicy⟩ := Option.map_eq_some_iff.mp hkept
  have hiff := h run request _ (Repository.harmless_of_script_nil hscript) hstored (by decide)
  rw [hports] at hiff
  exact (hiff (List.nodup_singleton _) _ (List.mem_singleton_self _) hexists).mp
    ⟨p, hp, hpolicy⟩ hstruck

end Step

end AmphoraWiring
