import AmphoraWiring.Proofs.Saga.Applying
import AmphoraWiring.Proofs.Seeding

/-!
What is attached as it is wanted is safe while a delta is applied, wherever that stops and whatever
call fails on the way, the cleaning up included. Outside the management networks nothing that is
wanted is lost and nothing is gained that is not; the ports of a wanted network stay the same
ports, and those on the management networks are not touched.
-/
namespace AmphoraWiring

open Action

namespace Substrate

/-- The instance reaches the subnet by a port on the network. -/
def Plugged (s : Substrate) (c networkId subnetId : String) : Prop :=
  ∃ p ∈ s.portsOn c networkId, p.hasSubnet subnetId

/-- Between `s` and `t` the instance has come to no harm as to what the load balancer wanted. -/
structure Unharmed (s t : Substrate) (management : List String) (lb : LoadBalancer)
    (c : String) : Prop where
  kept : ∀ networkId ∉ management, ∀ subnetId, s.Plugged c networkId subnetId →
    s.Wanted lb subnetId networkId → t.Plugged c networkId subnetId
  gained : ∀ networkId ∉ management, ∀ subnetId, t.Plugged c networkId subnetId →
    s.Plugged c networkId subnetId ∨ s.Wanted lb subnetId networkId
  ports : ∀ networkId ∉ management, s.portsOn c networkId ≠ [] →
    (∃ subnetId, s.Wanted lb subnetId networkId) →
    (t.portsOn c networkId).map (·.id) = (s.portsOn c networkId).map (·.id)
  management : ∀ networkId ∈ management, s.portsOn c networkId <+: t.portsOn c networkId

end Substrate

open Substrate

namespace Plan

variable {plan : Plan} {gone : List String} {s : Substrate}

theorem Underway.ids (h : plan.Underway gone s) {networkId : String}
    (hmanagement : networkId ∉ plan.management) (hgone : networkId ∉ gone)
    (hports : plan.start.portsOn plan.computeId networkId ≠ []) :
    (s.portsOn plan.computeId networkId).map (·.id) =
      (plan.start.portsOn plan.computeId networkId).map (·.id) := by
  rw [← List.forall₂_eq_eq_eq, List.forall₂_map_left_iff, List.forall₂_map_right_iff]
  exact (h.kept networkId hmanagement hgone hports).flip.imp fun _ _ hpq => hpq.id

/-- Whoever kept to the plan did no harm. -/
theorem Followed.unharmed {lb : LoadBalancer} (h : plan.Followed s)
    (hanswered : plan.start.Answered lb) (hwanted : plan.wanted = plan.start.desired lb) :
    plan.start.Unharmed s plan.management lb plan.computeId := by
  obtain ⟨gone, hgone, h⟩ := h
  have hget : ∀ subnetId networkId, plan.wanted.subnets.get? subnetId = some networkId ↔
      plan.start.Wanted lb subnetId networkId := by
    intro subnetId networkId
    rw [hwanted]
    exact get?_subnets_desired hanswered
  have hstays : ∀ networkId, (∃ subnetId, plan.start.Wanted lb subnetId networkId) →
      networkId ∉ gone := by
    intro networkId h hmem
    obtain ⟨subnetId, hw⟩ := h
    exact hgone.unwanted networkId hmem
      (Topology.mem_networks.mpr ⟨subnetId, (hget _ _).mpr hw⟩)
  constructor
  · intro networkId hmanagement subnetId h hw
    obtain ⟨p, hp, hsubnet⟩ := h
    have hall := h.kept networkId hmanagement (hstays networkId ⟨subnetId, hw⟩)
      (List.ne_nil_of_mem hp)
    obtain ⟨q, hq, hpq⟩ := forall₂_exists_right hall hp
    have hcontains : plan.wanted.subnets.contains subnetId := by
      rw [IdMap.contains_iff]
      exact ⟨networkId, (hget _ _).mpr hw⟩
    exact ⟨q, hq, hpq.kept subnetId hsubnet (.inl hcontains)⟩
  · intro networkId hmanagement subnetId h
    obtain ⟨q, hq, hsubnet⟩ := h
    have hold : ∀ p ∈ plan.start.portsOn plan.computeId networkId, plan.Readdressed networkId p q →
        plan.start.Plugged plan.computeId networkId subnetId ∨
          plan.start.Wanted lb subnetId networkId := by
      intro p hp hpq
      exact (hpq.gained subnetId hsubnet).imp (fun h => ⟨p, hp, h⟩) (hget _ _).mp
    by_cases hnil : plan.start.portsOn plan.computeId networkId = []
    · exact .inr ((hget _ _).mp (h.added networkId hmanagement hnil q hq subnetId hsubnet))
    · by_cases hmem : networkId ∈ gone
      · obtain ⟨p, hp, hpq⟩ := h.given_up networkId hmem q hq
        exact hold p hp hpq
      · obtain ⟨p, hp, hpq⟩ := forall₂_exists_left (h.kept networkId hmanagement hmem hnil) hq
        exact hold p hp hpq
  · intro networkId hmanagement hports hw
    exact h.ids hmanagement (hstays networkId hw) hports
  · exact h.management

end Plan

namespace Substrate

variable {s t u : Substrate} {management : List String} {lb : LoadBalancer} {c : String}

theorem Heard.portsOn (h : s.Heard t) : t.portsOn = s.portsOn := by
  funext c networkId
  unfold Substrate.portsOn Substrate.pluggedPorts pluggedPortIds
  rw [h.ports, h.plugged]

/-- Computing a delta and scripting failures before it is applied are of no account. -/
theorem Unharmed.of_heard {faults : List ScriptedFault} (h : s.Heard u)
    (hunharmed : Unharmed { u with faults } t management lb c) : s.Unharmed t management lb c := by
  have hports : ∀ networkId, ({ u with faults } : Substrate).portsOn c networkId =
      s.portsOn c networkId := by
    intro networkId
    rw [← h.portsOn]
    rfl
  have hwanted : ({ u with faults } : Substrate).Wanted lb = s.Wanted lb :=
    wanted_congr h.subnets lb
  obtain ⟨hkept, hgained, hids, hmanagement⟩ := hunharmed
  simp only [Plugged, hports, hwanted] at hkept hgained hids hmanagement
  exact ⟨hkept, hgained, hids, hmanagement⟩

end Substrate

namespace Step

/-- A delta was computed in `s`, which left `s₁`; any failures may be scripted then, and the records
may be anything that tells of the same instance. Executing the step does no harm to the instance,
whether it comes to its end or not. -/
theorem applyDelta_unharmed {s s₁ : Substrate} (hs : s.Sound) (hx : s.Exclusive)
    {management : List String} {lb : LoadBalancer} {amphora : Amphora} {delta : Delta}
    (hcompute : (computeDelta management lb amphora).runOn s = (.ok delta, s₁))
    (faults : List ScriptedFault) {run : Run Deployment}
    (hrun : run.state.substrate = { s₁ with faults }) {amphoraId : String}
    (hstored : ∀ stored, run.state.repository.amphorae.get? amphoraId = some stored →
      stored.instanceId = amphora.instanceId) :
    s.Unharmed ((applyDelta amphoraId delta).execute.runOn run).2.state.substrate management lb
      amphora.instanceId := by
  obtain ⟨hheard, rfl, hanswered⟩ := (ends_computeDelta management lb amphora s).of_ok hcompute
  -- the plan starts where the failures have been scripted
  let plan : Plan := {
    management
    start := { s₁ with faults }
    computeId := amphora.instanceId
    wanted := s.desired lb
    sound := (hheard.sound hs).of_eq rfl rfl rfl rfl
    exclusive := hheard.exclusive hx }
  have hdelta : s.delta management lb amphora = plan.delta amphora := by
    have hattached : s.attached = plan.start.attached := by
      funext management c
      simp only [attached, pluggedPorts, pluggedPortIds, plan, hheard.ports, hheard.plugged]
    rw [Substrate.delta, Plan.delta, hattached]
  have hunharmed : ∀ t, plan.Followed t → s.Unharmed t management lb amphora.instanceId := by
    intro t hfollowed
    refine .of_heard hheard (hfollowed.unharmed (fun d hd => ?_) ?_)
    · obtain ⟨n, hn⟩ := hanswered d hd
      exact ⟨n, hheard.sameNetworks.registered.mpr hn⟩
    · simp only [plan, desired, demanded, networkOf, hheard.subnets]
  apply hunharmed
  rw [hdelta]
  refine Action.Ends.state (p := fun run : Run Deployment => plan.Followed run.state.substrate) ?_
  refine (Deployment.ends_onRepository (Repository.ends_getAmphora amphoraId _)).bind ?_ ?_
  · intro stored run₁ hend
    obtain ⟨⟨-, hget⟩, hsubstrate, -⟩ := hend
    refine (plan.ends_apply (hstored stored hget) amphora (hsubstrate.trans hrun)).bind ?_ ?_
    · intro ports run₂ hend
      obtain ⟨hfollowed, -⟩ := hend
      exact ends_pure hfollowed
    · intro e run₂ hfollowed
      exact hfollowed
  · intro e run₁ hend
    obtain ⟨-, hsubstrate, -⟩ := hend
    rw [hsubstrate, hrun]
    exact plan.underway_start.followed

/-- An instance is to keep one of its networks, to give up one, and to gain one that cannot be
given a port. -/
theorem applyDelta_unharmed_wired : ∃ delta s₁,
    (computeDelta ["mgmt-net"] (Sample.loadBalancer []) (Sample.amphora "amp-1" "vm-1")).runOn
      Sample.wired = (.ok delta, s₁) ∧
    Sample.wired.Unharmed ((applyDelta "amp-1" delta).execute.runOn (Sample.start
        { s₁ with faults := [⟨.createPort, .createPort "refused", 1⟩] })).2.state.substrate
      ["mgmt-net"] (Sample.loadBalancer []) "vm-1" := by
  obtain ⟨delta, s₁, hcompute⟩ := exists_of_isSome
    (computeDelta ["mgmt-net"] (Sample.loadBalancer []) (Sample.amphora "amp-1" "vm-1"))
    Sample.wired (by decide +kernel)
  refine ⟨delta, s₁, hcompute, applyDelta_unharmed Sample.wired_fit.1 Sample.wired_fit.2 hcompute
    [⟨.createPort, .createPort "refused", 1⟩] rfl ?_⟩
  intro stored hget
  have hamphora : (Repository.store {} (Sample.loadBalancer
      [Sample.amphora "amp-1" "vm-1"])).amphorae.get? "amp-1" =
      some (Sample.amphora "amp-1" "vm-1") := by decide +kernel
  change (Repository.store {} (Sample.loadBalancer
      [Sample.amphora "amp-1" "vm-1"])).amphorae.get? "amp-1" = some stored at hget
  rw [hamphora] at hget
  cases hget
  rfl

end Step

end AmphoraWiring
