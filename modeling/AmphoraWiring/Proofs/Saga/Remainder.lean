import AmphoraWiring.Proofs.Saga.Clearing

/-!
What is left of a delta once it was applied to its end: what would be computed then is empty, but
for subnets whose addresses are kept by a port that stays.
-/
namespace AmphoraWiring

open Action Substrate Deployment

/-- Two listings of changes that ascend by their subnets are the same if they have the same
members. -/
theorem SubnetChange.eq_of_mem_iff {l r : List SubnetChange}
    (hl : l.Pairwise fun a b => a.subnetId < b.subnetId)
    (hr : r.Pairwise fun a b => a.subnetId < b.subnetId) (h : ∀ c, c ∈ l ↔ c ∈ r) : l = r := by
  have hkeyed : ∀ {l : List SubnetChange}, (l.Pairwise fun a b => a.subnetId < b.subnetId) →
      (l.map fun c => (c.subnetId, c)).Pairwise fun a b => a.1 < b.1 :=
    fun hl => List.pairwise_map.mpr hl
  have hpairs : l.map (fun c => (c.subnetId, c)) = r.map fun c => (c.subnetId, c) := by
    refine IdMap.eq_of_mem_iff (hkeyed hl) (hkeyed hr) fun e => ?_
    simp only [List.mem_map, h]
  have hback := congrArg (List.map (·.2)) hpairs
  simpa [List.map_map, Function.comp_def] using hback

namespace Delta

/-- What is left of a delta once it was applied: the subnets whose addresses are kept on a network
that was not given up. -/
def remainder (s : Substrate) (delta : Delta) : Delta where
  amphoraId := delta.amphoraId
  computeId := delta.computeId
  addNics := []
  deleteNics := []
  addSubnets := []
  deleteSubnets := delta.deleteSubnets.filter fun change =>
    s.keepsAddresses change.subnetId &&
      !(delta.deleteNics.map (·.networkId)).contains change.networkId

theorem mem_remainder {s : Substrate} {delta : Delta} {change : SubnetChange} :
    change ∈ (delta.remainder s).deleteSubnets ↔ change ∈ delta.deleteSubnets ∧
      s.keepsAddresses change.subnetId ∧
        ∀ nic ∈ delta.deleteNics, nic.networkId ≠ change.networkId := by
  simp [remainder]

theorem deleteSubnets_ascending (amphora : Amphora) (wanted : Topology)
    (plugged : IdMap Interface) :
    (between amphora wanted plugged).deleteSubnets.Pairwise
      fun a b => a.subnetId < b.subnetId := by
  simp only [between, List.pairwise_map]
  exact (pluggedSubnets plugged).ascending.filter _

theorem eq_remainder {s : Substrate} {delta left : Delta} (hid : left.amphoraId = delta.amphoraId)
    (hc : left.computeId = delta.computeId) (haddNics : left.addNics = [])
    (hdeleteNics : left.deleteNics = []) (haddSubnets : left.addSubnets = [])
    (hdeleteSubnets : left.deleteSubnets = (delta.remainder s).deleteSubnets) :
    left = delta.remainder s := by
  cases left
  simp only [remainder] at *
  simp only [hid, hc, haddNics, hdeleteNics, haddSubnets, hdeleteSubnets]

end Delta

namespace Plan

variable {plan : Plan} {s : Substrate} {run : Run Deployment} {amphora : Amphora}

/-- A subnet that is reached is reached on its own network. -/
theorem Reached.on_network (h : plan.Reached s) {subnetId networkId : String}
    (hget : plan.wanted.subnets.get? subnetId = some networkId) :
    ∃ p, s.carrier plan.computeId networkId = some p ∧ p.hasSubnet subnetId := by
  obtain ⟨n, p, hget', hp, hsubnet⟩ := h subnetId (IdMap.contains_iff.mpr ⟨networkId, hget⟩)
  rw [hget] at hget'
  cases hget'
  exact ⟨p, hp, hsubnet⟩

/-- What would be computed for the amphora now. -/
def deltaNow (plan : Plan) (s : Substrate) (amphora : Amphora) : Delta :=
  .between amphora plan.wanted (s.attached plan.management plan.computeId)

namespace Completed

theorem addNics_eq_nil (hplan : plan.Attainable) (h : plan.Completed run) :
    (plan.deltaNow run.state.substrate amphora).addNics = [] := by
  apply List.eq_nil_iff_forall_not_mem.mpr
  intro nic hnic
  obtain ⟨networkId, hn, hfree, -⟩ := Delta.mem_addNics.mp hnic
  obtain ⟨subnetId, hget⟩ := Topology.mem_networks.mp hn
  obtain ⟨p, hp, -⟩ := h.reached.on_network hget
  rw [carrier_eq_none.mpr (hfree.resolve_left (hplan.unmanaged networkId hn))] at hp
  cases hp

/-- A network that carries a port is to be reached. -/
theorem wanted_of_carrier (h : plan.Completed run) {networkId : String} {p : Port}
    (hmanagement : networkId ∉ plan.management)
    (hp : run.state.substrate.carrier plan.computeId networkId = some p) :
    networkId ∈ plan.wanted.networks := by
  by_contra hn
  rw [carrier_eq_none.mpr (h.given_up networkId hmanagement hn)] at hp
  cases hp

theorem deleteNics_eq_nil (h : plan.Completed run) :
    (plan.deltaNow run.state.substrate amphora).deleteNics = [] := by
  apply List.eq_nil_iff_forall_not_mem.mpr
  intro nic hnic
  obtain ⟨networkId, p, hmanagement, hn, hp, -⟩ := Delta.mem_deleteNics.mp hnic
  exact hn (h.wanted_of_carrier hmanagement hp)

theorem addSubnets_eq_nil (hplan : plan.Attainable) (h : plan.Completed run) :
    (plan.deltaNow run.state.substrate amphora).addSubnets = [] := by
  obtain ⟨gone, -, hunderway⟩ := h.followed
  apply List.eq_nil_iff_forall_not_mem.mpr
  intro change hchange
  obtain ⟨subnetId, networkId, hget, hmissing, -⟩ :=
    Delta.mem_addSubnets.mp hchange
  have hmanagement := hplan.unmanaged networkId (Topology.mem_networks.mpr ⟨subnetId, hget⟩)
  exact hmissing networkId ⟨hmanagement, h.reached.on_network hget⟩

/-- A subnet that is still to be removed was to be removed before, by the same port, and is still
there as its addresses are kept and its network was not given up. -/
theorem mem_deleteSubnets_iff (h : plan.Completed run) {change : SubnetChange} :
    change ∈ (plan.deltaNow run.state.substrate amphora).deleteSubnets ↔
      change ∈ ((plan.delta amphora).remainder plan.start).deleteSubnets := by
  obtain ⟨gone, hgone, hunderway⟩ := h.followed
  have hstays : ∀ n ∈ plan.wanted.networks, n ∉ gone := fun n hn hmem =>
    hgone.unwanted n hmem hn
  rw [Delta.mem_remainder, mem_deleteSubnets, deltaNow, Delta.mem_deleteSubnets hunderway.sound]
  constructor
  · intro hleft
    obtain ⟨subnetId, n, p, hmanagement, hp, hsubnet, hnone, rfl⟩ := hleft
    have hn := h.wanted_of_carrier hmanagement hp
    obtain ⟨p₀, hp₀, hid, hold⟩ := hunderway.unwanted_carried hmanagement (hstays n hn) hp hsubnet
      hnone
    have hkeeps : plan.start.keepsAddresses subnetId := by
      rcases h.cleared n hn p hp subnetId hsubnet with hwanted | hkeeps | ⟨other, hother, -⟩
      · simp [IdMap.contains, hnone] at hwanted
      · exact hkeeps
      · cases hother
    refine ⟨⟨subnetId, n, p₀, hmanagement, hp₀, hold, hnone, by rw [hid]⟩, hkeeps, ?_⟩
    intro nic hnic heq
    exact not_wanted_of_mem_deleteNics hnic (heq ▸ hn)
  · intro hbefore
    obtain ⟨⟨subnetId, n, p₀, hmanagement, hp₀, hsubnet, hnone, rfl⟩, hkeeps, hkept⟩ := hbefore
    have hn : n ∈ plan.wanted.networks := by
      by_contra hn
      exact hkept _ (mem_deleteNics.mpr ⟨n, p₀, hmanagement, hn, hp₀, rfl⟩)
        (carrier_networkId hp₀)
    obtain ⟨p, hp, hpp⟩ := hunderway.carrier hmanagement (hstays n hn) hp₀
    exact ⟨subnetId, n, p, hmanagement, hp, hpp.kept subnetId hsubnet (.inr hkeeps), hnone,
      by rw [hpp.id]⟩

/-- Once a plan is completed, what is left of its delta is what would be computed then. -/
theorem deltaNow_eq (hplan : plan.Attainable) (h : plan.Completed run) (amphora : Amphora) :
    plan.deltaNow run.state.substrate amphora = (plan.delta amphora).remainder plan.start := by
  refine Delta.eq_remainder rfl rfl (h.addNics_eq_nil hplan) h.deleteNics_eq_nil
    (h.addSubnets_eq_nil hplan) ?_
  have hleft : ((plan.delta amphora).remainder plan.start).deleteSubnets.Pairwise
      fun a b => a.subnetId < b.subnetId := (Delta.deleteSubnets_ascending _ _ _).filter _
  exact SubnetChange.eq_of_mem_iff (Delta.deleteSubnets_ascending _ _ _) hleft
    fun change => h.mem_deleteSubnets_iff

end Completed

end Plan

end AmphoraWiring
