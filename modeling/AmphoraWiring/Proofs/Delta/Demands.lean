import AmphoraWiring.Proofs.Delta.Exactness
import AmphoraWiring.Proofs.Delta.Lookups

/-!
A delta depends on what the live members ask for, and not on how they are arranged: which subnets
are asked for, and which kind of interface on each network. In what order the members come, in
which pools and how often, and which members there are besides, is all one.
-/
namespace AmphoraWiring

open Action

theorem LoadBalancer.demands_of_demand {lb : LoadBalancer} {m : Member} {d : String × VnicType}
    (hm : m ∈ lb.members) (hd : m.demand = some d) : lb.Demands d.1 :=
  demands_iff.mpr ⟨d, List.mem_filterMap.mpr ⟨m, hm, hd⟩, rfl⟩

/-- Members without a demand do not count. -/
theorem LoadBalancer.demands_of_members {lb lb' : LoadBalancer}
    (h : ∀ m ∈ lb.members, m.demand.isSome → m ∈ lb'.members) {id : String}
    (hid : lb.Demands id) : lb'.Demands id := by
  obtain ⟨d, hd, rfl⟩ := demands_iff.mp hid
  obtain ⟨m, hm, hdemand⟩ := List.mem_filterMap.mp hd
  exact demands_of_demand (h m hm (Option.isSome_iff_exists.mpr ⟨d, hdemand⟩)) hdemand

/-- The same live members, in whatever order, pools and number, behind virtual addresses that are
to be reached alike. -/
structure LoadBalancer.SameLive (lb lb' : LoadBalancer) : Prop where
  vipSubnet : lb.vip.subnetId = lb'.vip.subnetId
  vipNetwork : lb.vip.networkId = lb'.vip.networkId
  left : ∀ m ∈ lb.members, m.demand.isSome → m ∈ lb'.members
  right : ∀ m ∈ lb'.members, m.demand.isSome → m ∈ lb.members

namespace Substrate

variable {s : Substrate} {lb lb' : LoadBalancer} {amphora : Amphora}

/-- All live members on one network ask for one kind of interface. -/
def Uniform (s : Substrate) (members : List Member) : Prop :=
  ∀ networkId, ∀ m ∈ members, ∀ m' ∈ members,
    s.serves networkId m → s.serves networkId m' → m.vnicType = m'.vnicType

/-- The same subnets are asked for, and the same kind of interface on each network, behind virtual
addresses that are to be reached alike. -/
structure SameDemands (s : Substrate) (lb lb' : LoadBalancer) : Prop where
  vipSubnet : lb.vip.subnetId = lb'.vip.subnetId
  vipNetwork : lb.vip.networkId = lb'.vip.networkId
  demands_iff : ∀ id, lb.Demands id ↔ lb'.Demands id
  uniform : s.Uniform (lb.members ++ lb'.members)

/-- A network is served by some member if one of its subnets is asked for. -/
theorem exists_serves_iff {networkId : String} : (∃ m ∈ lb.members, s.serves networkId m) ↔
    ∃ id, lb.Demands id ∧ s.Registered id networkId := by
  constructor
  · intro h
    obtain ⟨m, hm, hserves⟩ := h
    obtain ⟨d, hd, hregistered⟩ := serves_iff.mp hserves
    exact ⟨d.1, LoadBalancer.demands_of_demand hm hd, hregistered⟩
  · intro h
    obtain ⟨id, hdemands, hregistered⟩ := h
    obtain ⟨d, hd, rfl⟩ := LoadBalancer.demands_iff.mp hdemands
    obtain ⟨m, hm, hdemand⟩ := List.mem_filterMap.mp hd
    exact ⟨m, hm, serves_iff.mpr ⟨d, hdemand, hregistered⟩⟩

theorem answered_iff :
    s.Answered lb ↔ ∀ id, lb.Demands id → ∃ networkId, s.Registered id networkId := by
  simp only [Answered, LoadBalancer.demands_iff]
  constructor
  · intro h id hid
    obtain ⟨d, hd, rfl⟩ := hid
    exact h d hd
  · intro h d hd
    exact h d.1 ⟨d, hd, rfl⟩

namespace SameDemands

theorem answered (h : s.SameDemands lb lb') : s.Answered lb ↔ s.Answered lb' := by
  simp only [answered_iff, h.demands_iff]

/-- The same demands want the same subnets by the same networks. -/
theorem wanted (h : s.SameDemands lb lb') : s.Wanted lb = s.Wanted lb' := by
  funext subnetId networkId
  simp only [Wanted, h.demands_iff, h.vipSubnet, h.vipNetwork]

/-- On each network the last members of both, if any, ask for the same kind of interface. -/
theorem kinds (h : s.SameDemands lb lb') (networkId : String) :
    (lb.members.filter (s.serves networkId)).getLast?.map (·.vnicType) =
      (lb'.members.filter (s.serves networkId)).getLast?.map (·.vnicType) := by
  have hserved : (∃ m ∈ lb.members, s.serves networkId m) ↔
      ∃ m ∈ lb'.members, s.serves networkId m := by
    simp only [exists_serves_iff, h.demands_iff]
  cases hlast : (lb.members.filter (s.serves networkId)).getLast? with
  | none =>
    rw [List.getLast?_eq_none_iff, List.filter_eq_nil_iff] at hlast
    have hlast' : lb'.members.filter (s.serves networkId) = [] := by
      rw [List.filter_eq_nil_iff]
      intro m' hm' hserves'
      obtain ⟨m, hm, hserves⟩ := hserved.mpr ⟨m', hm', hserves'⟩
      exact hlast m hm hserves
    rw [hlast']
    rfl
  | some m =>
    obtain ⟨hm, hserves⟩ := List.mem_filter.mp (List.mem_of_getLast? hlast)
    cases hlast' : (lb'.members.filter (s.serves networkId)).getLast? with
    | none =>
      rw [List.getLast?_eq_none_iff, List.filter_eq_nil_iff] at hlast'
      obtain ⟨m', hm', hserves'⟩ := hserved.mp ⟨m, hm, hserves⟩
      exact absurd hserves' (hlast' m' hm')
    | some m' =>
      obtain ⟨hm', hserves'⟩ := List.mem_filter.mp (List.mem_of_getLast? hlast')
      exact congrArg some (h.uniform networkId m (List.mem_append_left _ hm) m'
        (List.mem_append_right _ hm') hserves hserves')

/-- What is to be reached is the same, and by the same kinds of interfaces. -/
theorem desired (h : s.SameDemands lb lb') (hanswered : s.Answered lb) :
    s.desired lb = s.desired lb' := by
  have hanswered' := h.answered.mp hanswered
  have hsubnets : (s.desired lb).subnets = (s.desired lb').subnets := by
    apply IdMap.ext_get?
    intro subnetId
    apply Option.ext
    intro networkId
    rw [get?_subnets_desired hanswered, get?_subnets_desired hanswered', h.wanted]
  have hkinds : (s.desired lb).vnicTypes = (s.desired lb').vnicTypes := by
    apply IdMap.ext_get?
    intro networkId
    rw [get?_vnicTypes_desired hanswered, get?_vnicTypes_desired hanswered', h.kinds]
  exact congrArg₂ Topology.mk hsubnets hkinds

theorem computable (h : s.SameDemands lb lb') :
    s.Computable lb amphora ↔ s.Computable lb' amphora :=
  ⟨fun hc => ⟨h.answered.mp hc.answered, hc.hosted⟩,
    fun hc => ⟨h.answered.mpr hc.answered, hc.hosted⟩⟩

/-- The delta depends on the demands alone, and not on the members that make them. -/
theorem delta (h : s.SameDemands lb lb') (hanswered : s.Answered lb) (management : List String)
    (amphora : Amphora) : s.delta management lb amphora = s.delta management lb' amphora := by
  rw [Substrate.delta, Substrate.delta, h.desired hanswered]

end SameDemands

/-- Live members that are the same ask for the same. -/
theorem sameDemands_of_sameLive (h : lb.SameLive lb') (huniform : s.Uniform lb.members) :
    s.SameDemands lb lb' := by
  have hsub : ∀ m ∈ lb.members ++ lb'.members, ∀ networkId, s.serves networkId m →
      m ∈ lb.members := by
    intro m hm networkId hserves
    obtain ⟨d, hdemand, -⟩ := serves_iff.mp hserves
    rcases List.mem_append.mp hm with hm | hm
    · exact hm
    · exact h.right m hm (Option.isSome_iff_exists.mpr ⟨d, hdemand⟩)
  constructor
  case vipSubnet => exact h.vipSubnet
  case vipNetwork => exact h.vipNetwork
  case demands_iff =>
    intro id
    constructor
    · exact LoadBalancer.demands_of_members h.left
    · exact LoadBalancer.demands_of_members h.right
  case uniform =>
    intro networkId m hm m' hm' hserves hserves'
    exact huniform networkId m (hsub m hm networkId hserves) m' (hsub m' hm' networkId hserves')
      hserves hserves'

/-- A computed delta depends only on which subnets are asked for and on the kinds of interfaces
that are. So nothing comes of rearranging or repeating live members, or of members that are about
to be deleted or name no subnet. -/
theorem computeDelta_of_same_demands (hquiet : s.faults = []) (management : List String)
    (lb lb' : LoadBalancer) (amphora : Amphora) :
    (s.SameDemands lb lb' → ∀ delta,
      ((computeDelta management lb amphora).runOn s).1 = .ok delta ↔
        ((computeDelta management lb' amphora).runOn s).1 = .ok delta) ∧
    (lb.SameLive lb' → s.Uniform lb.members → ∀ delta,
      ((computeDelta management lb amphora).runOn s).1 = .ok delta ↔
        ((computeDelta management lb' amphora).runOn s).1 = .ok delta) := by
  have hsame : s.SameDemands lb lb' → ∀ delta,
      ((computeDelta management lb amphora).runOn s).1 = .ok delta ↔
        ((computeDelta management lb' amphora).runOn s).1 = .ok delta := by
    intro h delta
    simp only [computeDelta_ok_iff hquiet, refusal_eq_none_iff]
    constructor
    · intro hcomputed
      obtain ⟨hcomputable, hdelta⟩ := hcomputed
      exact ⟨h.computable.mp hcomputable, h.delta hcomputable.answered management amphora ▸ hdelta⟩
    · intro hcomputed
      obtain ⟨hcomputable, hdelta⟩ := hcomputed
      have hcomputable := h.computable.mpr hcomputable
      exact ⟨hcomputable, h.delta hcomputable.answered management amphora ▸ hdelta⟩
  exact ⟨hsame, fun h huniform => hsame (sameDemands_of_sameLive h huniform)⟩

end Substrate

namespace Sample

/-- The member of the sample deployment twice, in two pools, next to one that is about to be
deleted and one without a subnet. -/
def rearranged : LoadBalancer where
  id := "lb-1"
  vip := { subnetId := "vip-subnet", networkId := "vip-net" }
  pools :=
    [{ id := "pool-1", members :=
        [{ id := "m2", subnetId := some "nowhere", provisioningStatus := .pendingDelete },
         { id := "m1", subnetId := some "subnet-b" }] },
     { id := "pool-2", members := [{ id := "m1", subnetId := some "subnet-b" }, { id := "m3" }] }]

end Sample

namespace Substrate

/-- One member in two pools, with others that ask for nothing, gets the delta of the member
alone. -/
theorem computeDelta_of_same_demands_rearranged : ∃ delta : Delta,
    (Sample.loadBalancer []).SameLive Sample.rearranged ∧
    Sample.wired.SameDemands (Sample.loadBalancer []) Sample.rearranged ∧
    ((computeDelta ["mgmt-net"] (Sample.loadBalancer []) (Sample.amphora "amp-1" "vm-1")).runOn
      Sample.wired).1 = .ok delta ∧
    ((computeDelta ["mgmt-net"] Sample.rearranged (Sample.amphora "amp-1" "vm-1")).runOn
      Sample.wired).1 = .ok delta := by
  obtain ⟨delta, t, hrun⟩ := exists_of_isSome (computeDelta ["mgmt-net"] (Sample.loadBalancer [])
    (Sample.amphora "amp-1" "vm-1")) Sample.wired (by decide +kernel)
  have hlive : (Sample.loadBalancer []).SameLive Sample.rearranged :=
    ⟨rfl, rfl, by decide, by decide⟩
  have huniform : Sample.wired.Uniform (Sample.loadBalancer []).members := by
    intro networkId m hm m' hm' _ _
    rw [List.mem_singleton.mp hm, List.mem_singleton.mp hm']
  obtain ⟨hdemands, -⟩ := computeDelta_of_same_demands (s := Sample.wired)
    (by decide +kernel) ["mgmt-net"] (Sample.loadBalancer []) Sample.rearranged
    (Sample.amphora "amp-1" "vm-1")
  have hok : ((computeDelta ["mgmt-net"] (Sample.loadBalancer [])
      (Sample.amphora "amp-1" "vm-1")).runOn Sample.wired).1 = .ok delta := by
    rw [hrun]
  have hsame := sameDemands_of_sameLive hlive huniform
  exact ⟨delta, hlive, hsame, hok, (hdemands hsame delta).mp hok⟩

end Substrate

end AmphoraWiring
