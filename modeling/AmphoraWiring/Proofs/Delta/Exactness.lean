import AmphoraWiring.Proofs.Delta.Entries
import AmphoraWiring.Proofs.Seeding

/-!
What a computed delta holds, list by list, told from the subnets that are wanted and from the ports
by which the instance is attached. Each list is ascending and has the entries that it is to have
and no others, so only one delta fits the description. An interface is never added and removed on
one network, nor a subnet, and nothing is to be done exactly if what is wanted is there.
-/
namespace AmphoraWiring

open Action Substrate

/-- The list has the entries of which `P` holds and no others, each once, ordered by their keys. -/
structure Lists {α : Type} (key : α → String) (P : α → Prop) (l : List α) : Prop where
  ascending : (l.map key).Pairwise (· < ·)
  mem_iff : ∀ a, a ∈ l ↔ P a

namespace Lists

variable {α : Type} {key : α → String} {P : α → Prop} {l l' : List α}

/-- There is one such list at most. -/
theorem unique (h : Lists key P l) (h' : Lists key P l') : l = l' := by
  have hl := List.pairwise_map.mp h.ascending
  have hl' := List.pairwise_map.mp h'.ascending
  have hirrefl : ∀ {a b : α}, key a < key b → a ≠ b := by
    intro a b hlt heq
    exact String.lt_irrefl _ (heq ▸ hlt)
  have hperm : l.Perm l' := (List.perm_ext_iff_of_nodup (hl.imp hirrefl) (hl'.imp hirrefl)).mpr
    fun a => (h.mem_iff a).trans (h'.mem_iff a).symm
  exact hperm.eq_of_pairwise (fun a b _ _ hab hba => absurd hba (String.lt_asymm hab)) hl hl'

/-- The list is empty if nothing is to be listed. -/
theorem eq_nil_iff (h : Lists key P l) : l = [] ↔ ∀ a, ¬ P a := by
  rw [List.eq_nil_iff_forall_not_mem]
  simp only [h.mem_iff]

end Lists

namespace Substrate

variable {s : Substrate} {management : List String} {c : String}

/-- The instance is attached to the network by the port: it is the one that was plugged in last
there, and the network is not a management network. -/
def Attached (s : Substrate) (management : List String) (c networkId : String) (p : Port) : Prop :=
  networkId ∉ management ∧ s.carrier c networkId = some p

/-- A live member whose subnet is registered on the network. -/
def serves (s : Substrate) (networkId : String) (m : Member) : Bool :=
  m.provisioningStatus ≠ .pendingDelete &&
    (m.subnetId.bind s.subnets.get?).any fun subnet => subnet.networkId = networkId

/-- The kind of interface that the last live member on the network asks for. -/
def wantedKind (s : Substrate) (lb : LoadBalancer) (networkId : String) : VnicType :=
  ((lb.members.filter (s.serves networkId)).getLast?.map (·.vnicType)).getD .normal

theorem attached_iff_ne_nil {networkId : String} :
    (∃ p, s.Attached management c networkId p) ↔
      ¬ (networkId ∈ management ∨ s.portsOn c networkId = []) := by
  simp only [Attached, exists_and_left, ← Option.isSome_iff_exists, not_or, ← carrier_eq_none,
    Option.isSome_iff_ne_none, Ne]

/-- Of the members on one network the last determines the kind of interface. -/
theorem get?_vnicTypes_demanded (s : Substrate) (t : Topology)
    (demands : List (String × VnicType)) (networkId : String) :
    (s.demanded t demands).vnicTypes.get? networkId =
      ((demands.filter fun d => s.networkOf d.1 = networkId).getLast?.map (·.2)).or
        (t.vnicTypes.get? networkId) := by
  induction demands generalizing t with
  | nil => rfl
  | cons d demands ih =>
    have hcons : s.demanded t (d :: demands) =
        s.demanded (t.addMember d.1 (s.networkOf d.1) d.2) demands := rfl
    rw [hcons, ih]
    by_cases hhead : s.networkOf d.1 = networkId
    · subst hhead
      cases hlast : (demands.filter fun d' => s.networkOf d'.1 = s.networkOf d.1).getLast? with
      | none => simp [Topology.addMember, List.getLast?_cons, hlast]
      | some last => simp [List.getLast?_cons, hlast]
    · simp [hhead, Ne.symm hhead, Topology.addMember, IdMap.get?_insert]

/-- A member serves the network that its demand is registered on. -/
theorem serves_iff {networkId : String} {m : Member} :
    s.serves networkId m ↔ ∃ d, m.demand = some d ∧ s.Registered d.1 networkId := by
  unfold serves Member.demand Registered
  by_cases hlive : m.provisioningStatus = .pendingDelete
  · simp [hlive]
  · cases m.subnetId with
    | none => simp [hlive]
    | some subnetId => simp [hlive, Option.any_eq_true]

theorem vnicType_of_demand {m : Member} {d : String × VnicType} (h : m.demand = some d) :
    d.2 = m.vnicType := by
  unfold Member.demand at h
  split at h
  · cases h
  · obtain ⟨subnetId, -, rfl⟩ := Option.map_eq_some_iff.mp h
    rfl

/-- Members and their demands tell the same about a network. -/
theorem map_filter_demands (networkId : String) {members : List Member}
    (h : ∀ d ∈ members.filterMap (·.demand), ∃ n, s.Registered d.1 n) :
    ((members.filterMap (·.demand)).filter fun d => s.networkOf d.1 = networkId).map (·.2) =
      (members.filter (s.serves networkId)).map (·.vnicType) := by
  induction members with
  | nil => rfl
  | cons m members ih =>
    cases hdemand : m.demand with
    | none =>
      have hserves : s.serves networkId m = false := by
        simp [← Bool.not_eq_true, serves_iff, hdemand]
      rw [List.filterMap_cons_none hdemand] at h ⊢
      rw [List.filter_cons_of_neg (by simp [hserves]), ih h]
    | some d =>
      rw [List.filterMap_cons_some hdemand] at h ⊢
      obtain ⟨⟨n, hn⟩, hrest⟩ := List.forall_mem_cons.mp h
      have hserves : s.serves networkId m ↔ s.networkOf d.1 = networkId := by
        rw [serves_iff, hn.networkOf_eq]
        constructor
        · intro h
          obtain ⟨d', hd', hregistered⟩ := h
          rw [hdemand] at hd'
          cases hd'
          exact hn.unique hregistered
        · intro h
          exact ⟨d, hdemand, h ▸ hn⟩
      by_cases hnet : s.networkOf d.1 = networkId
      · rw [List.filter_cons_of_pos (by simp [hnet]), List.filter_cons_of_pos (hserves.mpr hnet),
          List.map_cons, List.map_cons, ih hrest, vnicType_of_demand hdemand]
      · rw [List.filter_cons_of_neg (by simp [hnet]),
          List.filter_cons_of_neg (fun h => hnet (hserves.mp h)), ih hrest]

/-- Of the live members on a network the last one decides on the kind of interface. -/
theorem get?_vnicTypes_desired {lb : LoadBalancer} (h : s.Answered lb) (networkId : String) :
    (s.desired lb).vnicTypes.get? networkId =
      (lb.members.filter (s.serves networkId)).getLast?.map (·.vnicType) := by
  have hkinds := map_filter_demands networkId h
  have hempty : (Topology.ofVip lb.vip).vnicTypes.get? networkId = none := rfl
  rw [desired, get?_vnicTypes_demanded, hempty, Option.or_none, ← List.getLast?_map,
    LoadBalancer.demands, hkinds, List.getLast?_map]

theorem vnicTypes_desired {lb : LoadBalancer} (h : s.Answered lb) (networkId : String) :
    ((s.desired lb).vnicTypes.get? networkId).getD .normal = s.wantedKind lb networkId :=
  congrArg (·.getD .normal) (get?_vnicTypes_desired h networkId)

end Substrate

namespace Delta

variable {s : Substrate} {management : List String} {lb : LoadBalancer} {amphora : Amphora}
  {delta delta' : Delta}

/-- The interface is to be added: it has an address to be chosen on each of the subnets that are
wanted by its network, which is not attached. -/
structure NewNic (s : Substrate) (management : List String) (lb : LoadBalancer) (c : String)
    (nic : Interface) : Prop where
  wanted : ∃ subnetId, s.Wanted lb subnetId nic.networkId
  apart : ∀ p, ¬ s.Attached management c nic.networkId p
  portId : nic.portId = none
  fixedIps : Lists (·.subnetId)
    (fun ip => s.Wanted lb ip.subnetId nic.networkId ∧ ip = { subnetId := ip.subnetId })
    nic.fixedIps
  vnicType : nic.vnicType = s.wantedKind lb nic.networkId

/-- The interface is to be removed: its network is attached by the port, and no subnet is wanted
by it. -/
def StaleNic (s : Substrate) (management : List String) (lb : LoadBalancer) (c : String)
    (nic : Interface) : Prop :=
  (∀ subnetId, ¬ s.Wanted lb subnetId nic.networkId) ∧
    ∃ p, s.Attached management c nic.networkId p ∧
      nic = { networkId := nic.networkId, portId := some p.id }

/-- The subnet is to be added: it is wanted, and none of the ports by which the instance is
attached reaches it. -/
structure NewSubnet (s : Substrate) (management : List String) (lb : LoadBalancer) (c : String)
    (change : SubnetChange) : Prop where
  wanted : s.Wanted lb change.subnetId change.networkId
  apart : ∀ networkId, ¬ s.Reached management c change.subnetId networkId
  portId : change.portId = namedPort s management c change.networkId

/-- The subnet is to be removed: it is not wanted, but reached. Of several networks by which it is
reached the greatest is named. -/
structure StaleSubnet (s : Substrate) (management : List String) (lb : LoadBalancer) (c : String)
    (change : SubnetChange) : Prop where
  unwanted : ∀ networkId, ¬ s.Wanted lb change.subnetId networkId
  reached : s.Reached management c change.subnetId change.networkId
  greatest : ∀ networkId, s.Reached management c change.subnetId networkId →
    networkId ≤ change.networkId
  portId : change.portId = namedPort s management c change.networkId

/-- The delta leads from the ports by which the instance of the amphora is attached outside the
management networks, to the subnets that the load balancer wants. -/
structure Exact (s : Substrate) (management : List String) (lb : LoadBalancer) (amphora : Amphora)
    (delta : Delta) : Prop where
  amphoraId : delta.amphoraId = amphora.id
  computeId : delta.computeId = amphora.instanceId
  addNics : Lists (·.networkId) (NewNic s management lb amphora.instanceId) delta.addNics
  deleteNics : Lists (·.networkId) (StaleNic s management lb amphora.instanceId) delta.deleteNics
  addSubnets : Lists (·.subnetId) (NewSubnet s management lb amphora.instanceId) delta.addSubnets
  deleteSubnets : Lists (·.subnetId) (StaleSubnet s management lb amphora.instanceId)
    delta.deleteSubnets

namespace Exact

/-- The description leaves no choice. -/
theorem unique (h : delta.Exact s management lb amphora)
    (h' : delta'.Exact s management lb amphora) : delta = delta' := by
  obtain ⟨amphoraId, computeId, addNics, deleteNics, addSubnets, deleteSubnets⟩ := delta
  obtain ⟨amphoraId', computeId', addNics', deleteNics', addSubnets', deleteSubnets'⟩ := delta'
  rw [mk.injEq]
  exact ⟨h.amphoraId.trans h'.amphoraId.symm, h.computeId.trans h'.computeId.symm,
    h.addNics.unique h'.addNics, h.deleteNics.unique h'.deleteNics,
    h.addSubnets.unique h'.addSubnets, h.deleteSubnets.unique h'.deleteSubnets⟩

/-- No interface is added and removed on one network. -/
theorem nics_disjoint (h : delta.Exact s management lb amphora) :
    ∀ nic ∈ delta.addNics, ∀ stale ∈ delta.deleteNics, nic.networkId ≠ stale.networkId := by
  intro nic hnic stale hstale heq
  obtain ⟨hunwanted, -⟩ := (h.deleteNics.mem_iff stale).mp hstale
  obtain ⟨subnetId, hwanted⟩ := ((h.addNics.mem_iff nic).mp hnic).wanted
  exact hunwanted subnetId (heq ▸ hwanted)

/-- No subnet is added and removed. -/
theorem subnets_disjoint (h : delta.Exact s management lb amphora) :
    ∀ change ∈ delta.addSubnets, ∀ stale ∈ delta.deleteSubnets,
      change.subnetId ≠ stale.subnetId := by
  intro change hchange stale hstale heq
  have hwanted := ((h.addSubnets.mem_iff change).mp hchange).wanted
  exact ((h.deleteSubnets.mem_iff stale).mp hstale).unwanted _ (heq ▸ hwanted)

end Exact

/-! The delta that is computed -/

theorem lists_fixedIps {P : String → Prop} {wanted : Topology} {networkId : String}
    (h : ∀ subnetId, wanted.subnets.get? subnetId = some networkId ↔ P subnetId) :
    Lists (·.subnetId) (fun ip => P ip.subnetId ∧ ip = { subnetId := ip.subnetId })
      (newNic wanted networkId).fixedIps := by
  constructor
  case ascending =>
    simp only [newNic, List.map_map, Function.comp_def, List.map_id']
    exact List.pairwise_map.mpr (wanted.subnets.ascending.filter _)
  case mem_iff =>
    intro ip
    simp only [newNic, List.mem_map, Topology.mem_subnetsOn, h]
    constructor
    · intro hmem
      obtain ⟨subnetId, hwanted, rfl⟩ := hmem
      exact ⟨hwanted, rfl⟩
    · intro hip
      exact ⟨ip.subnetId, hip.1, hip.2.symm⟩

/-- The interface that is added has an address to be chosen on each wanted subnet of its network. -/
theorem newNic_newNic (h : s.Answered lb) {c networkId : String}
    (hwanted : ∃ subnetId, s.Wanted lb subnetId networkId)
    (happart : ∀ p, ¬ s.Attached management c networkId p) :
    NewNic s management lb c (newNic (s.desired lb) networkId) where
  wanted := hwanted
  apart := happart
  portId := rfl
  fixedIps := lists_fixedIps fun _ => get?_subnets_desired h
  vnicType := vnicTypes_desired h networkId

/-- What is to be said of a new interface leaves nothing open but its network. -/
theorem NewNic.eq_newNic (h : s.Answered lb) {c : String} {nic : Interface}
    (hnic : NewNic s management lb c nic) : nic = newNic (s.desired lb) nic.networkId := by
  have hmade := newNic_newNic h hnic.wanted hnic.apart
  have hport := hnic.portId.trans hmade.portId.symm
  have hips := hnic.fixedIps.unique hmade.fixedIps
  have hkind := hnic.vnicType.trans hmade.vnicType.symm
  calc nic = ⟨nic.networkId, nic.portId, nic.fixedIps, nic.vnicType⟩ := rfl
    _ = newNic (s.desired lb) nic.networkId := by rw [hport, hips, hkind]; rfl

/-- A network is wanted for the subnets that are wanted by it. -/
theorem mem_networks_desired (h : s.Answered lb) {networkId : String} :
    networkId ∈ (s.desired lb).networks ↔ ∃ subnetId, s.Wanted lb subnetId networkId := by
  simp only [Topology.mem_networks, get?_subnets_desired h]

theorem lists_addNics (h : s.Answered lb) (management : List String) (amphora : Amphora) :
    Lists (·.networkId) (NewNic s management lb amphora.instanceId)
      (s.delta management lb amphora).addNics := by
  constructor
  case ascending =>
    simp only [Substrate.delta, between, List.map_map, Function.comp_def, newNic, List.map_id']
    exact (IdMap.keys_ascending _).filter _
  case mem_iff =>
    intro nic
    rw [Substrate.delta, mem_addNics]
    constructor
    · intro hmem
      obtain ⟨networkId, hwanted, happart, rfl⟩ := hmem
      refine newNic_newNic h ((mem_networks_desired h).mp hwanted) fun p hp => ?_
      exact attached_iff_ne_nil.mp ⟨p, hp⟩ happart
    · intro hnic
      refine ⟨nic.networkId, (mem_networks_desired h).mpr hnic.wanted, ?_, hnic.eq_newNic h⟩
      by_contra happart
      obtain ⟨p, hp⟩ := attached_iff_ne_nil.mpr happart
      exact hnic.apart p hp

theorem lists_deleteNics (h : s.Answered lb) (management : List String) (amphora : Amphora) :
    Lists (·.networkId) (StaleNic s management lb amphora.instanceId)
      (s.delta management lb amphora).deleteNics := by
  constructor
  case ascending =>
    simp only [Substrate.delta, between, List.map_map]
    have hkeys := (s.attached management amphora.instanceId).keys_ascending
    rw [← map_networkId_attached] at hkeys
    exact hkeys.sublist (List.filter_sublist.map _)
  case mem_iff =>
    intro nic
    rw [Substrate.delta, mem_deleteNics]
    constructor
    · intro hmem
      obtain ⟨networkId, p, hmanagement, hunwanted, hp, rfl⟩ := hmem
      have hnet := carrier_networkId hp
      subst hnet
      exact ⟨fun subnetId hwanted => hunwanted ((mem_networks_desired h).mpr ⟨subnetId, hwanted⟩),
        p, ⟨hmanagement, hp⟩, rfl⟩
    · intro hnic
      obtain ⟨hunwanted, p, ⟨hmanagement, hp⟩, hnic⟩ := hnic
      refine ⟨nic.networkId, p, hmanagement, fun hmem => ?_, hp, ?_⟩
      · obtain ⟨subnetId, hwanted⟩ := (mem_networks_desired h).mp hmem
        exact hunwanted subnetId hwanted
      · rw [hnic]
        simp only [staleNic, Port.toInterface, carrier_networkId hp]

theorem lists_addSubnets (h : s.Answered lb) (management : List String) (amphora : Amphora) :
    Lists (·.subnetId) (NewSubnet s management lb amphora.instanceId)
      (s.delta management lb amphora).addSubnets := by
  constructor
  case ascending =>
    simp only [Substrate.delta, between, List.map_map, Function.comp_def, subnetChange]
    exact List.pairwise_map.mpr ((s.desired lb).subnets.ascending.filter _)
  case mem_iff =>
    intro change
    simp only [Substrate.delta, mem_addSubnets, get?_subnets_desired h]
    constructor
    · intro hmem
      obtain ⟨subnetId, networkId, hwanted, happart, rfl⟩ := hmem
      exact ⟨hwanted, happart, rfl⟩
    · intro hchange
      refine ⟨change.subnetId, change.networkId, hchange.wanted, hchange.apart, ?_⟩
      rw [← hchange.portId]

theorem lists_deleteSubnets (h : s.Answered lb) (management : List String) (amphora : Amphora) :
    Lists (·.subnetId) (StaleSubnet s management lb amphora.instanceId)
      (s.delta management lb amphora).deleteSubnets := by
  constructor
  case ascending =>
    simp only [Substrate.delta, between, List.map_map, Function.comp_def, subnetChange]
    exact List.pairwise_map.mpr
      ((pluggedSubnets (s.attached management amphora.instanceId)).ascending.filter _)
  case mem_iff =>
    intro change
    simp only [Substrate.delta, between, List.mem_map, List.mem_filter, Prod.exists,
      IdMap.mem_entries_iff, get?_pluggedSubnets_iff, Bool.not_eq_true',
      IdMap.contains_eq_false_iff, Option.eq_none_iff_forall_ne_some, Ne, get?_subnets_desired h,
      subnetChange_attached]
    constructor
    · intro hmem
      obtain ⟨subnetId, networkId, ⟨⟨hreached, hgreatest⟩, hunwanted⟩, rfl⟩ := hmem
      exact ⟨hunwanted, hreached, hgreatest, rfl⟩
    · intro hchange
      refine ⟨change.subnetId, change.networkId,
        ⟨⟨hchange.reached, hchange.greatest⟩, hchange.unwanted⟩, ?_⟩
      rw [← hchange.portId]

/-- What is computed fits the description, list by list. -/
theorem exact_delta (h : s.Answered lb) (management : List String) (amphora : Amphora) :
    (s.delta management lb amphora).Exact s management lb amphora where
  amphoraId := rfl
  computeId := rfl
  addNics := lists_addNics h management amphora
  deleteNics := lists_deleteNics h management amphora
  addSubnets := lists_addSubnets h management amphora
  deleteSubnets := lists_deleteSubnets h management amphora

/-! When there is nothing to be done -/

/-- No interface is missing if every wanted network is attached. -/
theorem forall_not_newNic_iff (h : s.Answered lb) {c : String} :
    (∀ nic, ¬ NewNic s management lb c nic) ↔
      ∀ networkId, (∃ subnetId, s.Wanted lb subnetId networkId) →
        ∃ p, s.Attached management c networkId p := by
  constructor
  · intro hnone networkId hwanted
    by_contra happart
    exact hnone _ (newNic_newNic h hwanted (not_exists.mp happart))
  · intro hall nic hnic
    obtain ⟨p, hp⟩ := hall nic.networkId hnic.wanted
    exact hnic.apart p hp

theorem forall_not_staleNic_iff {c : String} :
    (∀ nic, ¬ StaleNic s management lb c nic) ↔
      ∀ networkId, (∃ p, s.Attached management c networkId p) →
        ∃ subnetId, s.Wanted lb subnetId networkId := by
  constructor
  · intro hnone networkId hp
    obtain ⟨p, hp⟩ := hp
    by_contra hunwanted
    exact hnone { networkId, portId := some p.id } ⟨not_exists.mp hunwanted, p, hp, rfl⟩
  · intro hall nic hnic
    obtain ⟨hunwanted, p, hp, -⟩ := hnic
    obtain ⟨subnetId, hwanted⟩ := hall nic.networkId ⟨p, hp⟩
    exact hunwanted subnetId hwanted

/-- No subnet is missing if every wanted one is reached. -/
theorem forall_not_newSubnet_iff {c : String} :
    (∀ change, ¬ NewSubnet s management lb c change) ↔
      ∀ subnetId, (∃ networkId, s.Wanted lb subnetId networkId) →
        ∃ networkId, s.Reached management c subnetId networkId := by
  constructor
  · intro hnone subnetId hwanted
    obtain ⟨networkId, hwanted⟩ := hwanted
    by_contra happart
    exact hnone ⟨subnetId, networkId, namedPort s management c networkId⟩
      ⟨hwanted, not_exists.mp happart, rfl⟩
  · intro hall change hchange
    obtain ⟨networkId, hreached⟩ := hall change.subnetId ⟨_, hchange.wanted⟩
    exact hchange.apart networkId hreached

theorem forall_not_staleSubnet_iff {c : String} :
    (∀ change, ¬ StaleSubnet s management lb c change) ↔
      ∀ subnetId, (∃ networkId, s.Reached management c subnetId networkId) →
        ∃ networkId, s.Wanted lb subnetId networkId := by
  constructor
  · intro hnone subnetId hreached
    by_contra hunwanted
    -- of the networks by which the subnet is reached, the one that the delta would name
    obtain ⟨networkId, hnetwork⟩ := Option.isSome_iff_exists.mp (isSome_pluggedSubnets.mpr hreached)
    obtain ⟨hreached, hgreatest⟩ := get?_pluggedSubnets_iff.mp hnetwork
    exact hnone ⟨subnetId, networkId, namedPort s management c networkId⟩
      ⟨not_exists.mp hunwanted, hreached, hgreatest, rfl⟩
  · intro hall change hchange
    obtain ⟨networkId, hwanted⟩ := hall change.subnetId ⟨_, hchange.reached⟩
    exact hchange.unwanted networkId hwanted

/-- The networks that are attached are those by which subnets are wanted, and the subnets that are
reached are those that are wanted. -/
def Settled (s : Substrate) (management : List String) (lb : LoadBalancer) (c : String) : Prop :=
  (∀ networkId, (∃ p, s.Attached management c networkId p) ↔
    ∃ subnetId, s.Wanted lb subnetId networkId) ∧
  ∀ subnetId, (∃ networkId, s.Reached management c subnetId networkId) ↔
    ∃ networkId, s.Wanted lb subnetId networkId

/-- Nothing is to be done exactly if all is as wanted. -/
theorem Exact.isEmpty_iff (hdelta : delta.Exact s management lb amphora) (h : s.Answered lb) :
    delta.isEmpty ↔ Settled s management lb amphora.instanceId := by
  simp only [Delta.isEmpty, Bool.and_eq_true, List.isEmpty_iff, hdelta.addNics.eq_nil_iff,
    hdelta.deleteNics.eq_nil_iff, hdelta.addSubnets.eq_nil_iff, hdelta.deleteSubnets.eq_nil_iff,
    forall_not_newNic_iff h, forall_not_staleNic_iff, forall_not_newSubnet_iff,
    forall_not_staleSubnet_iff, Settled, iff_iff_implies_and_implies, forall_and]
  tauto

end Delta

namespace Substrate

/-- Without scripted failures a delta is computed exactly if there is what it takes, and it holds
what is to be done and nothing else. -/
theorem computeDelta_exact {s : Substrate} (hquiet : s.faults = []) (bootNetworks : List String)
    (zone : Option AvailabilityZone) (lb : LoadBalancer) (amphora : Amphora) :
    ((∃ delta t, (computeDelta (managementNetworks bootNetworks zone) lb amphora).runOn s =
      (.ok delta, t)) ↔ s.Computable lb amphora) ∧
    ∀ delta t, (computeDelta (managementNetworks bootNetworks zone) lb amphora).runOn s =
        (.ok delta, t) →
      delta.Exact s (managementNetworks bootNetworks zone) lb amphora ∧
      (∀ nic ∈ delta.addNics, ∀ stale ∈ delta.deleteNics, nic.networkId ≠ stale.networkId) ∧
      (∀ change ∈ delta.addSubnets, ∀ stale ∈ delta.deleteSubnets,
        change.subnetId ≠ stale.subnetId) ∧
      (delta.isEmpty ↔
        Delta.Settled s (managementNetworks bootNetworks zone) lb amphora.instanceId) := by
  have hends := ends_computeDelta_iff (managementNetworks bootNetworks zone) lb amphora s
  refine ⟨⟨?_, ?_⟩, ?_⟩
  · intro h
    obtain ⟨delta, t, hrun⟩ := h
    exact (hends.of_ok hrun).2.2
  · intro h
    obtain ⟨t, hrun⟩ := computeDelta_eq hquiet (managementNetworks bootNetworks zone) h
    exact ⟨_, t, hrun⟩
  · intro delta t hrun
    obtain ⟨-, rfl, hcomputable⟩ := hends.of_ok hrun
    have hexact := Delta.exact_delta hcomputable.answered (managementNetworks bootNetworks zone)
      amphora
    exact ⟨hexact, hexact.nics_disjoint, hexact.subnets_disjoint,
      hexact.isEmpty_iff hcomputable.answered⟩

/-- The delta of an amphora with a management interface alone, which is not empty. -/
theorem computeDelta_exact_wired : ∃ delta t,
    (computeDelta (managementNetworks ["mgmt-net"] none) (Sample.loadBalancer [])
      (Sample.amphora "amp-1" "vm-1")).runOn Sample.wired = (.ok delta, t) ∧
    delta.Exact Sample.wired ["mgmt-net"] (Sample.loadBalancer [])
      (Sample.amphora "amp-1" "vm-1") ∧
    ¬ Delta.Settled Sample.wired ["mgmt-net"] (Sample.loadBalancer []) "vm-1" := by
  obtain ⟨delta, t, hrun⟩ := exists_of_isSome
    (computeDelta (managementNetworks ["mgmt-net"] none) (Sample.loadBalancer [])
      (Sample.amphora "amp-1" "vm-1")) Sample.wired (by decide +kernel)
  obtain ⟨hexact, -, -, hempty⟩ := (computeDelta_exact (by decide +kernel) ["mgmt-net"] none
    (Sample.loadBalancer []) (Sample.amphora "amp-1" "vm-1")).2 delta t hrun
  refine ⟨delta, t, hrun, hexact, fun hsettled => ?_⟩
  have hbusy : ((computeDelta (managementNetworks ["mgmt-net"] none) (Sample.loadBalancer [])
      (Sample.amphora "amp-1" "vm-1")).runOn Sample.wired).1.toOption.any (·.isEmpty) = false := by
    decide +kernel
  rw [hrun] at hbusy
  exact absurd (hempty.mpr hsettled) (Bool.eq_false_iff.mp hbusy)

end Substrate

end AmphoraWiring
