import AmphoraWiring.Proofs.Delta.Wanted

/-!
What the entries of a delta name, given what an instance is attached to and what is to be reached.
An interface is added for each network to be reached that is not attached outside the management
networks, and removed for each such network that is not to be reached; a subnet is added or
removed when it is on one side only. A network is attached by its carrier, and a delta names the
carrier with every change on a network that is attached already.
-/
namespace AmphoraWiring

namespace Substrate

/-- The port by which an instance is attached to a network, the last one if there are several. -/
def carrier (s : Substrate) (c networkId : String) : Option Port := (s.portsOn c networkId).getLast?

/-- The instance reaches the subnet by the network, which is not a management network. -/
def Reached (s : Substrate) (management : List String) (c subnetId networkId : String) : Prop :=
  networkId ∉ management ∧ ∃ p, s.carrier c networkId = some p ∧ p.hasSubnet subnetId

variable {s : Substrate} {management : List String} {c : String}

theorem carrier_mem {networkId : String} {p : Port} (h : s.carrier c networkId = some p) :
    p ∈ s.portsOn c networkId :=
  List.mem_of_getLast? h

theorem carrier_networkId {networkId : String} {p : Port} (h : s.carrier c networkId = some p) :
    p.networkId = networkId :=
  (mem_portsOn.mp (carrier_mem h)).2

theorem carrier_eq_none {networkId : String} :
    s.carrier c networkId = none ↔ s.portsOn c networkId = [] :=
  List.getLast?_eq_none_iff

/-- The port by which an instance is attached is plugged into it, and registered as it stands. -/
theorem Sound.carrier_get? (hs : s.Sound) {networkId : String} {p : Port}
    (h : s.carrier c networkId = some p) :
    p.id ∈ s.pluggedPortIds c ∧ s.ports.get? p.id = some p := by
  obtain ⟨hid, hget, -⟩ := hs.mem_portsOn.mp (carrier_mem h)
  exact ⟨hid, hget⟩

/-- A port reaches a subnet by the network of the subnet. -/
theorem Sound.registered (hs : s.Sound) {networkId subnetId : String} {p : Port}
    (h : p ∈ s.portsOn c networkId) (hsubnet : p.hasSubnet subnetId) :
    s.Registered subnetId networkId := by
  obtain ⟨-, hget, hnet⟩ := hs.mem_portsOn.mp h
  obtain ⟨ip, hip, rfl⟩ := Port.hasSubnet_iff.mp hsubnet
  exact hnet ▸ hs.on_network hget hip

/-- An interface is listed for each network with a port, but for management networks. -/
theorem get?_attached_eq_some {networkId : String} {i : Interface} :
    (s.attached management c).get? networkId = some i ↔
      networkId ∉ management ∧ ∃ p, s.carrier c networkId = some p ∧ i = p.toInterface := by
  rw [get?_attached]
  by_cases h : networkId ∈ management
  · simp [h]
  · simp only [h, if_false, carrier, Option.map_eq_some_iff, not_false_eq_true, true_and]
    constructor
    · intro h
      obtain ⟨p, hp, rfl⟩ := h
      exact ⟨p, hp, rfl⟩
    · intro h
      obtain ⟨p, hp, rfl⟩ := h
      exact ⟨p, hp, rfl⟩

theorem contains_attached {networkId : String} :
    (s.attached management c).contains networkId = false ↔
      networkId ∈ management ∨ s.portsOn c networkId = [] := by
  rw [IdMap.contains_eq_false_iff, get?_attached]
  by_cases h : networkId ∈ management
  · simp [h]
  · simp [h]

/-- An instance is attached to each network by an interface there. -/
theorem map_networkId_attached :
    (s.attached management c).values.map (·.networkId) = (s.attached management c).keys := by
  unfold IdMap.values IdMap.keys
  rw [List.map_map]
  apply List.map_congr_left
  intro h hmem
  obtain ⟨networkId, i⟩ := h
  obtain ⟨-, p, hp, rfl⟩ := get?_attached_eq_some.mp (IdMap.mem_entries_iff.mp hmem)
  exact carrier_networkId hp

/-- The subnets that the carriers reach, each with its network, in the order of the networks. -/
def reaches (s : Substrate) (management : List String) (c : String) : List (String × String) :=
  (s.attached management c).values.flatMap fun i => i.fixedIps.map fun ip =>
    (ip.subnetId, i.networkId)

theorem pluggedSubnets_attached :
    Delta.pluggedSubnets (s.attached management c) = .ofList (s.reaches management c) := rfl

/-- The list has the subnets that are reached, each with the network by which it is. -/
theorem mem_reaches {subnetId networkId : String} :
    (subnetId, networkId) ∈ s.reaches management c ↔
      s.Reached management c subnetId networkId := by
  simp only [reaches, List.mem_flatMap, IdMap.mem_values_iff, get?_attached_eq_some, List.mem_map,
    Prod.mk.injEq]
  constructor
  · intro h
    obtain ⟨i, ⟨k, hk, p, hp, rfl⟩, ip, hip, rfl, rfl⟩ := h
    have hnet := carrier_networkId hp
    subst hnet
    exact ⟨hk, p, hp, Port.hasSubnet_iff.mpr ⟨ip, hip, rfl⟩⟩
  · intro h
    obtain ⟨hn, p, hp, hsubnet⟩ := h
    obtain ⟨ip, hip, rfl⟩ := Port.hasSubnet_iff.mp hsubnet
    exact ⟨p.toInterface, ⟨networkId, hn, p, hp, rfl⟩, ip, hip, rfl, carrier_networkId hp⟩

theorem reaches_ascending : (s.reaches management c).Pairwise fun a b => a.2 ≤ b.2 := by
  have hvalues : (s.attached management c).values.Pairwise
      fun i j => i.networkId < j.networkId := by
    rw [← List.pairwise_map (f := fun i : Interface => i.networkId), map_networkId_attached]
    exact List.pairwise_map.mpr (s.attached management c).ascending
  refine List.pairwise_flatMap.mpr ⟨fun i _ => ?_, hvalues.imp fun {i j} hlt a ha b hb => ?_⟩
  · exact List.pairwise_map.mpr (List.pairwise_of_forall fun _ _ => String.le_refl _)
  · obtain ⟨ip, -, rfl⟩ := List.mem_map.mp ha
    obtain ⟨ip', -, rfl⟩ := List.mem_map.mp hb
    exact String.not_lt.mp (String.lt_asymm hlt)

/-- Of several networks by which the carriers reach a subnet, the last one counts. -/
theorem get?_pluggedSubnets_iff {subnetId networkId : String} :
    (Delta.pluggedSubnets (s.attached management c)).get? subnetId = some networkId ↔
      s.Reached management c subnetId networkId ∧
        ∀ n, s.Reached management c subnetId n → n ≤ networkId := by
  rw [pluggedSubnets_attached, IdMap.get?_ofList_eq_some_iff reaches_ascending]
  simp only [mem_reaches]

/-- The subnets that are counted as plugged are those that the carriers reach. -/
theorem get?_pluggedSubnets (hs : s.Sound) {subnetId networkId : String} :
    (Delta.pluggedSubnets (s.attached management c)).get? subnetId = some networkId ↔
      s.Reached management c subnetId networkId := by
  rw [get?_pluggedSubnets_iff, and_iff_left_iff_imp]
  intro h n hn
  obtain ⟨-, p, hp, hsubnet⟩ := h
  obtain ⟨-, p', hp', hsubnet'⟩ := hn
  have heq : n = networkId := (hs.registered (carrier_mem hp') hsubnet').unique
    (hs.registered (carrier_mem hp) hsubnet)
  exact heq ▸ String.le_refl n

/-- A subnet counts as plugged in if it is reached by some network. -/
theorem isSome_pluggedSubnets {subnetId : String} :
    ((Delta.pluggedSubnets (s.attached management c)).get? subnetId).isSome ↔
      ∃ networkId, s.Reached management c subnetId networkId := by
  simp only [pluggedSubnets_attached, IdMap.get?_ofList_isSome_iff, mem_reaches]

theorem contains_pluggedSubnets {subnetId : String} :
    (Delta.pluggedSubnets (s.attached management c)).contains subnetId = false ↔
      ∀ networkId, ¬ s.Reached management c subnetId networkId := by
  rw [IdMap.contains, Bool.eq_false_iff, Ne, isSome_pluggedSubnets, not_exists]

end Substrate

namespace Delta

open Substrate

variable {s : Substrate} {management : List String} {c : String} {amphora : Amphora}
  {wanted : Topology}

/-- The port that a delta names with a change on the network: its carrier, unless the network is
not attached or is a management network. -/
def namedPort (s : Substrate) (management : List String) (c networkId : String) : Option String :=
  if networkId ∈ management then none else (s.carrier c networkId).map (·.id)

theorem namedPort_eq_some {networkId id : String} : namedPort s management c networkId = some id ↔
    networkId ∉ management ∧ ∃ p, s.carrier c networkId = some p ∧ p.id = id := by
  unfold namedPort
  split
  next hmanagement => simp [hmanagement]
  next hmanagement => simp [hmanagement]

theorem namedPort_eq_none {networkId : String} : namedPort s management c networkId = none ↔
    networkId ∈ management ∨ s.portsOn c networkId = [] := by
  unfold namedPort
  split
  next hmanagement => simp [hmanagement]
  next hmanagement => simp [hmanagement, carrier_eq_none]

theorem subnetChange_attached (subnetId networkId : String) :
    subnetChange (s.attached management c) subnetId networkId =
      ⟨subnetId, networkId, namedPort s management c networkId⟩ := by
  unfold subnetChange namedPort
  rw [get?_attached]
  by_cases h : networkId ∈ management
  · simp [h]
  · simp only [h, if_false, carrier]
    cases (s.portsOn c networkId).getLast? <;> rfl

/-- An interface is added for each network that is wanted and not attached. -/
theorem mem_addNics {nic : Interface} :
    nic ∈ (between amphora wanted (s.attached management c)).addNics ↔
      ∃ networkId ∈ wanted.networks,
        (networkId ∈ management ∨ s.portsOn c networkId = []) ∧ nic = newNic wanted networkId := by
  simp only [between, List.mem_map, List.mem_filter, Bool.not_eq_true', contains_attached]
  constructor
  · intro h
    obtain ⟨networkId, ⟨hwanted, hplugged⟩, rfl⟩ := h
    exact ⟨networkId, hwanted, hplugged, rfl⟩
  · intro h
    obtain ⟨networkId, hwanted, hplugged, rfl⟩ := h
    exact ⟨networkId, ⟨hwanted, hplugged⟩, rfl⟩

/-- Where an interface is to be added there is no port to name. -/
theorem namedPort_of_mem_addNics {nic : Interface}
    (h : nic ∈ (between amphora wanted (s.attached management c)).addNics) :
    namedPort s management c nic.networkId = none := by
  obtain ⟨networkId, -, hvacant, rfl⟩ := mem_addNics.mp h
  exact namedPort_eq_none.mpr hvacant

/-- An interface is removed from each attached network that is not wanted. -/
theorem mem_deleteNics {nic : Interface} :
    nic ∈ (between amphora wanted (s.attached management c)).deleteNics ↔
      ∃ networkId p, networkId ∉ management ∧ networkId ∉ wanted.networks ∧
        s.carrier c networkId = some p ∧ nic = staleNic p.toInterface := by
  simp only [between, List.mem_map, List.mem_filter, IdMap.mem_values_iff, get?_attached_eq_some,
    Bool.not_eq_true', List.contains_eq_mem, decide_eq_false_iff_not]
  constructor
  · intro h
    obtain ⟨i, ⟨⟨networkId, hn, p, hp, rfl⟩, hwanted⟩, rfl⟩ := h
    have hnet := carrier_networkId hp
    subst hnet
    exact ⟨p.networkId, p, hn, hwanted, hp, rfl⟩
  · intro h
    obtain ⟨networkId, p, hn, hwanted, hp, rfl⟩ := h
    have hnet := carrier_networkId hp
    subst hnet
    exact ⟨p.toInterface, ⟨⟨p.networkId, hn, p, hp, rfl⟩, hwanted⟩, rfl⟩

/-- A subnet is added if it is wanted and not reached, with the port of its network if there is
one. -/
theorem mem_addSubnets {change : SubnetChange} :
    change ∈ (between amphora wanted (s.attached management c)).addSubnets ↔
      ∃ subnetId networkId, wanted.subnets.get? subnetId = some networkId ∧
        (∀ n, ¬ s.Reached management c subnetId n) ∧
        change = ⟨subnetId, networkId, namedPort s management c networkId⟩ := by
  simp only [between, List.mem_map, List.mem_filter, Prod.exists, IdMap.mem_entries_iff,
    Bool.not_eq_true', contains_pluggedSubnets, subnetChange_attached]
  constructor
  · intro h
    obtain ⟨subnetId, networkId, ⟨hwanted, hreached⟩, rfl⟩ := h
    exact ⟨subnetId, networkId, hwanted, hreached, rfl⟩
  · intro h
    obtain ⟨subnetId, networkId, hwanted, hreached, rfl⟩ := h
    exact ⟨subnetId, networkId, ⟨hwanted, hreached⟩, rfl⟩

/-- A subnet is removed if it is reached and not wanted; the last port on the network is named. -/
theorem mem_deleteSubnets (hs : s.Sound) {change : SubnetChange} :
    change ∈ (between amphora wanted (s.attached management c)).deleteSubnets ↔
      ∃ subnetId networkId p, networkId ∉ management ∧ s.carrier c networkId = some p ∧
        p.hasSubnet subnetId ∧ wanted.subnets.get? subnetId = none ∧
        change = ⟨subnetId, networkId, some p.id⟩ := by
  simp only [between, List.mem_map, List.mem_filter, Prod.exists, IdMap.mem_entries_iff,
    Bool.not_eq_true', get?_pluggedSubnets hs, IdMap.contains_eq_false_iff,
    subnetChange_attached]
  constructor
  · intro h
    obtain ⟨subnetId, networkId, ⟨⟨hn, p, hp, hsubnet⟩, hwanted⟩, rfl⟩ := h
    exact ⟨subnetId, networkId, p, hn, hp, hsubnet, hwanted, by simp [namedPort, hn, hp]⟩
  · intro h
    obtain ⟨subnetId, networkId, p, hn, hp, hsubnet, hwanted, rfl⟩ := h
    exact ⟨subnetId, networkId, ⟨⟨hn, p, hp, hsubnet⟩, hwanted⟩, by simp [namedPort, hn, hp]⟩

/-- No network is named twice among the interfaces to be added. -/
theorem addNics_nodup (plugged : IdMap Interface) :
    ((between amphora wanted plugged).addNics.map (·.networkId)).Nodup := by
  have hmap : (between amphora wanted plugged).addNics.map (·.networkId) =
      wanted.networks.filter fun id => !plugged.contains id := by
    simp [between, newNic, Function.comp_def]
  rw [hmap]
  exact (IdMap.keys_nodup _).filter _

/-- No network is named twice among the interfaces to be removed. -/
theorem deleteNics_nodup :
    ((between amphora wanted (s.attached management c)).deleteNics.map (·.networkId)).Nodup := by
  have hsub : ((between amphora wanted (s.attached management c)).deleteNics.map
      (·.networkId)).Sublist ((s.attached management c).values.map (·.networkId)) := by
    simp only [between, List.map_map]
    exact List.filter_sublist.map _
  exact (map_networkId_attached ▸ hsub).nodup (IdMap.keys_nodup _)

end Delta

end AmphoraWiring
