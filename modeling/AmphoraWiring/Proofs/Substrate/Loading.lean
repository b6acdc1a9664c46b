import AmphoraWiring.Proofs.Substrate.SeededInstances

/-!
A snapshot is loaded as it describes the substrate: exactly if its interfaces can be had on its
networks and subnets, and then each instance has the interfaces that are listed for it.
-/
namespace AmphoraWiring

namespace Snapshot

variable {snapshot : Snapshot}

/-- The interfaces of all instances. -/
def interfaces (snapshot : Snapshot) : List Interface := snapshot.instances.entries.flatMap (·.2)

/-- The network is declared, or implied by a subnet on it. -/
def HasNetwork (snapshot : Snapshot) (id : String) : Prop :=
  (∃ network ∈ snapshot.networks, network.id = id) ∨
    ∃ subnet ∈ snapshot.subnets, subnet.networkId = id

def Registers (snapshot : Snapshot) (subnetId networkId : String) : Prop :=
  ∃ subnet ∈ snapshot.subnets, subnet.id = subnetId ∧ subnet.networkId = networkId

/-- The subnets that the network is declared with; the last declaration counts. -/
def declaredSubnets (snapshot : Snapshot) (networkId : String) : List String :=
  ((snapshot.networks.reverse.find? fun network => network.id = networkId).map (·.subnets)).getD []

/-- The first subnet that the network is declared with, or else the first one that is on it. -/
def firstSubnet? (snapshot : Snapshot) (networkId : String) : Option String :=
  (snapshot.declaredSubnets networkId).head?.or
    ((snapshot.subnets.find? fun subnet => subnet.networkId = networkId).map (·.id))

/-- The addresses that the interface is to have: those that it names, or any one on the first
subnet of its network. -/
def wishesOf (snapshot : Snapshot) (i : Interface) : List FixedIp :=
  if i.fixedIps.isEmpty then
    (snapshot.firstSubnet? i.networkId).toList.map fun id => { subnetId := id }
  else i.fixedIps

/-- The network of the interface exists, and what it is to have is on subnets of that network. -/
def Describes (snapshot : Snapshot) (i : Interface) : Prop :=
  snapshot.HasNetwork i.networkId ∧
    ∀ wish ∈ snapshot.wishesOf i, snapshot.Registers wish.subnetId i.networkId

/-- No subnet runs out of addresses. -/
def Suffices (snapshot : Snapshot) : Prop :=
  ∀ subnet ∈ snapshot.subnets, ∀ cidr, subnet.cidr = some cidr → ∀ n, 0 < n →
    n ≤ owed (snapshot.interfaces.flatMap snapshot.wishesOf) subnet.id → (cidr.host? n).isSome

/-- Ids are not used twice. -/
structure Distinct (snapshot : Snapshot) : Prop where
  named : (snapshot.interfaces.filterMap (·.portId)).Nodup
  drawn : ∀ id ∈ snapshot.interfaces.filterMap (·.portId), ∀ n, 0 < n →
    n ≤ snapshot.interfaces.length → id ≠ drawnId n
  subnets : (snapshot.subnets.map (·.id)).Nodup

/-- What is shown of an interface of the snapshot. -/
structure Shows (snapshot : Snapshot) (i shown : Interface) : Prop where
  networkId : shown.networkId = i.networkId
  vnicType : shown.vnicType = i.vnicType
  portId : ∃ id, shown.portId = some id ∧ ∀ given ∈ i.portId, id = given
  fixedIps : List.Forall₂ (fun wish ip => ∃ subnet ∈ snapshot.subnets,
    subnet.id = wish.subnetId ∧ subnet.networkId = i.networkId ∧ subnet.Fulfils wish ip)
    (snapshot.wishesOf i) shown.fixedIps

end Snapshot

namespace Substrate

open Action

variable {s t : Substrate} {snapshot : Snapshot}

/-! Networks and subnets -/

/-- The substrate with the networks and subnets of the snapshot. -/
def laidOut (snapshot : Snapshot) : Substrate :=
  snapshot.subnets.foldl addSubnet
    (snapshot.networks.foldl addNetwork { securityGroupsEnabled := snapshot.securityGroupsEnabled })

/-- Of several networks with one id the last one counts. -/
theorem get?_foldl_addNetwork (networks : List Network) (s : Substrate) (id : String) :
    (networks.foldl addNetwork s).networks.get? id =
      (networks.reverse.find? fun network => network.id = id).or (s.networks.get? id) := by
  induction networks generalizing s with
  | nil => rfl
  | cons network networks ih =>
    rw [List.foldl_cons, ih, List.reverse_cons, List.find?_append, Option.or_assoc]
    congr 1
    rw [addNetwork, IdMap.get?_insert, List.find?_singleton]
    by_cases h : network.id = id
    · simp [h]
    · simp [h, Ne.symm h]

/-- A subnet comes last in its network, which is made if it is unknown. -/
theorem get?_networks_addSubnet (s : Substrate) (subnet : Subnet) :
    ∃ network, (∀ id, (s.addSubnet subnet).networks.get? id =
        if id = subnet.networkId then some network else s.networks.get? id) ∧
      network.subnets.head? = (s.firstSubnet? subnet.networkId).or (some subnet.id) := by
  have hlast : ∀ network : Network,
      (if network.subnets.contains subnet.id then network
        else { network with subnets := network.subnets ++ [subnet.id] }).subnets.head? =
        network.subnets.head?.or (some subnet.id) := by
    intro network
    split
    next hcontains =>
      cases hsubnets : network.subnets with
      | nil => simp [hsubnets] at hcontains
      | cons => rfl
    next => rw [List.head?_append, List.head?_singleton]
  refine ⟨_, fun id => IdMap.get?_insert _ _ _ _, (hlast _).trans ?_⟩
  unfold firstSubnet?
  cases s.networks.get? subnet.networkId <;> rfl

/-- A subnet brings its network along. -/
theorem contains_foldl_addSubnet (subnets : List Subnet) (s : Substrate) (id : String) :
    (subnets.foldl addSubnet s).networks.contains id ↔
      s.networks.contains id ∨ ∃ subnet ∈ subnets, subnet.networkId = id := by
  induction subnets generalizing s with
  | nil => simp
  | cons subnet subnets ih =>
    obtain ⟨network, hget, -⟩ := get?_networks_addSubnet s subnet
    rw [List.foldl_cons, ih, List.exists_mem_cons_iff, ← or_assoc, IdMap.contains, hget]
    by_cases h : subnet.networkId = id
    · simp [h]
    · simp [h, Ne.symm h, IdMap.contains]

/-- The first subnet of a network is the first one that was added to it. -/
theorem firstSubnet?_foldl_addSubnet (subnets : List Subnet) (s : Substrate) (id : String) :
    (subnets.foldl addSubnet s).firstSubnet? id =
      (s.firstSubnet? id).or
        ((subnets.find? fun subnet => subnet.networkId = id).map (·.id)) := by
  induction subnets generalizing s with
  | nil => simp
  | cons subnet subnets ih =>
    obtain ⟨network, hget, hhead⟩ := get?_networks_addSubnet s subnet
    have hstep : (s.addSubnet subnet).firstSubnet? id =
        if id = subnet.networkId then (s.firstSubnet? id).or (some subnet.id)
        else s.firstSubnet? id := by
      rw [firstSubnet?, hget]
      split
      next heq => rw [Option.bind_some, hhead, heq]
      next => rfl
    rw [List.foldl_cons, ih, hstep]
    by_cases h : subnet.networkId = id
    · simp [h]
    · simp [h, Ne.symm h]

/-- Where ids are distinct each subnet is stored under its own. -/
theorem get?_foldl_addSubnet {subnets : List Subnet} (hnodup : (subnets.map (·.id)).Nodup)
    (s : Substrate) {id : String} {subnet : Subnet} :
    (subnets.foldl addSubnet s).subnets.get? id = some subnet ↔
      (subnet ∈ subnets ∧ subnet.id = id) ∨
        (∀ other ∈ subnets, other.id ≠ id) ∧ s.subnets.get? id = some subnet := by
  induction subnets generalizing s with
  | nil => simp
  | cons first subnets ih =>
    obtain ⟨hfirst, hnodup⟩ := List.nodup_cons.mp hnodup
    have hnot : ∀ other ∈ subnets, other.id ≠ first.id := fun other hmem heq =>
      hfirst (List.mem_map.mpr ⟨other, hmem, heq⟩)
    have hstep : (s.addSubnet first).subnets.get? id =
        if id = first.id then some first else s.subnets.get? id := IdMap.get?_insert _ _ _ _
    rw [List.foldl_cons, ih hnodup, hstep, List.mem_cons, List.forall_mem_cons]
    by_cases h : id = first.id
    · subst h
      simp only [if_true, Option.some.injEq, ne_eq, not_true_eq_false, false_and, or_false]
      constructor
      · rintro (⟨hmem, hid⟩ | ⟨-, rfl⟩)
        · exact ⟨.inr hmem, hid⟩
        · exact ⟨.inl rfl, rfl⟩
      · rintro ⟨rfl | hmem, hid⟩
        · exact .inr ⟨hnot, rfl⟩
        · exact .inl ⟨hmem, hid⟩
    · simp only [h, if_false, ne_eq, Ne.symm h, not_false_eq_true, true_and]
      refine or_congr_left (and_congr_left fun hid => ?_)
      have hne : subnet ≠ first := fun heq => h (heq ▸ hid.symm)
      exact (or_iff_right hne).symm

theorem foldl_addNetwork_rest (networks : List Network) (s : Substrate) :
    ∃ m, networks.foldl addNetwork s = { s with networks := m } := by
  induction networks generalizing s with
  | nil => exact ⟨s.networks, rfl⟩
  | cons network networks ih =>
    obtain ⟨m, hm⟩ := ih (s.addNetwork network)
    exact ⟨m, hm⟩

theorem foldl_addSubnet_rest (subnets : List Subnet) (s : Substrate) :
    ∃ m m', subnets.foldl addSubnet s = { s with networks := m, subnets := m' } := by
  induction subnets generalizing s with
  | nil => exact ⟨s.networks, s.subnets, rfl⟩
  | cons subnet subnets ih =>
    obtain ⟨m, m', hm⟩ := ih (s.addSubnet subnet)
    exact ⟨m, m', hm⟩

/-- There is nothing but networks and subnets. -/
theorem laidOut_rest (snapshot : Snapshot) : ∃ networks subnets, laidOut snapshot =
    { securityGroupsEnabled := snapshot.securityGroupsEnabled, networks, subnets } := by
  obtain ⟨m, hm⟩ := foldl_addNetwork_rest snapshot.networks
    { securityGroupsEnabled := snapshot.securityGroupsEnabled }
  obtain ⟨m', m'', hm'⟩ := foldl_addSubnet_rest snapshot.subnets
    { securityGroupsEnabled := snapshot.securityGroupsEnabled, networks := m }
  exact ⟨m', m'', by rw [laidOut, hm, hm']⟩

theorem allocated_laidOut (snapshot : Snapshot) (id : String) :
    (laidOut snapshot).allocated id = 0 := by
  obtain ⟨networks, subnets, h⟩ := laidOut_rest snapshot
  rw [h]
  rfl

theorem contains_laidOut (snapshot : Snapshot) (id : String) :
    (laidOut snapshot).networks.contains id ↔ snapshot.HasNetwork id := by
  have hdeclared : (snapshot.networks.reverse.find? fun network => network.id = id).isSome ↔
      ∃ network ∈ snapshot.networks, network.id = id := by
    simp [List.find?_isSome]
  rw [laidOut, contains_foldl_addSubnet, IdMap.contains, get?_foldl_addNetwork,
    Snapshot.HasNetwork, ← hdeclared]
  refine or_congr_left ?_
  rw [show ({ securityGroupsEnabled := snapshot.securityGroupsEnabled } :
    Substrate).networks.get? id = none from rfl, Option.or_none]

theorem firstSubnet?_laidOut (snapshot : Snapshot) (networkId : String) :
    (laidOut snapshot).firstSubnet? networkId = snapshot.firstSubnet? networkId := by
  rw [laidOut, firstSubnet?_foldl_addSubnet, Snapshot.firstSubnet?, Snapshot.declaredSubnets]
  congr 1
  rw [firstSubnet?, get?_foldl_addNetwork]
  cases snapshot.networks.reverse.find? fun network => network.id = networkId <;> rfl

theorem wishesOf_laidOut (snapshot : Snapshot) :
    (laidOut snapshot).wishesOf = snapshot.wishesOf := by
  funext i
  rw [wishesOf, firstSubnet?_laidOut, Snapshot.wishesOf]

theorem get?_subnets_laidOut (h : snapshot.Distinct) {id : String} {subnet : Subnet} :
    (laidOut snapshot).subnets.get? id = some subnet ↔
      subnet ∈ snapshot.subnets ∧ subnet.id = id := by
  rw [laidOut, get?_foldl_addSubnet h.subnets]
  refine or_iff_left fun hold => ?_
  obtain ⟨m, hm⟩ := foldl_addNetwork_rest snapshot.networks
    { securityGroupsEnabled := snapshot.securityGroupsEnabled }
  rw [hm] at hold
  cases hold.2

/-- The subnets are registered on the networks that the snapshot says. -/
theorem registered_laidOut (h : snapshot.Distinct) (subnetId networkId : String) :
    (laidOut snapshot).Registered subnetId networkId ↔ snapshot.Registers subnetId networkId := by
  unfold Registered Snapshot.Registers
  simp only [get?_subnets_laidOut h, and_assoc]

/-- The interfaces can be seeded if the snapshot describes each of them and its ranges suffice for
all. -/
theorem seedable_laidOut_iff (h : snapshot.Distinct) :
    (laidOut snapshot).Seedable snapshot.interfaces ↔
      (∀ i ∈ snapshot.interfaces, snapshot.Describes i) ∧ snapshot.Suffices := by
  have hroom : (∀ id, (laidOut snapshot).Room id
      (owed (snapshot.interfaces.flatMap (laidOut snapshot).wishesOf) id)) ↔
        snapshot.Suffices := by
    unfold Room Snapshot.Suffices
    simp only [allocated_laidOut, get?_subnets_laidOut h, wishesOf_laidOut, Nat.zero_add]
    constructor
    · intro hroom subnet hmem cidr hcidr n hlow hhigh
      exact hroom subnet.id subnet cidr ⟨hmem, rfl⟩ hcidr n hlow hhigh
    · intro hsuffices id subnet cidr hsubnet hcidr n hlow hhigh
      obtain ⟨hmem, rfl⟩ := hsubnet
      exact hsuffices subnet hmem cidr hcidr n hlow hhigh
  constructor
  · intro hseedable
    refine ⟨fun i hi => ⟨?_, fun wish hwish => ?_⟩, hroom.mp hseedable.room⟩
    · exact (contains_laidOut snapshot _).mp (hseedable.network i hi)
    · rw [← wishesOf_laidOut] at hwish
      exact (registered_laidOut h _ _).mp (hseedable.registered i hi wish hwish)
  · intro ⟨hdescribes, hsuffices⟩
    refine ⟨fun i hi => ?_, fun i hi wish hwish => ?_, hroom.mpr hsuffices⟩
    · exact (contains_laidOut snapshot _).mpr (hdescribes i hi).1
    · rw [wishesOf_laidOut] at hwish
      exact (registered_laidOut h _ _).mpr ((hdescribes i hi).2 wish hwish)

theorem ready_laidOut (h : snapshot.Distinct) :
    (laidOut snapshot).Ready snapshot.interfaces := by
  obtain ⟨networks, subnets, hrest⟩ := laidOut_rest snapshot
  rw [hrest]
  constructor
  case exists_port =>
    intro c id hid
    cases hid
  case undrawn => exact fun n _ _ => rfl
  case unused => exact fun id _ => rfl
  case apart =>
    intro id hid n hlow hhigh
    rw [Nat.zero_add] at hhigh
    exact h.drawn id hid n hlow hhigh
  case nodup => exact h.named

/-- The port of a seeded interface is shown as the snapshot has it. -/
theorem Backs.shows (h : snapshot.Distinct) {i : Interface} {p : Port}
    (hp : (laidOut snapshot).Backs i p) : snapshot.Shows i p.toInterface where
  networkId := hp.networkId
  vnicType := hp.vnicType
  portId := ⟨p.id, rfl, hp.portId⟩
  fixedIps := by
    have hips := hp.fixedIps
    rw [wishesOf_laidOut] at hips
    refine hips.imp fun wish ip hfulfils => ?_
    obtain ⟨subnet, hsubnet, hnetwork, hfulfils⟩ := hfulfils
    obtain ⟨hmem, hid⟩ := (get?_subnets_laidOut h).mp hsubnet
    exact ⟨subnet, hmem, hid, hnetwork, hfulfils⟩

theorem interfacesOf_placed_cons (c k : String) (interfaces : List Interface)
    (instances : List (String × List Interface)) :
    interfacesOf c (placed ((k, interfaces) :: instances)) =
      (if k = c then interfaces else []) ++ interfacesOf c (placed instances) := by
  by_cases h : k = c <;>
    simp [interfacesOf, placed, List.filter_map, Function.comp_def, h]

/-- Each instance is seeded with its own interfaces. -/
theorem interfacesOf_placed {instances : List (String × List Interface)}
    (hascending : instances.Pairwise fun a b => a.1 < b.1) (c : String) :
    interfacesOf c (placed instances) = (IdMap.lookup c instances).getD [] := by
  induction instances with
  | nil => rfl
  | cons e instances ih =>
    obtain ⟨k, interfaces⟩ := e
    obtain ⟨hfirst, hascending⟩ := List.pairwise_cons.mp hascending
    rw [interfacesOf_placed_cons, ih hascending, IdMap.lookup]
    split
    next heq =>
      have hnone : IdMap.lookup c instances = none := by
        refine IdMap.lookup_eq_none fun e he hsame => ?_
        have hlt : k < e.1 := hfirst e he
        rw [heq, hsame] at hlt
        exact String.lt_irrefl c hlt
      rw [hnone, Option.getD_none, List.append_nil, Option.getD_some]
    next => rfl

/-! Loading -/

/-- Loading fails only if the interfaces cannot all be seeded. -/
theorem ends_load (h : snapshot.Distinct) : (load snapshot).Ends {}
    (fun _ t => (laidOut snapshot).Seeding t (placed snapshot.instances.entries) ∧
      ∀ e ∈ snapshot.instances.entries, t.plugged.contains e.1)
    fun _ _ => ¬ (laidOut snapshot).Seedable snapshot.interfaces :=
  ends_modify (ends_seedInstances (ready_laidOut h))

/-- A snapshot is loaded into an empty substrate. -/
theorem ofSnapshot_eq_ok_iff : ofSnapshot snapshot = .ok s ↔
    (load snapshot).runOn {} = (.ok (), s) := by
  unfold ofSnapshot
  rcases (load snapshot).runOn {} with ⟨e | ⟨⟩, t⟩ <;> simp

/-- What is shown of the interfaces of an instance after loading. -/
theorem Seeding.shows (h : snapshot.Distinct)
    (hseeding : (laidOut snapshot).Seeding s (placed snapshot.instances.entries)) {c : String}
    (hhosted : s.plugged.contains c) {interfaces : List Interface}
    (hc : snapshot.instances.get? c = some interfaces) :
    ∃ shown t, (getPluggedNetworks c).runOn s = (.ok shown, t) ∧
      List.Forall₂ snapshot.Shows interfaces shown := by
  obtain ⟨networks, subnets, hrest⟩ := laidOut_rest snapshot
  have hquiet : s.faults = [] := hseeding.faults_nil (by rw [hrest])
  have hempty : (laidOut snapshot).pluggedPorts c = [] := by
    rw [hrest]
    rfl
  have hlisted : interfacesOf c (placed snapshot.instances.entries) = interfaces := by
    rw [interfacesOf_placed snapshot.instances.ascending]
    change (snapshot.instances.get? c).getD [] = interfaces
    rw [hc, Option.getD_some]
  obtain ⟨ports, hports, hbacks⟩ := hseeding.plugged c
  rw [hempty, List.nil_append] at hports
  rw [hlisted] at hbacks
  have hends := ends_getPluggedNetworks c s
  rcases hrun : (getPluggedNetworks c).runOn s with ⟨e | shown, t⟩
  · have hnone := (hends.of_error hrun).2 hquiet
    rw [hhosted] at hnone
    cases hnone
  · obtain ⟨-, rfl, -⟩ := hends.of_ok hrun
    refine ⟨_, t, rfl, ?_⟩
    rw [hports, List.forall₂_map_right_iff]
    exact hbacks.imp fun i p hp => hp.shows h

/-- A snapshot whose ids are distinct can be loaded exactly if each of its interfaces can be had on
its networks and subnets, and no subnet runs out of addresses. Then every instance has the
interfaces that are listed for it, in order. -/
theorem ofSnapshot_faithful (h : snapshot.Distinct) :
    ((∃ s, ofSnapshot snapshot = .ok s) ↔
      (∀ i ∈ snapshot.interfaces, snapshot.Describes i) ∧ snapshot.Suffices) ∧
    ∀ s, ofSnapshot snapshot = .ok s → ∀ c interfaces,
      snapshot.instances.get? c = some interfaces →
        ∃ shown t, (getPluggedNetworks c).runOn s = (.ok shown, t) ∧
          List.Forall₂ snapshot.Shows interfaces shown := by
  have hends := ends_load h
  refine ⟨?_, fun s hs c interfaces hc => ?_⟩
  · rw [← seedable_laidOut_iff h]
    constructor
    · intro ⟨s, hs⟩
      have hseedable := (hends.of_ok (ofSnapshot_eq_ok_iff.mp hs)).1.seedable
      rwa [map_snd_placed] at hseedable
    · intro hseedable
      rcases hrun : (load snapshot).runOn {} with ⟨e | ⟨⟩, s⟩
      · exact absurd hseedable (hends.of_error hrun)
      · exact ⟨s, ofSnapshot_eq_ok_iff.mpr hrun⟩
  · obtain ⟨hseeding, hhosted⟩ := hends.of_ok (ofSnapshot_eq_ok_iff.mp hs)
    exact hseeding.shows h (hhosted (c, interfaces) (IdMap.mem_entries_iff.mpr hc)) hc

/-- One network is declared, and one is implied by a subnet without a range. Addresses are asked for
by name, by subnet and not at all. -/
def sampleSnapshot : Snapshot where
  networks := [{ id := "net-a", subnets := ["subnet-a"] }]
  subnets :=
    [Sample.subnet "subnet-a" "net-a" "10.0.0.0/24", { id := "subnet-b", networkId := "net-b" }]
  instances := .ofList
    [("vm-1", [{ networkId := "net-a", portId := some "port-1" },
       { networkId := "net-b", fixedIps := [{ subnetId := "subnet-b" }] }]),
     ("vm-2", [{ networkId := "net-a",
                 fixedIps := [{ subnetId := "subnet-a", ipAddress := some (.v4 0x0a000009) },
                   { subnetId := "subnet-a" }] }])]

theorem sampleSnapshot_distinct : sampleSnapshot.Distinct := by
  have hnamed : sampleSnapshot.interfaces.filterMap (·.portId) = ["port-1"] := by decide +kernel
  have hlength : sampleSnapshot.interfaces.length = 3 := by decide +kernel
  refine ⟨by rw [hnamed]; decide, ?_, by decide⟩
  have hapart : ∀ n < 4, "port-1" ≠ drawnId n := by decide +kernel
  rw [hnamed, hlength]
  intro id hid n _ hhigh
  rw [List.mem_singleton.mp hid]
  exact hapart n (Nat.lt_succ_of_le hhigh)

/-- An instance with two interfaces, which are listed in their order. -/
theorem ofSnapshot_faithful_sample :
    (∀ i ∈ sampleSnapshot.interfaces, sampleSnapshot.Describes i) ∧ ∃ s interfaces shown t,
      ofSnapshot sampleSnapshot = .ok s ∧
      sampleSnapshot.instances.get? "vm-1" = some interfaces ∧ interfaces.length = 2 ∧
      (getPluggedNetworks "vm-1").runOn s = (.ok shown, t) ∧
      List.Forall₂ sampleSnapshot.Shows interfaces shown := by
  obtain ⟨hloads, hshows⟩ := ofSnapshot_faithful sampleSnapshot_distinct
  obtain ⟨⟨⟩, s, hload⟩ := exists_of_isSome (load sampleSnapshot) {} (by decide +kernel)
  have hs := ofSnapshot_eq_ok_iff.mpr hload
  have hlength : ((sampleSnapshot.instances.get? "vm-1").map List.length) = some 2 := by
    decide +kernel
  obtain ⟨interfaces, hinstance, htwo⟩ := Option.map_eq_some_iff.mp hlength
  obtain ⟨shown, t, hrun, hforall⟩ := hshows s hs "vm-1" interfaces hinstance
  exact ⟨(hloads.mp ⟨s, hs⟩).1, s, interfaces, shown, t, hs, hinstance, htwo, hrun, hforall⟩

end Substrate

end AmphoraWiring
