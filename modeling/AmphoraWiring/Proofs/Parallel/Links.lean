import AmphoraWiring.Proofs.Delta.Entries
import AmphoraWiring.Proofs.Substrate.Places

/-!
What a delta makes of an instance, told without the ids and addresses that are only chosen on the
way. A port is known by its id if it was there in the beginning, and by its network otherwise.
-/
namespace AmphoraWiring

open Substrate

/-- How an instance is attached by one of its ports. A new port has no id here. -/
structure Link where
  portId : Option String
  networkId : String
  subnetIds : List String
  vnicType : VnicType
deriving DecidableEq, Repr

/-- The link of a port, where `former` are the ids of the ports that were there before. -/
def Port.link (former : List String) (p : Port) : Link where
  portId := if p.id ∈ former then some p.id else none
  networkId := p.networkId
  subnetIds := p.fixedIps.map (·.subnetId)
  vnicType := p.vnicType

/-- The links of an instance in the order in which its ports were plugged in. -/
def Substrate.links (s : Substrate) (former : List String) (c : String) : List Link :=
  (s.pluggedPorts c).map (Port.link former)

namespace Link

/-- What tells a link from the other ones of its instance. -/
def key (l : Link) : Option String × String := (l.portId, l.networkId)

/-- A new interface begins with the first of its subnets. -/
def ofNic (nic : Interface) : Link where
  portId := none
  networkId := nic.networkId
  subnetIds := (nic.fixedIps.take 1).map (·.subnetId)
  vnicType := nic.vnicType

def gain (subnetId : String) (l : Link) : Link :=
  if subnetId ∈ l.subnetIds then l else { l with subnetIds := l.subnetIds ++ [subnetId] }

def lose (subnetId : String) (keeps : Bool) (l : Link) : Link :=
  if keeps then l else { l with subnetIds := l.subnetIds.filter fun id => id ≠ subnetId }

theorem mem_gain {subnetId other : String} {l : Link} (h : other ∈ l.subnetIds) :
    other ∈ (l.gain subnetId).subnetIds := by
  unfold gain
  split
  · exact h
  · exact List.mem_append_left _ h

/-- The change is about the link. -/
def Concerns (change : SubnetChange) (l : Link) : Prop :=
  l.key = (change.portId, change.networkId)

instance (change : SubnetChange) (l : Link) : Decidable (Concerns change l) :=
  inferInstanceAs (Decidable (_ = _))

@[simp] theorem key_gain (subnetId : String) (l : Link) : (l.gain subnetId).key = l.key := by
  unfold gain
  split <;> rfl

@[simp] theorem key_lose (subnetId : String) (keeps : Bool) (l : Link) :
    (l.lose subnetId keeps).key = l.key := by
  unfold lose
  split <;> rfl

end Link

theorem Port.key_link_old {former : List String} {p : Port} (h : p.id ∈ former) :
    (p.link former).key = (some p.id, p.networkId) := by
  simp only [link, Link.key, if_pos h]

theorem Port.key_link_new {former : List String} {p : Port} (h : p.id ∉ former) :
    (p.link former).key = (none, p.networkId) := by
  simp only [link, Link.key, if_neg h]

theorem Port.hasSubnet_iff_mem_link {former : List String} {p : Port} {subnetId : String} :
    p.hasSubnet subnetId ↔ subnetId ∈ (p.link former).subnetIds := by
  simp [hasSubnet_iff, link]

namespace Delta

/-- The links of an instance after a subnet was added. -/
def addLinked (links : List Link) (change : SubnetChange) : List Link :=
  links.map fun l => if l.Concerns change then l.gain change.subnetId else l

/-- The links of an instance after a subnet was removed. -/
def loseLinked (s : Substrate) (links : List Link) (change : SubnetChange) : List Link :=
  links.map fun l =>
    if l.Concerns change then l.lose change.subnetId (s.keepsAddresses change.subnetId) else l

/-- The links of an instance after an interface was removed. -/
def dropLinked (links : List Link) (nic : Interface) : List Link :=
  links.filter fun l => l.networkId ≠ nic.networkId

/-- What a delta makes of the links of its instance. -/
def linked (delta : Delta) (s : Substrate) (links : List Link) : List Link :=
  delta.deleteNics.foldl dropLinked
    (delta.deleteSubnets.foldl (loseLinked s)
      (delta.addSubnets.foldl addLinked (links ++ delta.addNics.map Link.ofNic)))

theorem keys_addLinked (links : List Link) (change : SubnetChange) :
    (addLinked links change).map Link.key = links.map Link.key := by
  unfold addLinked
  rw [List.map_map]
  apply List.map_congr_left
  intro l _
  simp only [Function.comp_apply]
  split
  · exact l.key_gain _
  · rfl

theorem keys_loseLinked (s : Substrate) (links : List Link) (change : SubnetChange) :
    (loseLinked s links change).map Link.key = links.map Link.key := by
  unfold loseLinked
  rw [List.map_map]
  apply List.map_congr_left
  intro l _
  simp only [Function.comp_apply]
  split
  · exact l.key_lose _ _
  · rfl

theorem keys_dropLinked (links : List Link) (nic : Interface) :
    ((dropLinked links nic).map Link.key).Sublist (links.map Link.key) :=
  List.filter_sublist.map _

/-- The ports that a delta gives up. -/
def givenUp (delta : Delta) : List String := delta.deleteNics.filterMap (·.portId)

/-- How many addresses of a subnet a delta asks for. -/
def asked (delta : Delta) (subnetId : String) : Nat :=
  (delta.addSubnets.map (·.subnetId)).count subnetId

/-- The links that the instance has in the end unless subnets and interfaces are removed, which are
also those that a change of a subnet can be about. -/
def begun (delta : Delta) (s : Substrate) (c : String) : List Link :=
  s.links (s.pluggedPortIds c) c ++ delta.addNics.map Link.ofNic

/-- The entries of a delta fit together and fit what the instance carries: every new interface has
its network and begins with a subnet that is to be added there; subnets are added and removed at
links that the instance has or is to get, those of one network at the same link; and an interface
to be removed is there, and no new one is on its network. -/
structure Coherent (delta : Delta) (s : Substrate) (c : String) : Prop where
  nics : ∀ nic ∈ delta.addNics, (∃ network, s.networks.get? nic.networkId = some network) ∧
    ∃ subnetId, nic.fixedIps.take 1 = [{ subnetId }] ∧ s.Registered subnetId nic.networkId ∧
      ⟨subnetId, nic.networkId, none⟩ ∈ delta.addSubnets
  nics_nodup : (delta.addNics.map (·.networkId)).Nodup
  registered : ∀ change ∈ delta.addSubnets, s.Registered change.subnetId change.networkId
  together : ∀ change ∈ delta.addSubnets, ∀ change' ∈ delta.addSubnets,
    change'.networkId = change.networkId → change'.portId = change.portId
  concerned : ∀ change ∈ delta.addSubnets ++ delta.deleteSubnets,
    (change.portId, change.networkId) ∈ (delta.begun s c).map Link.key
  lost : ∀ change ∈ delta.deleteSubnets, ∃ id, change.portId = some id
  subnets_nodup : (delta.addSubnets.map (·.subnetId)).Nodup
  given_up : ∀ nic ∈ delta.deleteNics,
    (∃ id, nic.portId = some id ∧ (some id, nic.networkId) ∈ (delta.begun s c).map Link.key) ∧
    (none, nic.networkId) ∉ (delta.begun s c).map Link.key

section

variable {delta : Delta} {s : Substrate} {c networkId : String}

/-- The links of the ports that the instance has are named by these, those of new interfaces by
none. -/
theorem keys_begun (hs : s.Sound) : (delta.begun s c).map Link.key =
    ((s.places c).map fun e => (some e.1, e.2)) ++
      delta.addNics.map fun nic => (none, nic.networkId) := by
  rw [begun, List.map_append, links, places, List.map_map, List.map_map, List.map_map]
  congr 1
  apply List.map_congr_left
  intro p hp
  exact Port.key_link_old (hs.mem_pluggedPorts.mp hp).1

theorem named_mem_begun (hs : s.Sound) {id : String} :
    (some id, networkId) ∈ (delta.begun s c).map Link.key ↔
      ∃ p ∈ s.pluggedPorts c, p.id = id ∧ p.networkId = networkId := by
  simp [keys_begun hs, places, place]

theorem unnamed_mem_begun (hs : s.Sound) : (none, networkId) ∈ (delta.begun s c).map Link.key ↔
    ∃ nic ∈ delta.addNics, nic.networkId = networkId := by
  simp [keys_begun hs]

/-- The port by which the instance is on a network is one of its links from the beginning. -/
theorem carrier_mem_begun (hs : s.Sound) {p : Port} (hp : s.carrier c networkId = some p) :
    (some p.id, networkId) ∈ (delta.begun s c).map Link.key :=
  (named_mem_begun hs).mpr ⟨p, List.mem_of_mem_filter (carrier_mem hp), rfl, carrier_networkId hp⟩

/-- No two links of the instance have the same key. -/
theorem Coherent.keys_nodup (h : delta.Coherent s c) (hs : s.Sound) :
    ((delta.begun s c).map Link.key).Nodup := by
  rw [keys_begun hs, List.nodup_append]
  refine ⟨?_, ?_, ?_⟩
  · refine List.Nodup.map ?_ (List.Nodup.of_map (·.1) (hs.places_ids c ▸ hs.nodup c))
    intro e e' heq
    obtain ⟨hid, hnetwork⟩ := Prod.mk.inj heq
    exact Prod.ext (Option.some.inj hid) hnetwork
  · refine List.Nodup.of_map Prod.snd ?_
    rw [List.map_map]
    exact h.nics_nodup
  · intro k hk k' hk' heq
    obtain ⟨e, -, rfl⟩ := List.mem_map.mp hk
    obtain ⟨nic, -, rfl⟩ := List.mem_map.mp hk'
    cases heq

end

section

variable {s : Substrate} {management : List String} {lb : LoadBalancer} {amphora : Amphora}

theorem addSubnets_nodup (wanted : Topology) (plugged : IdMap Interface) :
    ((between amphora wanted plugged).addSubnets.map (·.subnetId)).Nodup := by
  have hsub : ((between amphora wanted plugged).addSubnets.map (·.subnetId)).Sublist
      wanted.subnets.keys := by
    simp only [between, List.map_map]
    exact List.filter_sublist.map _
  exact hsub.nodup (IdMap.keys_nodup _)

/-- A new interface begins with a subnet that is then added to it: where an interface is missing,
no subnet of the network is reached. -/
theorem exists_first_subnet {wanted : Topology} {c : String} {nic : Interface} (hs : s.Sound)
    (hregistered : ∀ {subnetId networkId}, wanted.subnets.get? subnetId = some networkId →
      s.Registered subnetId networkId)
    (hnic : nic ∈ (between amphora wanted (s.attached management c)).addNics) :
    ∃ subnetId, nic.fixedIps.take 1 = [{ subnetId }] ∧ s.Registered subnetId nic.networkId ∧
      ⟨subnetId, nic.networkId, none⟩ ∈
        (between amphora wanted (s.attached management c)).addSubnets := by
  have hunnamed := namedPort_of_mem_addNics hnic
  obtain ⟨networkId, hnetwork, hvacant, rfl⟩ := mem_addNics.mp hnic
  change namedPort s management c networkId = none at hunnamed
  rcases hsubnets : wanted.subnetsOn networkId with _ | ⟨subnetId, rest⟩
  · exact absurd hsubnets (Topology.subnetsOn_ne_nil hnetwork)
  have hsubnet : wanted.subnets.get? subnetId = some networkId :=
    Topology.mem_subnetsOn.mp (by simp [hsubnets])
  refine ⟨subnetId, by simp [newNic, hsubnets], hregistered hsubnet, ?_⟩
  refine mem_addSubnets.mpr ⟨subnetId, networkId, hsubnet, ?_, ?_⟩
  · intro n hreached
    obtain ⟨hmanagement, p, hp, hhas⟩ := hreached
    have hon := (hs.registered (carrier_mem hp) hhas).unique (hregistered hsubnet)
    subst hon
    rw [carrier_eq_none.mpr (hvacant.resolve_left hmanagement)] at hp
    cases hp
  · rw [hunnamed]
    rfl

/-- A subnet is added where the instance has a link or is to get one. -/
theorem addSubnets_concern {wanted : Topology} {c : String} {change : SubnetChange} (hs : s.Sound)
    (hchange : change ∈ (between amphora wanted (s.attached management c)).addSubnets) :
    (change.portId, change.networkId) ∈
      ((between amphora wanted (s.attached management c)).begun s c).map Link.key := by
  obtain ⟨subnetId, networkId, hsubnet, -, rfl⟩ := mem_addSubnets.mp hchange
  rcases hnamed : namedPort s management c networkId with _ | id
  · have hnetwork : networkId ∈ wanted.networks := Topology.mem_networks.mpr ⟨subnetId, hsubnet⟩
    have hvacant := namedPort_eq_none.mp hnamed
    exact (unnamed_mem_begun hs).mpr
      ⟨newNic wanted networkId, mem_addNics.mpr ⟨networkId, hnetwork, hvacant, rfl⟩, rfl⟩
  · obtain ⟨-, p, hp, rfl⟩ := namedPort_eq_some.mp hnamed
    exact carrier_mem_begun hs hp

/-- A computed delta is coherent if what is wanted exists. -/
theorem coherent_delta (hs : s.Sound) (hanswered : s.Answered lb)
    (hwanted : ∀ {subnetId networkId}, s.Wanted lb subnetId networkId →
      s.Registered subnetId networkId)
    (hnetworked : ∀ {id subnet}, s.subnets.get? id = some subnet →
      ∃ network, s.networks.get? subnet.networkId = some network) :
    (s.delta management lb amphora).Coherent s amphora.instanceId := by
  have hget : ∀ {subnetId networkId}, (s.desired lb).subnets.get? subnetId = some networkId →
      s.Registered subnetId networkId :=
    fun h => hwanted ((get?_subnets_desired hanswered).mp h)
  constructor
  case nics =>
    intro nic hnic
    obtain ⟨subnetId, hfirst, hregistered, hadded⟩ := exists_first_subnet hs hget hnic
    have hexists : ∃ network, s.networks.get? nic.networkId = some network := by
      obtain ⟨subnet, hsubnet, hnetwork⟩ := hregistered
      exact hnetwork ▸ hnetworked hsubnet
    exact ⟨hexists, subnetId, hfirst, hregistered, hadded⟩
  case nics_nodup => exact addNics_nodup _
  case registered =>
    intro change hchange
    obtain ⟨subnetId, networkId, hsubnet, -, rfl⟩ := mem_addSubnets.mp hchange
    exact hget hsubnet
  case together =>
    intro change hchange change' hchange' hsame
    obtain ⟨subnetId, networkId, -, -, rfl⟩ := mem_addSubnets.mp hchange
    obtain ⟨subnetId', networkId', -, -, rfl⟩ := mem_addSubnets.mp hchange'
    exact congrArg (namedPort s management amphora.instanceId) hsame
  case concerned =>
    intro change hchange
    rcases List.mem_append.mp hchange with hchange | hchange
    · exact addSubnets_concern hs hchange
    · obtain ⟨subnetId, networkId, p, -, hp, -, -, rfl⟩ := (mem_deleteSubnets hs).mp hchange
      exact carrier_mem_begun hs hp
  case lost =>
    intro change hchange
    obtain ⟨subnetId, networkId, p, -, -, -, -, rfl⟩ := (mem_deleteSubnets hs).mp hchange
    exact ⟨p.id, rfl⟩
  case subnets_nodup => exact addSubnets_nodup _ _
  case given_up =>
    intro nic hnic
    obtain ⟨networkId, p, -, hunwanted, hp, rfl⟩ := mem_deleteNics.mp hnic
    constructor
    · have hsame : (staleNic p.toInterface).networkId = networkId := carrier_networkId hp
      exact ⟨p.id, rfl, hsame ▸ carrier_mem_begun hs hp⟩
    · intro hmem
      obtain ⟨nic', hnic', hnetwork⟩ := (unnamed_mem_begun hs).mp hmem
      obtain ⟨n, hn, -, rfl⟩ := mem_addNics.mp hnic'
      have hsame : n = networkId := hnetwork.trans (carrier_networkId hp)
      exact hunwanted (hsame ▸ hn)

end

end Delta

end AmphoraWiring
