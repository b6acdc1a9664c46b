import AmphoraWiring.Proofs.Saga.NicChanges

/-!
What a deployment must have so that no change fails: no failure is scripted, the calls to the
repository pass, the networks of all ports exist, and no port is bound under an id that has not
been drawn yet. Every change leaves all this as it is. Apart from it only addresses can be missing,
so the addresses that a change hands out are counted.
-/
namespace AmphoraWiring

namespace Substrate

variable {s t u : Substrate} {c networkId : String}

/-- Between `s` and `t` at most one address was handed out for each listed subnet. -/
def Spends (s t : Substrate) (subnetIds : List String) : Prop :=
  ∀ id, s.allocated id ≤ t.allocated id ∧ t.allocated id ≤ s.allocated id + subnetIds.count id

theorem spends_of_allocations (h : t.allocations = s.allocations) : s.Spends t [] := by
  intro id
  unfold allocated
  rw [h]
  omega

theorem Allocating.spends {ids : List String} (h : s.Allocating t ids) : s.Spends t ids := by
  obtain ⟨m, -, hcount⟩ := h
  exact hcount

theorem Spends.of_allocations {ids : List String} (h : s.Spends t ids)
    (ht : u.allocations = t.allocations) : s.Spends u ids := by
  intro id
  have hcount := h id
  unfold allocated at hcount ⊢
  rwa [ht]

/-- A new port spends an address for each that is asked for. -/
theorem Adopts.spends {request : PortRequest} {p : Port} (h : s.Adopts t request c p)
    (hasked : request.fixedIps ≠ []) : s.Spends t (request.fixedIps.map (·.subnetId)) := by
  obtain ⟨u, hserving, hheard⟩ := h.result
  obtain ⟨ids, hallocating, hids⟩ := hserving
  rw [← hids hasked]
  exact hallocating.spends.of_allocations hheard.allocations

/-- A port that gains a subnet spends one address on it. -/
theorem Gains.spends {id subnetId : String} {p : Port} {ips : List FixedIp}
    (h : s.Gains t id subnetId p ips) : s.Spends t [subnetId] := by
  obtain ⟨u, hallocating, hheard⟩ := h.result
  exact hallocating.spends.of_allocations hheard.allocations

/-- A port that loses a subnet spends no address. -/
theorem Loses.spends {id subnetId : String} {p : Port} (h : s.Loses t id subnetId p) :
    s.Spends t [] :=
  spends_of_allocations h.result.allocations

/-- The removal of an interface spends no address. -/
theorem Removal.spends {portId : Option String} (h : s.Removal t c networkId portId) :
    s.Spends t [] := by
  obtain ⟨u, hdetached, ht⟩ := h
  have hu : u.allocations = s.allocations := by
    rcases hdetached with hheard | ⟨hheard, -⟩
    · exact hheard.allocations
    · exact hheard.allocations
  apply spends_of_allocations
  rcases ht with ht | ⟨id, -, ht⟩
  · exact ht.allocations.trans hu
  · exact ht.allocations.trans hu

/-- What has been handed out since is not there any more. -/
theorem Room.later {id : String} {count count' : Nat} (h : s.Room id count)
    (hsubnets : t.subnets = s.subnets) (hlow : s.allocated id ≤ t.allocated id)
    (hhigh : t.allocated id + count' ≤ s.allocated id + count) : t.Room id count' := by
  intro subnet cidr hsubnet hcidr n hmore hless
  rw [hsubnets] at hsubnet
  exact h subnet cidr hsubnet hcidr n (by omega) (by omega)

/-! Instances stay -/

/-- Every instance of `s` is one of `t`. -/
def KeepsInstances (s t : Substrate) : Prop := ∀ c, s.plugged.contains c → t.plugged.contains c

theorem keepsInstances_of_plugged (h : t.plugged = s.plugged) : s.KeepsInstances t := by
  intro c hc
  rwa [h]

theorem keepsInstances_of_insert {ids : List String} (h : t.plugged = s.plugged.insert c ids) :
    s.KeepsInstances t := by
  intro c' hc'
  rw [IdMap.contains_iff] at hc' ⊢
  rw [h, IdMap.get?_insert]
  split
  · exact ⟨ids, rfl⟩
  · exact hc'

theorem Adopts.keepsInstances {request : PortRequest} {p : Port} (h : s.Adopts t request c p) :
    s.KeepsInstances t := by
  obtain ⟨u, ⟨ids, ⟨m, rfl, -⟩, -⟩, hheard⟩ := h.result
  exact keepsInstances_of_insert hheard.plugged

theorem Amended.keepsInstances {id : String} {f : Port → Port} (h : s.Amended t id f) :
    s.KeepsInstances t := by
  obtain ⟨u, hu, ht⟩ := h
  exact keepsInstances_of_plugged (ht.plugged.trans hu.plugged)

theorem Removal.keepsInstances {portId : Option String} (h : s.Removal t c networkId portId) :
    s.KeepsInstances t := by
  obtain ⟨u, hdetached, ht⟩ := h
  have hu : s.KeepsInstances u := by
    rcases hdetached with hheard | ⟨hheard, -⟩
    · exact keepsInstances_of_insert hheard.plugged
    · exact keepsInstances_of_plugged hheard.plugged
  have hut : u.KeepsInstances t := by
    rcases ht with ht | ⟨id, -, ht⟩
    · exact keepsInstances_of_plugged ht.plugged
    · intro c' hc'
      obtain ⟨ids, hids⟩ := IdMap.contains_iff.mp hc'
      rw [ht.plugged]
      change (u.plugged.map _).contains c'
      rw [IdMap.contains_iff, IdMap.get?_map, hids]
      exact ⟨_, rfl⟩
  exact fun c' hc' => hut c' (hu c' hc')

end Substrate

namespace Deployment

open Substrate

variable {d d' : Deployment}

/-- Nothing but a lack of addresses can make a change fail. -/
structure Capable (d : Deployment) : Prop where
  faults : d.substrate.faults = []
  harmless : d.repository.Harmless
  unbound : ∀ n, d.substrate.drawn < n → ¬ d.repository.Bound (drawnId n)
  networked : ∀ {id p}, d.substrate.ports.get? id = some p →
    ∃ network, d.substrate.networks.get? p.networkId = some network

namespace Capable

/-- Where ports stay on their networks and no record is made. -/
theorem of_removed (h : d.Capable) (hsame : d.substrate.SameNetworks d'.substrate)
    (hdrawn : d'.substrate.drawn = d.substrate.drawn)
    (hports : ∀ {id q}, d'.substrate.ports.get? id = some q →
      ∃ p, d.substrate.ports.get? id = some p ∧ q.networkId = p.networkId)
    (hrepository : d.repository.Heard d'.repository ∨
      ∃ id, (d.repository.dropBinding id).Heard d'.repository) : d'.Capable := by
  have hbound : ∀ id, d'.repository.Bound id → d.repository.Bound id := by
    intro id hid
    rcases hrepository with hheard | ⟨dropped, hheard⟩
    · exact (hheard.bound_iff id).mp hid
    · exact ((Repository.bound_dropBinding _ _ _).mp ((hheard.bound_iff id).mp hid)).1
  constructor
  · exact hsame.faults_nil h.faults
  · rcases hrepository with hheard | ⟨dropped, hheard⟩
    · exact hheard.harmless h.harmless
    · exact hheard.harmless h.harmless
  · intro n hn hid
    exact h.unbound n (hdrawn ▸ hn) (hbound _ hid)
  · intro id q hq
    obtain ⟨p, hp, hnet⟩ := hports hq
    rw [hsame.networks, hnet]
    exact h.networked hp

/-- A port that changes on its network makes no other change fail. -/
theorem amended {id : String} {f : Port → Port} (h : d.Capable)
    (hamended : d.substrate.Amended d'.substrate id f)
    (hsame : d.substrate.SameNetworks d'.substrate)
    (hnet : ∀ p, (f p).networkId = p.networkId) (hrecords : d.SameRecords d') : d'.Capable := by
  refine h.of_removed hsame hamended.drawn ?_ (.inl (hrecords.1 ▸ .refl _))
  intro k q hq
  rw [hamended.get?] at hq
  split at hq
  · obtain ⟨p, hp, rfl⟩ := Option.map_eq_some_iff.mp hq
    exact ⟨p, hp, hnet p⟩
  · exact ⟨q, hq, rfl⟩

/-- The removal of an interface makes no other change fail. -/
theorem nicDeleted {c : String} {nic : Interface} (h : d.Capable)
    (hend : Delta.NicDeleted c nic d d') : d'.Capable :=
  h.of_removed hend.removal.sameNetworks hend.removal.drawn hend.removal.get?
    (hend.repository.imp_right fun hdropped => hdropped.imp fun _ h => h.2)

/-- A port that is made has its network, and is bound under an id that has been drawn for it. -/
theorem nicAdded {amphora : Amphora} {nic : Interface} {changed changed' : ChangedPorts}
    {c : String} {p q : Port} (h : d.Capable)
    (hend : Delta.NicAdded amphora nic changed d changed' d' c p q)
    (hnetwork : ∃ network, d.substrate.networks.get? nic.networkId = some network) :
    d'.Capable := by
  have hsame := hend.adopts.sameNetworks
  constructor
  · exact hsame.faults_nil h.faults
  · exact hend.bindings.harmless h.harmless
  · intro n hn hid
    rw [hend.adopts.drawn] at hn
    rw [hend.bindings.bound_iff, Repository.bound_addBinding] at hid
    rcases hid with hid | hid
    · exact h.unbound n (by omega) hid
    · have heq : n = d.substrate.drawn + 1 :=
        drawnId_injective (hid.symm.trans hend.adopts.created.id)
      omega
  · intro id r hr
    rw [hsame.networks]
    rw [hend.adopts.get?] at hr
    split at hr
    · cases hr
      change ∃ network, d.substrate.networks.get? p.networkId = some network
      rw [hend.adopts.created.network]
      exact hnetwork
    · exact h.networked hr

end Capable

end Deployment

end AmphoraWiring
