import AmphoraWiring.Proofs.Substrate.Addresses

/-!
What the work of a step does to the ports of an instance on a network. A new port is the last one
on its network, a port that gains or loses addresses keeps its place, and an instance that is
detached has no port there. On every other network and for every other instance nothing changes,
as long as no port is plugged into two instances.
-/
namespace AmphoraWiring.Substrate

variable {s t u : Substrate} {c c' networkId : String}

theorem portsOn_congr (h : t.pluggedPorts c = s.pluggedPorts c) (networkId : String) :
    t.portsOn c networkId = s.portsOn c networkId := by
  unfold portsOn
  rw [h]

/-- Ports and instances are as they were. -/
structure SamePorts (s t : Substrate) : Prop extends s.SameNetworks t where
  ports : t.ports = s.ports
  plugged : t.plugged = s.plugged
  drawn : t.drawn = s.drawn

theorem Heard.samePorts (h : s.Heard t) : s.SamePorts t :=
  ⟨h.sameNetworks, h.ports, h.plugged, h.drawn⟩

theorem Allocating.samePorts {ids : List String} (h : s.Allocating t ids) : s.SamePorts t := by
  obtain ⟨m, rfl, -⟩ := h
  exact ⟨⟨rfl, rfl, id⟩, rfl, rfl, rfl⟩

namespace SamePorts

theorem trans (h : s.SamePorts t) (h' : t.SamePorts u) : s.SamePorts u :=
  ⟨h.toSameNetworks.trans h'.toSameNetworks, h'.ports.trans h.ports, h'.plugged.trans h.plugged,
    h'.drawn.trans h.drawn⟩

theorem sound (h : s.SamePorts t) (hs : s.Sound) : t.Sound :=
  hs.of_eq h.ports h.plugged h.subnets h.drawn

theorem exclusive (h : s.SamePorts t) (hx : s.Exclusive) : t.Exclusive := hx.of_eq h.plugged

theorem pluggedPortIds (h : s.SamePorts t) (c : String) :
    t.pluggedPortIds c = s.pluggedPortIds c := by
  unfold Substrate.pluggedPortIds
  rw [h.plugged]

/-- The ports of an instance are read from what is the same. -/
theorem pluggedPorts (h : s.SamePorts t) (c : String) : t.pluggedPorts c = s.pluggedPorts c := by
  unfold Substrate.pluggedPorts
  rw [h.pluggedPortIds, h.ports]

theorem portsOn (h : s.SamePorts t) (c networkId : String) :
    t.portsOn c networkId = s.portsOn c networkId :=
  portsOn_congr (h.pluggedPorts c) networkId

end SamePorts

/-! A port that changes in place -/

/-- The change of a port, made to the one with the id. -/
def onPort (id : String) (f : Port → Port) (p : Port) : Port := if p.id = id then f p else p

theorem onPort_of_ne {id : String} {f : Port → Port} {p : Port} (h : p.id ≠ id) :
    onPort id f p = p :=
  if_neg h

theorem map_onPort_of_ne {id : String} {f : Port → Port} {l : List Port}
    (h : ∀ p ∈ l, p.id ≠ id) : l.map (onPort id f) = l := by
  rw [List.map_congr_left fun p hp => onPort_of_ne (h p hp)]
  exact List.map_id' l

/-- `t` is `s` with the port under the id changed by `f`. -/
def Amended (s t : Substrate) (id : String) (f : Port → Port) : Prop :=
  ∃ u, s.SamePorts u ∧ (u.amend id f).SamePorts t

/-- A port that gains addresses changes in place. -/
theorem Gains.amended {id subnetId : String} {p : Port} {ips : List FixedIp}
    (h : s.Gains t id subnetId p ips) : s.Amended t id fun p => p.addIps ips := by
  obtain ⟨u, hu, hheard⟩ := h.result
  exact ⟨u, hu.samePorts, hheard.samePorts⟩

theorem Loses.amended {id subnetId : String} {p : Port} (h : s.Loses t id subnetId p) :
    s.Amended t id fun p => p.release subnetId (s.keepsAddresses subnetId) :=
  ⟨s, (Heard.refl s).samePorts, h.result.samePorts⟩

namespace Amended

variable {id : String} {f : Port → Port}

theorem get? (h : s.Amended t id f) (k : String) :
    t.ports.get? k = if k = id then (s.ports.get? k).map f else s.ports.get? k := by
  obtain ⟨u, hu, ht⟩ := h
  rw [ht.ports, ← hu.ports]
  exact IdMap.get?_modify _ _ _ _

theorem pluggedPorts (h : s.Amended t id f) (hs : s.Sound) (c : String) :
    t.pluggedPorts c = (s.pluggedPorts c).map (onPort id f) := by
  obtain ⟨u, hu, ht⟩ := h
  rw [ht.pluggedPorts, pluggedPorts_amend (hu.sound hs), hu.pluggedPorts]
  rfl

theorem portsOn (h : s.Amended t id f) (hs : s.Sound) (hnet : ∀ p, (f p).networkId = p.networkId)
    (c networkId : String) : t.portsOn c networkId = (s.portsOn c networkId).map (onPort id f) := by
  unfold Substrate.portsOn
  rw [h.pluggedPorts hs, List.filter_map]
  congr 1
  apply List.filter_congr
  intro p _
  simp only [Function.comp_apply, onPort]
  split
  · rw [hnet]
  · rfl

/-- Only the instance and the network of the port see the change. -/
theorem portsOn_eq_self (h : s.Amended t id f) (hs : s.Sound)
    (hnet : ∀ p, (f p).networkId = p.networkId)
    (hother : ∀ p ∈ s.portsOn c networkId, p.id ≠ id) :
    t.portsOn c networkId = s.portsOn c networkId := by
  rw [h.portsOn hs hnet, map_onPort_of_ne hother]

theorem pluggedPorts_eq_self (h : s.Amended t id f) (hs : s.Sound)
    (hother : id ∉ s.pluggedPortIds c) : t.pluggedPorts c = s.pluggedPorts c := by
  rw [h.pluggedPorts hs]
  apply map_onPort_of_ne
  intro p hp hid
  obtain ⟨k, hk, hget⟩ := mem_pluggedPorts.mp hp
  rw [hs.own_id hget] at hid
  exact hother (hid ▸ hk)

theorem sound (h : s.Amended t id f) (hs : s.Sound) (hid : ∀ p, (f p).id = p.id)
    (hnet : ∀ p, (f p).networkId = p.networkId)
    (hips : ∀ p, s.ports.get? id = some p →
      ∀ ip ∈ (f p).fixedIps, s.Registered ip.subnetId p.networkId) : t.Sound := by
  obtain ⟨u, hu, ht⟩ := h
  refine ht.sound ((hu.sound hs).amend hid ?_)
  intro p hp ip hip
  rw [hu.ports] at hp
  rw [hu.registered, hnet]
  exact hips p hp ip hip

theorem exclusive (h : s.Amended t id f) (hx : s.Exclusive) : t.Exclusive := by
  obtain ⟨u, hu, ht⟩ := h
  exact ht.exclusive (hu.exclusive hx)

theorem drawn (h : s.Amended t id f) : t.drawn = s.drawn := by
  obtain ⟨u, hu, ht⟩ := h
  rw [ht.drawn, ← hu.drawn]
  rfl

end Amended

theorem Gains.sound {id subnetId : String} {p : Port} {ips : List FixedIp}
    (h : s.Gains t id subnetId p ips) (hs : s.Sound) : t.Sound := by
  refine h.amended.sound hs (fun _ => rfl) (fun _ => rfl) ?_
  intro q hq ip hip
  rw [h.port] at hq
  cases hq
  rcases List.mem_append.mp hip with hip | hip
  · exact hs.on_network h.port hip
  · obtain ⟨rfl, hnet⟩ := h.registered ip hip
    exact hnet

theorem Loses.sound {id subnetId : String} {p : Port} (h : s.Loses t id subnetId p)
    (hs : s.Sound) : t.Sound := by
  refine h.amended.sound hs (fun _ => Port.release_id _ _ _)
    (fun _ => Port.release_networkId _ _ _) ?_
  intro q hq ip hip
  exact hs.on_network hq (Port.mem_release hip)

/-! A port that is made and plugged in -/

namespace Adopts

variable {request : PortRequest} {p : Port}

theorem samePorts (h : s.Adopts t request c p) :
    ∃ u, s.SamePorts u ∧ ((u.addPort p).attach c p.id).SamePorts t := by
  obtain ⟨u, ⟨ids, hu, -⟩, hheard⟩ := h.result
  exact ⟨u, hu.samePorts, hheard.samePorts⟩

/-- The port of a new interface was not there before. -/
theorem is_new (h : s.Adopts t request c p) (hs : s.Sound) : s.ports.get? p.id = none := by
  rw [h.created.id]
  exact hs.next_is_new

theorem get? (h : s.Adopts t request c p) (k : String) : t.ports.get? k =
    if k = p.id then some { p with deviceId := some c } else s.ports.get? k := by
  obtain ⟨u, hu, ht⟩ := h.samePorts
  rw [ht.ports, ← hu.ports]
  change ((u.ports.insert p.id p).modify p.id _).get? k = _
  rw [IdMap.get?_modify, IdMap.get?_insert]
  split <;> rfl

theorem pluggedPorts (h : s.Adopts t request c p) (hs : s.Sound) (c' : String) :
    t.pluggedPorts c' = if c' = c then s.pluggedPorts c ++ [{ p with deviceId := some c }]
      else s.pluggedPorts c' := by
  obtain ⟨u, hu, ht⟩ := h.samePorts
  have hnew : u.ports.get? p.id = none := hu.ports ▸ h.is_new hs
  have hadded : (u.addPort p).ports.get? p.id = some p := IdMap.get?_insert_self _ _ _
  rw [ht.pluggedPorts, pluggedPorts_attach hadded fun c => (hu.sound hs).not_plugged hnew c]
  simp only [pluggedPorts_addPort (hu.sound hs) hnew, hu.pluggedPorts]

theorem portsOn (h : s.Adopts t request c p) (hs : s.Sound) (c' networkId : String) :
    t.portsOn c' networkId = if c' = c ∧ networkId = request.networkId then
      s.portsOn c networkId ++ [{ p with deviceId := some c }] else s.portsOn c' networkId := by
  unfold Substrate.portsOn
  rw [h.pluggedPorts hs, ← h.created.network]
  by_cases hc : c' = c
  · subst hc
    by_cases hnet : networkId = p.networkId
    · simp [hnet]
    · simp [hnet, Ne.symm hnet]
  · simp [hc]

theorem sound (h : s.Adopts t request c p) (hs : s.Sound) : t.Sound := by
  obtain ⟨u, hu, ht⟩ := h.samePorts
  have hadded : (u.addPort p).Sound := by
    refine (hu.sound hs).addPort (hu.drawn.symm ▸ h.created.id) fun ip hip => ?_
    exact hu.registered.mpr (h.created.registered ip hip)
  exact ht.sound (hadded.attach (IdMap.get?_insert_self _ _ _))

theorem exclusive (h : s.Adopts t request c p) (hs : s.Sound) (hx : s.Exclusive) :
    t.Exclusive := by
  obtain ⟨u, hu, ht⟩ := h.samePorts
  have hnew : u.ports.get? p.id = none := hu.ports ▸ h.is_new hs
  have hadded : (u.addPort p).Exclusive := hu.exclusive hx
  refine ht.exclusive (hadded.attach fun c' hmem => ?_)
  exact absurd hmem ((hu.sound hs).not_plugged hnew c')

theorem drawn (h : s.Adopts t request c p) : t.drawn = s.drawn + 1 := by
  obtain ⟨u, hu, ht⟩ := h.samePorts
  rw [ht.drawn, ← hu.drawn]
  rfl

end Adopts

/-! An instance that leaves a network -/

/-- The instance was detached from the network, unless a failure was due or it had no port there. -/
def Detached (s t : Substrate) (c networkId : String) : Prop :=
  (s.detach c networkId).Heard t ∨
    s.Heard t ∧ (s.faults = [] → s.plugged.contains c → s.idsOn c networkId = [])

/-- What is left when an instance was to be detached from a network and a port to be deleted,
each as far as that succeeded. -/
def Removal (s t : Substrate) (c networkId : String) (portId : Option String) : Prop :=
  ∃ u, s.Detached u c networkId ∧ (u.Heard t ∨ ∃ id, portId = some id ∧ (u.removePort id).Heard t)

/-- On the other networks an instance keeps its ports. -/
theorem portsOn_detach_of_ne {networkId' : String} (h : networkId' ≠ networkId) (hx : s.Exclusive) :
    (s.detach c networkId).portsOn c' networkId' = s.portsOn c' networkId' := by
  by_cases hc : c' = c
  · subst hc
    unfold portsOn
    rw [pluggedPorts_detach_self, List.filter_filter]
    apply List.filter_congr
    intro p _
    by_cases hnet : p.networkId = networkId'
    · simp [hnet, h]
    · simp [hnet]
  · exact portsOn_congr (pluggedPorts_detach_other hx hc networkId) networkId'

/-- On the network that it leaves an instance has no port left. -/
theorem portsOn_detach_self : (s.detach c networkId).portsOn c networkId = [] := by
  unfold portsOn
  rw [pluggedPorts_detach_self, List.filter_filter]
  simp

theorem get?_ports_removePort (s : Substrate) (removed id : String) :
    (s.removePort removed).ports.get? id = if id = removed then none else s.ports.get? id :=
  IdMap.get?_erase _ _ _

theorem portsOn_removePort (hs : s.Sound) (removed c networkId : String) :
    (s.removePort removed).portsOn c networkId =
      (s.portsOn c networkId).filter fun p => p.id ≠ removed := by
  unfold portsOn
  rw [pluggedPorts_removePort hs, List.filter_filter, List.filter_filter]
  simp only [Bool.and_comm]

namespace Detached

theorem sameNetworks (h : s.Detached t c networkId) : s.SameNetworks t := by
  rcases h with h | ⟨h, -⟩
  · exact .trans (.detach s c networkId) h.sameNetworks
  · exact h.sameNetworks

theorem journal (h : s.Detached t c networkId) : ∃ calls, t.journal = s.journal ++ calls := by
  rcases h with h | ⟨h, -⟩
  · exact h.journal
  · exact h.journal

theorem sound (h : s.Detached t c networkId) (hs : s.Sound) : t.Sound := by
  rcases h with h | ⟨h, -⟩
  · exact h.sound (hs.detach c networkId)
  · exact h.sound hs

theorem exclusive (h : s.Detached t c networkId) (hx : s.Exclusive) : t.Exclusive := by
  rcases h with h | ⟨h, -⟩
  · exact h.exclusive (hx.detach c networkId)
  · exact h.exclusive hx

theorem drawn (h : s.Detached t c networkId) : t.drawn = s.drawn := by
  rcases h with h | ⟨h, -⟩
  · exact h.drawn
  · exact h.drawn

theorem get? (h : s.Detached t c networkId) {id : String} {q : Port}
    (hq : t.ports.get? id = some q) :
    ∃ p, s.ports.get? id = some p ∧ q.networkId = p.networkId := by
  rcases h with h | ⟨h, -⟩
  · rw [h.ports, get?_ports_detach] at hq
    split at hq
    · obtain ⟨p, hp, rfl⟩ := Option.map_eq_some_iff.mp hq
      exact ⟨p, hp, rfl⟩
    · exact ⟨q, hq, rfl⟩
  · rw [h.ports] at hq
    exact ⟨q, hq, rfl⟩

/-- Another instance does not notice. -/
theorem pluggedPorts_other (h : s.Detached t c networkId) (hx : s.Exclusive) (hc : c' ≠ c) :
    t.pluggedPorts c' = s.pluggedPorts c' := by
  rcases h with h | ⟨h, -⟩
  · rw [h.samePorts.pluggedPorts, pluggedPorts_detach_other hx hc]
  · exact h.samePorts.pluggedPorts c'

theorem portsOn_of_ne (h : s.Detached t c networkId) (hx : s.Exclusive) {networkId' : String}
    (hnet : networkId' ≠ networkId) : t.portsOn c' networkId' = s.portsOn c' networkId' := by
  rcases h with h | ⟨h, -⟩
  · rw [h.samePorts.portsOn, portsOn_detach_of_ne hnet hx]
  · exact h.samePorts.portsOn c' networkId'

/-- Leaving a network adds no port there. -/
theorem portsOn_sublist (h : s.Detached t c networkId) :
    (t.portsOn c networkId).Sublist (s.portsOn c networkId) := by
  rcases h with h | ⟨h, -⟩
  · rw [h.samePorts.portsOn, portsOn_detach_self]
    exact List.nil_sublist _
  · rw [h.samePorts.portsOn]

/-- Without scripted failures an instance that is there leaves the network. -/
theorem portsOn_eq_nil (h : s.Detached t c networkId) (hfaults : s.faults = [])
    (hplugged : s.plugged.contains c) : t.portsOn c networkId = [] := by
  rcases h with h | ⟨h, hwhy⟩
  · rw [h.samePorts.portsOn, portsOn_detach_self]
  · have hnone := hwhy hfaults hplugged
    rw [h.samePorts.portsOn]
    apply List.eq_nil_iff_forall_not_mem.mpr
    intro p hp
    obtain ⟨⟨id, hid, hget⟩, hnet⟩ := mem_portsOn.mp hp
    have hmem : id ∈ s.idsOn c networkId := mem_idsOn.mpr ⟨hid, p, hget, hnet⟩
    simp [hnone] at hmem

end Detached

theorem Sound.mem_pluggedPorts (hs : s.Sound) {p : Port} :
    p ∈ s.pluggedPorts c ↔ p.id ∈ s.pluggedPortIds c ∧ s.ports.get? p.id = some p := by
  rw [Substrate.mem_pluggedPorts]
  constructor
  · intro h
    obtain ⟨id, hid, hget⟩ := h
    obtain rfl := hs.own_id hget
    exact ⟨hid, hget⟩
  · intro h
    obtain ⟨hid, hget⟩ := h
    exact ⟨p.id, hid, hget⟩

namespace Removal

variable {portId : Option String}

theorem sameNetworks (h : s.Removal t c networkId portId) : s.SameNetworks t := by
  obtain ⟨u, hu, ht | ⟨id, -, ht⟩⟩ := h
  · exact hu.sameNetworks.trans ht.sameNetworks
  · exact hu.sameNetworks.trans (.trans (.removePort u id) ht.sameNetworks)

theorem sound (h : s.Removal t c networkId portId) (hs : s.Sound) : t.Sound := by
  obtain ⟨u, hu, ht | ⟨id, -, ht⟩⟩ := h
  · exact ht.sound (hu.sound hs)
  · exact ht.sound ((hu.sound hs).removePort id)

theorem exclusive (h : s.Removal t c networkId portId) (hx : s.Exclusive) : t.Exclusive := by
  obtain ⟨u, hu, ht | ⟨id, -, ht⟩⟩ := h
  · exact ht.exclusive (hu.exclusive hx)
  · exact ht.exclusive ((hu.exclusive hx).removePort id)

theorem drawn (h : s.Removal t c networkId portId) : t.drawn = s.drawn := by
  obtain ⟨u, hu, ht | ⟨id, -, ht⟩⟩ := h
  · exact ht.drawn.trans hu.drawn
  · exact ht.drawn.trans hu.drawn

theorem get? (h : s.Removal t c networkId portId) {id : String} {q : Port}
    (hq : t.ports.get? id = some q) :
    ∃ p, s.ports.get? id = some p ∧ q.networkId = p.networkId := by
  obtain ⟨u, hu, ht | ⟨removed, -, ht⟩⟩ := h
  · exact hu.get? (ht.ports ▸ hq)
  · rw [ht.ports, get?_ports_removePort] at hq
    split at hq
    · cases hq
    · exact hu.get? hq

/-- Another instance notices nothing, unless the port to be deleted is plugged into it. -/
theorem pluggedPorts_other (h : s.Removal t c networkId portId) (hs : s.Sound) (hx : s.Exclusive)
    (hc : c' ≠ c) (happart : ∀ id, portId = some id → id ∉ s.pluggedPortIds c') :
    t.pluggedPorts c' = s.pluggedPorts c' := by
  obtain ⟨u, hu, ht | ⟨id, hid, ht⟩⟩ := h
  · rw [ht.samePorts.pluggedPorts, hu.pluggedPorts_other hx hc]
  · rw [ht.samePorts.pluggedPorts, pluggedPorts_removePort (hu.sound hs),
      hu.pluggedPorts_other hx hc, List.filter_eq_self]
    intro p hp
    have hplugged := (hs.mem_pluggedPorts.mp hp).1
    have hne : p.id ≠ id := fun heq => happart id hid (heq ▸ hplugged)
    simpa using hne

/-- Another network is not affected, unless the port to be deleted is on it. -/
theorem portsOn_of_ne (h : s.Removal t c networkId portId) (hs : s.Sound) (hx : s.Exclusive)
    {networkId' : String} (hnet : networkId' ≠ networkId)
    (hon : ∀ id, portId = some id → ∀ p, s.ports.get? id = some p → p.networkId = networkId) :
    t.portsOn c' networkId' = s.portsOn c' networkId' := by
  obtain ⟨u, hu, ht | ⟨id, hid, ht⟩⟩ := h
  · rw [ht.samePorts.portsOn, hu.portsOn_of_ne hx hnet]
  · rw [ht.samePorts.portsOn, portsOn_removePort (hu.sound hs), hu.portsOn_of_ne hx hnet,
      List.filter_eq_self]
    intro p hp
    obtain ⟨-, hget, hp'⟩ := hs.mem_portsOn.mp hp
    have hne : p.id ≠ id := by
      intro heq
      have hother := hon id hid p (heq ▸ hget)
      exact hnet (hp'.symm.trans hother)
    simpa using hne

theorem portsOn_sublist (h : s.Removal t c networkId portId) (hs : s.Sound) :
    (t.portsOn c networkId).Sublist (s.portsOn c networkId) := by
  obtain ⟨u, hu, ht | ⟨id, -, ht⟩⟩ := h
  · rw [ht.samePorts.portsOn]
    exact hu.portsOn_sublist
  · rw [ht.samePorts.portsOn, portsOn_removePort (hu.sound hs)]
    exact List.filter_sublist.trans hu.portsOn_sublist

/-- Without faults no port is left on the network. -/
theorem portsOn_eq_nil (h : s.Removal t c networkId portId) (hs : s.Sound)
    (hfaults : s.faults = []) (hplugged : s.plugged.contains c) : t.portsOn c networkId = [] := by
  obtain ⟨u, hu, ht | ⟨id, -, ht⟩⟩ := h
  · rw [ht.samePorts.portsOn, hu.portsOn_eq_nil hfaults hplugged]
  · rw [ht.samePorts.portsOn, portsOn_removePort (hu.sound hs), hu.portsOn_eq_nil hfaults hplugged]
    rfl

end Removal

end AmphoraWiring.Substrate
