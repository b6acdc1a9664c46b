import AmphoraWiring.Proofs.Substrate.Views

/-!
What the work of a step leaves alone. A port never moves to another network and an id is never
given to a second port, so a port that was seen on a network is there later, if it still exists.
Work on one network therefore spares every other, for all instances.
-/
namespace AmphoraWiring.Substrate

variable {s t u : Substrate} {c id networkId : String} {p : Port}

/-- `t` comes after `s`: ports are on the networks on which they were, and the ids of new ports
have been drawn since. -/
structure Later (s t : Substrate) : Prop where
  drawn : s.drawn ≤ t.drawn
  ports : ∀ {id q}, t.ports.get? id = some q →
    (∃ p, s.ports.get? id = some p ∧ q.networkId = p.networkId) ∨
      ∃ n, s.drawn < n ∧ n ≤ t.drawn ∧ id = drawnId n

/-- No port will be given the id, and a port that has it is on the network. -/
structure OnlyOn (s : Substrate) (id networkId : String) : Prop where
  network : ∀ {p}, s.ports.get? id = some p → p.networkId = networkId
  drawn : ∀ n, s.drawn < n → id ≠ drawnId n

namespace Later

theorem refl (s : Substrate) : s.Later s :=
  ⟨Nat.le_refl _, fun hq => .inl ⟨_, hq, rfl⟩⟩

theorem trans (h : s.Later t) (h' : t.Later u) : s.Later u := by
  refine ⟨Nat.le_trans h.drawn h'.drawn, fun {id q} hq => ?_⟩
  rcases h'.ports hq with ⟨p, hp, hnet⟩ | ⟨n, hlow, hhigh, hid⟩
  · rcases h.ports hp with ⟨p', hp', hnet'⟩ | ⟨n, hlow, hhigh, hid⟩
    · exact .inl ⟨p', hp', hnet.trans hnet'⟩
    · exact .inr ⟨n, hlow, Nat.le_trans hhigh h'.drawn, hid⟩
  · exact .inr ⟨n, Nat.lt_of_le_of_lt h.drawn hlow, hhigh, hid⟩

/-- A port never changes its network, and its id is not given again. -/
theorem onlyOn (h : s.Later t) (hid : s.OnlyOn id networkId) : t.OnlyOn id networkId := by
  constructor
  · intro q hq
    rcases h.ports hq with ⟨p, hp, hnet⟩ | ⟨n, hlow, -, heq⟩
    · exact hnet.trans (hid.network hp)
    · exact absurd heq (hid.drawn n hlow)
  · exact fun n hn => hid.drawn n (Nat.lt_of_le_of_lt h.drawn hn)

end Later

theorem Sound.onlyOn (hs : s.Sound) (hp : s.ports.get? id = some p) :
    s.OnlyOn id p.networkId := by
  constructor
  · intro q hq
    rw [hp] at hq
    cases hq
    rfl
  · intro n hn h
    subst h
    simp [hs.fresh n hn] at hp

theorem SamePorts.later (h : s.SamePorts t) : s.Later t :=
  ⟨Nat.le_of_eq h.drawn.symm, fun hq => .inl ⟨_, h.ports ▸ hq, rfl⟩⟩

theorem Amended.later {f : Port → Port} (h : s.Amended t id f)
    (hnet : ∀ p, (f p).networkId = p.networkId) : s.Later t := by
  refine ⟨Nat.le_of_eq h.drawn.symm, fun {k q} hq => ?_⟩
  rw [h.get?] at hq
  split at hq
  · obtain ⟨q', hq', rfl⟩ := Option.map_eq_some_iff.mp hq
    exact .inl ⟨q', hq', hnet q'⟩
  · exact .inl ⟨q, hq, rfl⟩

theorem Removal.later {portId : Option String} (h : s.Removal t c networkId portId) : s.Later t :=
  ⟨Nat.le_of_eq h.drawn.symm, fun hq => .inl (h.get? hq)⟩

/-- `t` comes after `s`, and no instance has gained, lost or changed a port on the networks. -/
structure Sparing (networks : List String) (s t : Substrate) : Prop where
  sound : t.Sound
  exclusive : t.Exclusive
  later : s.Later t
  same : ∀ c, ∀ networkId ∈ networks, t.portsOn c networkId = s.portsOn c networkId

namespace Sparing

variable {networks : List String}

theorem refl (hs : s.Sound) (hx : s.Exclusive) : Sparing networks s s :=
  ⟨hs, hx, .refl s, fun _ _ _ => rfl⟩

theorem trans (h : Sparing networks s t) (h' : Sparing networks t u) : Sparing networks s u :=
  ⟨h'.sound, h'.exclusive, h.later.trans h'.later,
    fun c n hn => (h'.same c n hn).trans (h.same c n hn)⟩

theorem of_samePorts (hs : s.Sound) (hx : s.Exclusive) (h : s.SamePorts t) :
    Sparing networks s t :=
  ⟨h.sound hs, h.exclusive hx, h.later, fun c n _ => h.portsOn c n⟩

/-- A port that is not plugged in is noticed by no instance. -/
theorem of_addPort (hs : s.Sound) (hx : s.Exclusive) (hid : p.id = drawnId (s.drawn + 1))
    (hips : ∀ ip ∈ p.fixedIps, s.Registered ip.subnetId p.networkId) :
    Sparing networks s (s.addPort p) where
  sound := hs.addPort hid hips
  exclusive := hx
  later := by
    refine ⟨Nat.le_succ _, fun {k q} hq => ?_⟩
    change (s.ports.insert p.id p).get? k = _ at hq
    rw [IdMap.get?_insert] at hq
    split at hq
    next heq => exact .inr ⟨s.drawn + 1, Nat.lt_succ_self _, Nat.le_refl _, heq.trans hid⟩
    next => exact .inl ⟨q, hq, rfl⟩
  same := fun c n _ => portsOn_congr (pluggedPorts_addPort hs (hid ▸ hs.next_is_new) c) n

/-- A free port on another network may be plugged in. -/
theorem of_attach (hs : s.Sound) (hx : s.Exclusive) (hp : s.ports.get? p.id = some p)
    (hfree : ∀ c, p.id ∉ s.pluggedPortIds c) (hnet : p.networkId ∉ networks) :
    Sparing networks s (s.attach c p.id) where
  sound := hs.attach hp
  exclusive := hx.attach fun c' hmem => absurd hmem (hfree c')
  later := by
    refine ⟨Nat.le_refl _, fun {k q} hq => ?_⟩
    change (s.ports.modify p.id _).get? k = _ at hq
    rw [IdMap.get?_modify] at hq
    split at hq
    · obtain ⟨q', hq', rfl⟩ := Option.map_eq_some_iff.mp hq
      exact .inl ⟨q', hq', rfl⟩
    · exact .inl ⟨q, hq, rfl⟩
  same := by
    intro c' n hn
    have hne : p.networkId ≠ n := fun heq => hnet (heq ▸ hn)
    unfold portsOn
    rw [pluggedPorts_attach hp hfree]
    split
    next heq => simp [heq, hne]
    next => rfl

theorem of_serving {request : PortRequest} (hs : s.Sound) (hx : s.Exclusive)
    (h : s.Serving t request) : Sparing networks s t := by
  obtain ⟨ids, hallocating, -⟩ := h
  exact of_samePorts hs hx hallocating.samePorts

theorem of_created {request : PortRequest} (hs : s.Sound) (hx : s.Exclusive)
    (hserving : s.Serving u request) (hcreated : s.Created request p) :
    Sparing networks s (u.addPort p) := by
  obtain ⟨ids, hallocating, -⟩ := hserving
  have hsame := hallocating.samePorts
  have hid : p.id = drawnId (u.drawn + 1) := hsame.drawn ▸ hcreated.id
  have hips : ∀ ip ∈ p.fixedIps, u.Registered ip.subnetId p.networkId :=
    fun ip hip => hsame.registered.mpr (hcreated.registered ip hip)
  exact (of_samePorts hs hx hsame).trans (of_addPort (hsame.sound hs) (hsame.exclusive hx) hid hips)

/-- A port that is deleted again was never plugged in. -/
theorem of_discarded {request : PortRequest} (hs : s.Sound) (hx : s.Exclusive)
    (hserving : s.Serving u request) (hcreated : s.Created request p) :
    Sparing networks s ((u.addPort p).removePort p.id) := by
  have hadded : Sparing networks s (u.addPort p) := of_created hs hx hserving hcreated
  refine hadded.trans ⟨hadded.sound.removePort p.id, hadded.exclusive.removePort p.id, ?_, ?_⟩
  · refine ⟨Nat.le_refl _, fun {k q} hq => .inl ⟨q, ?_, rfl⟩⟩
    rw [get?_ports_removePort] at hq
    split at hq
    · cases hq
    · exact hq
  · intro c n _
    obtain ⟨ids, hallocating, -⟩ := hserving
    have hnew : u.ports.get? p.id = none := by
      rw [hallocating.samePorts.ports, hcreated.id]
      exact hs.next_is_new
    have hfree := (hallocating.samePorts.sound hs).not_plugged hnew
    rw [portsOn_removePort hadded.sound, List.filter_eq_self]
    intro q hq
    obtain ⟨hplugged, -⟩ := hadded.sound.mem_portsOn.mp hq
    have hne : q.id ≠ p.id := fun heq => hfree c (heq ▸ hplugged)
    simpa using hne

/-- A new port on another network is spared by. -/
theorem of_adopts {request : PortRequest} (hs : s.Sound) (hx : s.Exclusive)
    (h : s.Adopts t request c p) (hspared : request.networkId ∉ networks) :
    Sparing networks s t := by
  obtain ⟨u, hserving, hheard⟩ := h.result
  have hadded : Sparing networks s (u.addPort p) := of_created hs hx hserving h.created
  have hget : (u.addPort p).ports.get? p.id = some p := IdMap.get?_insert_self _ _ _
  obtain ⟨ids, hallocating, -⟩ := hserving
  have hnew : u.ports.get? p.id = none := by
    rw [hallocating.samePorts.ports]
    exact h.is_new hs
  have hfree := (hallocating.samePorts.sound hs).not_plugged hnew
  have hattached : Sparing networks (u.addPort p) ((u.addPort p).attach c p.id) :=
    of_attach hadded.sound hadded.exclusive hget hfree (h.created.network ▸ hspared)
  exact (hadded.trans hattached).trans
    (of_samePorts hattached.sound hattached.exclusive hheard.samePorts)

/-- A port on another network may change. -/
theorem of_amended {f : Port → Port} (hs : s.Sound) (hx : s.Exclusive) (h : s.Amended t id f)
    (ht : t.Sound) (hnet : ∀ p, (f p).networkId = p.networkId) (hon : s.OnlyOn id networkId)
    (hspared : networkId ∉ networks) : Sparing networks s t where
  sound := ht
  exclusive := h.exclusive hx
  later := h.later hnet
  same := by
    intro c n hn
    refine h.portsOn_eq_self hs hnet fun q hq heq => ?_
    obtain ⟨-, hget, hqnet⟩ := hs.mem_portsOn.mp hq
    exact hspared (((hon.network (heq ▸ hget)).symm.trans hqnet) ▸ hn)

/-- A port on another network may be removed. -/
theorem of_removal {portId : Option String} (hs : s.Sound) (hx : s.Exclusive)
    (h : s.Removal t c networkId portId) (hon : ∀ id, portId = some id → s.OnlyOn id networkId)
    (hspared : networkId ∉ networks) : Sparing networks s t where
  sound := h.sound hs
  exclusive := h.exclusive hx
  later := h.later
  same := by
    intro c' n hn
    have hne : n ≠ networkId := fun heq => hspared (heq ▸ hn)
    exact h.portsOn_of_ne hs hx hne fun id hid p hp => (hon id hid).network hp

end Sparing

end AmphoraWiring.Substrate
