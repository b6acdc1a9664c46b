import AmphoraWiring.Proofs.Substrate.Views

/-!
Where an instance is plugged in: the ids of its ports with their networks, in the order in which
they were plugged in. Addresses are no part of it, so gaining or losing them leaves it as it is, and
ports that two instances share do no harm here.
-/
namespace AmphoraWiring.Substrate

variable {s t : Substrate} {c c' id networkId : String}

def place (p : Port) : String × String := (p.id, p.networkId)

/-- The ports of an instance by their ids, each with its network. -/
def places (s : Substrate) (c : String) : List (String × String) := (s.pluggedPorts c).map place

theorem places_eq (s : Substrate) (c : String) :
    s.places c = (s.pluggedPortIds c).filterMap fun id => (s.ports.get? id).map place :=
  List.map_filterMap

/-- A place is a port on its network. -/
theorem mem_places : (id, networkId) ∈ s.places c ↔
    ∃ p, p ∈ s.portsOn c networkId ∧ p.id = id := by
  simp only [places, place, portsOn, List.mem_map, List.mem_filter, Prod.mk.injEq,
    decide_eq_true_eq]
  constructor
  · intro h
    obtain ⟨p, hp, rfl, rfl⟩ := h
    exact ⟨p, ⟨hp, rfl⟩, rfl⟩
  · intro h
    obtain ⟨p, ⟨hp, rfl⟩, rfl⟩ := h
    exact ⟨p, hp, rfl, rfl⟩

/-- A port is on one network only, also if several instances list it. -/
theorem Sound.places_unique (hs : s.Sound) {n n' : String} (h : (id, n) ∈ s.places c)
    (h' : (id, n') ∈ s.places c') : n' = n := by
  obtain ⟨p, hp, rfl⟩ := mem_places.mp h
  obtain ⟨q, hq, hid⟩ := mem_places.mp h'
  obtain ⟨-, hget, rfl⟩ := hs.mem_portsOn.mp hp
  obtain ⟨-, hget', rfl⟩ := hs.mem_portsOn.mp hq
  rw [hid, hget] at hget'
  cases hget'
  rfl

theorem Sound.places_ids (hs : s.Sound) (c : String) :
    (s.places c).map (·.1) = s.pluggedPortIds c := by
  rw [places_eq, List.map_filterMap]
  refine (List.filterMap_congr ?_).trans List.filterMap_some
  intro id hid
  obtain ⟨p, hp⟩ := hs.exists_port hid
  simp [hp, place, hs.own_id hp]

theorem SamePorts.places (h : s.SamePorts t) (c : String) : t.places c = s.places c := by
  unfold Substrate.places
  rw [h.pluggedPorts]

/-- A new port takes the last place of its instance. -/
theorem Adopts.places {request : PortRequest} {p : Port} (h : s.Adopts t request c p)
    (hs : s.Sound) (c' : String) : t.places c' =
      if c' = c then s.places c ++ [(p.id, request.networkId)] else s.places c' := by
  unfold Substrate.places
  rw [h.pluggedPorts hs]
  split
  · simp [place, h.created.network]
  · rfl

theorem Amended.places {f : Port → Port} (h : s.Amended t id f) (hs : s.Sound)
    (hf : ∀ p, place (f p) = place p) (c : String) : t.places c = s.places c := by
  unfold Substrate.places
  rw [h.pluggedPorts hs, List.map_map]
  apply List.map_congr_left
  intro p _
  simp only [Function.comp_apply, onPort]
  split
  · exact hf p
  · rfl

/-- An instance that leaves a network loses its places there, and the others keep theirs. -/
theorem places_detach (s : Substrate) (c networkId c' : String) :
    (s.detach c networkId).places c' =
      if c' = c then (s.places c).filter fun e => e.2 ≠ networkId else s.places c' := by
  split
  next heq =>
    rw [heq, places, pluggedPorts_detach_self, places, List.filter_map]
    rfl
  next hne =>
    rw [places_eq, places_eq, pluggedPortIds_detach, if_neg hne]
    apply List.filterMap_congr
    intro id _
    rw [get?_ports_detach]
    split
    · rw [Option.map_map]
      rfl
    · rfl

theorem places_removePort (hs : s.Sound) (removed c : String) :
    (s.removePort removed).places c = (s.places c).filter fun e => e.1 ≠ removed := by
  rw [places, pluggedPorts_removePort hs, places, List.filter_map]
  rfl

/-- Without faults an instance that is there leaves the network. -/
theorem Detached.places (h : s.Detached t c networkId) (hfaults : s.faults = [])
    (hhosted : s.plugged.contains c) (c' : String) : t.places c' =
      if c' = c then (s.places c).filter fun e => e.2 ≠ networkId else s.places c' := by
  rcases h with h | ⟨h, hwhy⟩
  · rw [h.samePorts.places, places_detach]
  · rw [h.samePorts.places]
    split
    next heq =>
      rw [heq, eq_comm, List.filter_eq_self]
      intro e he
      obtain ⟨p, hp, rfl⟩ := List.mem_map.mp he
      obtain ⟨id, hid, hget⟩ := mem_pluggedPorts.mp hp
      have hvacant := hwhy hfaults hhosted
      have hne : p.networkId ≠ networkId := by
        intro hnet
        have hmem : id ∈ s.idsOn c networkId := mem_idsOn.mpr ⟨hid, p, hget, hnet⟩
        rw [hvacant] at hmem
        cases hmem
      exact decide_eq_true hne
    next => rfl

/-- An instance that leaves a network gives up its places there; no other instance is concerned if
none lists the port that is deleted. -/
theorem Removal.places (h : s.Removal t c networkId (some id)) (hs : s.Sound)
    (hfaults : s.faults = []) (hhosted : s.plugged.contains c)
    (hid : (id, networkId) ∈ s.places c) (hown : ∀ c' n, (id, n) ∈ s.places c' → c' = c)
    (c' : String) : t.places c' =
      if c' = c then (s.places c).filter fun e => e.2 ≠ networkId else s.places c' := by
  obtain ⟨u, hu, ht⟩ := h
  have hdetached := hu.places hfaults hhosted c'
  rcases ht with ht | ⟨removed, hremoved, ht⟩
  · rw [ht.samePorts.places, hdetached]
  · cases hremoved
    rw [ht.samePorts.places, places_removePort (hu.sound hs), hdetached, List.filter_eq_self]
    intro e he
    have hne : e.1 ≠ id := by
      intro heq
      split at he
      next =>
        obtain ⟨hmem, hnet⟩ := List.mem_filter.mp he
        have hmem' : (id, e.2) ∈ s.places c := heq ▸ hmem
        simp [hs.places_unique hid hmem'] at hnet
      next hne =>
        have hmem' : (id, e.2) ∈ s.places c' := heq ▸ he
        exact hne (hown c' e.2 hmem')
    simpa using hne

end AmphoraWiring.Substrate
