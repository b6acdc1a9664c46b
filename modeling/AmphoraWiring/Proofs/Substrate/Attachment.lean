import AmphoraWiring.Proofs.Listing
import AmphoraWiring.Substrate.Instance
import Mathlib.Data.List.Basic

/-!
The ports by which an instance is attached to a network, and how they change when a port is
added, plugged in, changed, or removed, and when an instance leaves a network. Each change is
a function on substrates of its own, and what it does to the attachments is one equation.
-/
namespace AmphoraWiring.Substrate

/-- The ports of an instance in the order in which they were plugged in. -/
def pluggedPorts (s : Substrate) (computeId : String) : List Port :=
  (s.pluggedPortIds computeId).filterMap s.ports.get?

/-- The ports by which an instance is attached to a network. -/
def portsOn (s : Substrate) (computeId networkId : String) : List Port :=
  (s.pluggedPorts computeId).filter fun p => p.networkId = networkId

/-- The subnet exists and is one of the network. -/
def Registered (s : Substrate) (subnetId networkId : String) : Prop :=
  ∃ subnet, s.subnets.get? subnetId = some subnet ∧ subnet.networkId = networkId

/-- The state has a representation that the calls keep: a port is stored under its own id, an
instance lists existing ports and each once, an address is on a subnet of its port's network,
and an id that has not been drawn yet names no port. -/
structure Sound (s : Substrate) : Prop where
  own_id : ∀ {id p}, s.ports.get? id = some p → p.id = id
  exists_port : ∀ {computeId id}, id ∈ s.pluggedPortIds computeId → ∃ p, s.ports.get? id = some p
  nodup : ∀ computeId, (s.pluggedPortIds computeId).Nodup
  on_network : ∀ {id p ip}, s.ports.get? id = some p → ip ∈ p.fixedIps →
    s.Registered ip.subnetId p.networkId
  fresh : ∀ n, s.drawn < n → s.ports.get? (drawnId n) = none

/-- No port is plugged into two instances. -/
def Exclusive (s : Substrate) : Prop :=
  ∀ ⦃c c' id⦄, id ∈ s.pluggedPortIds c → id ∈ s.pluggedPortIds c' → c = c'

variable {s t : Substrate}

theorem mem_pluggedPorts {c : String} {p : Port} :
    p ∈ s.pluggedPorts c ↔ ∃ id ∈ s.pluggedPortIds c, s.ports.get? id = some p := by
  simp [pluggedPorts]

theorem mem_portsOn {c networkId : String} {p : Port} : p ∈ s.portsOn c networkId ↔
    (∃ id ∈ s.pluggedPortIds c, s.ports.get? id = some p) ∧ p.networkId = networkId := by
  simp [portsOn, mem_pluggedPorts]

/-- Where ids and ports agree, an instance has the ports that it lists. -/
theorem Sound.mem_portsOn (hs : s.Sound) {c networkId : String} {p : Port} :
    p ∈ s.portsOn c networkId ↔
      p.id ∈ s.pluggedPortIds c ∧ s.ports.get? p.id = some p ∧ p.networkId = networkId := by
  rw [Substrate.mem_portsOn]
  constructor
  · intro h
    obtain ⟨⟨id, hid, hget⟩, hnet⟩ := h
    obtain rfl := hs.own_id hget
    exact ⟨hid, hget, hnet⟩
  · intro h
    obtain ⟨hid, hget, hnet⟩ := h
    exact ⟨⟨p.id, hid, hget⟩, hnet⟩

/-- The attachments of an instance depend on its list and on the ports in it alone. -/
theorem pluggedPorts_congr {c : String} (hids : t.pluggedPortIds c = s.pluggedPortIds c)
    (hports : ∀ id ∈ s.pluggedPortIds c, t.ports.get? id = s.ports.get? id) :
    t.pluggedPorts c = s.pluggedPorts c := by
  unfold pluggedPorts
  rw [hids]
  exact List.filterMap_congr hports

/-! Changes -/

/-- A port under an id that has just been drawn. -/
def addPort (s : Substrate) (p : Port) : Substrate :=
  { s with ports := s.ports.insert p.id p, drawn := s.drawn + 1 }

def attach (s : Substrate) (computeId portId : String) : Substrate :=
  let plugged := s.pluggedPortIds computeId
  { s with
    plugged := s.plugged.insert computeId
      (if plugged.contains portId then plugged else plugged ++ [portId])
    ports := s.ports.modify portId fun p => { p with deviceId := some computeId } }

def amend (s : Substrate) (portId : String) (f : Port → Port) : Substrate :=
  { s with ports := s.ports.modify portId f }

/-- The plugged ports of an instance that are on a network. -/
def idsOn (s : Substrate) (computeId networkId : String) : List String :=
  (s.pluggedPortIds computeId).filter fun id =>
    (s.ports.get? id).any fun p => p.networkId = networkId

def detach (s : Substrate) (computeId networkId : String) : Substrate :=
  { s with
    plugged := s.plugged.insert computeId
      ((s.pluggedPortIds computeId).filter fun id => !(s.idsOn computeId networkId).contains id)
    ports := (s.idsOn computeId networkId).foldl
      (fun ports id => ports.modify id fun p => { p with deviceId := none }) s.ports }

theorem contains_amend (s : Substrate) (id : String) (f : Port → Port) (other : String) :
    (s.amend id f).ports.contains other = s.ports.contains other := by
  change ((s.ports.modify id f).get? other).isSome = (s.ports.get? other).isSome
  rw [IdMap.get?_modify]
  split <;> simp

theorem pluggedPortIds_insert (plugged : IdMap (List String)) (ids : List String)
    (h : s.plugged = plugged.insert c ids) (c' : String) :
    s.pluggedPortIds c' = if c' = c then ids else (plugged.get? c').getD [] := by
  unfold pluggedPortIds
  rw [h, IdMap.get?_insert]
  split <;> rfl

/-- A port is listed last by its new instance, and no port twice. -/
theorem pluggedPortIds_attach (s : Substrate) (c portId c' : String) :
    (s.attach c portId).pluggedPortIds c' =
      if c' = c ∧ portId ∉ s.pluggedPortIds c then s.pluggedPortIds c ++ [portId]
      else s.pluggedPortIds c' := by
  rw [pluggedPortIds_insert _ _ rfl c']
  by_cases hc : c' = c
  · subst hc
    by_cases hmem : portId ∈ s.pluggedPortIds c' <;> simp [hmem]
  · simp [hc, pluggedPortIds]

/-- An instance that leaves a network no longer lists the ports it had there. -/
theorem pluggedPortIds_detach (s : Substrate) (c networkId c' : String) :
    (s.detach c networkId).pluggedPortIds c' =
      if c' = c then (s.pluggedPortIds c).filter fun id => !(s.idsOn c networkId).contains id
      else s.pluggedPortIds c' := by
  rw [pluggedPortIds_insert _ _ rfl c']
  rfl

/-- A port that is removed is listed nowhere. -/
theorem pluggedPortIds_removePort (s : Substrate) (portId c : String) :
    (s.removePort portId).pluggedPortIds c =
      (s.pluggedPortIds c).filter fun id => id ≠ portId := by
  unfold pluggedPortIds removePort
  rw [IdMap.get?_map]
  cases s.plugged.get? c <;> simp

theorem get?_foldl_modify (ids : List String) (ports : IdMap Port) (f : Port → Port)
    (hf : ∀ p, f (f p) = f p) (id : String) :
    (ids.foldl (fun ports id => ports.modify id f) ports).get? id =
      if id ∈ ids then (ports.get? id).map f else ports.get? id := by
  induction ids generalizing ports with
  | nil => simp
  | cons head rest ih =>
    rw [List.foldl_cons, ih, IdMap.get?_modify]
    by_cases hhead : id = head
    · subst hhead
      cases ports.get? id <;> simp [hf]
    · simp [hhead]

/-- The ports that were taken off stay, without a device. -/
theorem get?_ports_detach (s : Substrate) (c networkId id : String) :
    (s.detach c networkId).ports.get? id =
      if id ∈ s.idsOn c networkId then (s.ports.get? id).map fun p => { p with deviceId := none }
      else s.ports.get? id :=
  get?_foldl_modify _ _ (fun p => { p with deviceId := none }) (fun _ => rfl) id

/-! What the changes do to the attachments -/

theorem pluggedPorts_addPort (hs : s.Sound) {p : Port} (hnew : s.ports.get? p.id = none)
    (c : String) : (s.addPort p).pluggedPorts c = s.pluggedPorts c := by
  refine pluggedPorts_congr (s := s) rfl fun id hid => ?_
  obtain ⟨q, hq⟩ := hs.exists_port hid
  have hne : id ≠ p.id := by
    intro h
    subst h
    simp [hnew] at hq
  simp [addPort, IdMap.get?_insert, hne]

theorem get?_ports_attach_of_ne {c portId id : String} (h : id ≠ portId) :
    (s.attach c portId).ports.get? id = s.ports.get? id :=
  (IdMap.get?_modify _ _ _ _).trans (if_neg h)

/-- A port that the instance does not list becomes its last one. -/
theorem pluggedPorts_attach_self {portId : String} {p : Port} (hp : s.ports.get? portId = some p)
    {c : String} (hfree : portId ∉ s.pluggedPortIds c) :
    (s.attach c portId).pluggedPorts c = s.pluggedPorts c ++ [{ p with deviceId := some c }] := by
  have hget : ∀ id ∈ s.pluggedPortIds c, (s.attach c portId).ports.get? id = s.ports.get? id :=
    fun id hid => get?_ports_attach_of_ne fun h => hfree (h ▸ hid)
  have hlast : (s.attach c portId).ports.get? portId = some { p with deviceId := some c } := by
    simp [attach, IdMap.get?_modify, hp]
  unfold pluggedPorts
  rw [pluggedPortIds_attach]
  simp only [hfree, not_false_iff, and_self, if_true, List.filterMap_append,
    List.filterMap_congr hget, List.filterMap_cons, hlast, List.filterMap_nil]

/-- A port that is plugged into no instance becomes the last one of the instance. -/
theorem pluggedPorts_attach {portId : String} {p : Port} (hp : s.ports.get? portId = some p)
    (hfree : ∀ c, portId ∉ s.pluggedPortIds c) (c c' : String) :
    (s.attach c portId).pluggedPorts c' =
      if c' = c then s.pluggedPorts c ++ [{ p with deviceId := some c }]
      else s.pluggedPorts c' := by
  split
  next hc =>
    subst hc
    exact pluggedPorts_attach_self hp (hfree _)
  next hc =>
    apply pluggedPorts_congr
    · rw [pluggedPortIds_attach, if_neg fun h => hc h.1]
    · exact fun id hid => get?_ports_attach_of_ne fun h => hfree c' (h ▸ hid)

/-- A port that changes keeps its place in the list. -/
theorem pluggedPorts_amend (hs : s.Sound) (portId : String) (f : Port → Port) (c : String) :
    (s.amend portId f).pluggedPorts c =
      (s.pluggedPorts c).map fun p => if p.id = portId then f p else p := by
  unfold pluggedPorts
  rw [List.map_filterMap]
  apply List.filterMap_congr
  intro id _
  change (s.ports.modify portId f).get? id = _
  rw [IdMap.get?_modify]
  cases hget : s.ports.get? id with
  | none => simp
  | some p =>
    obtain rfl := hs.own_id hget
    by_cases hid : p.id = portId <;> simp [hid]

theorem pluggedPorts_removePort (hs : s.Sound) (portId c : String) :
    (s.removePort portId).pluggedPorts c = (s.pluggedPorts c).filter fun p => p.id ≠ portId := by
  unfold pluggedPorts
  rw [pluggedPortIds_removePort, List.filterMap_filter, List.filter_filterMap]
  apply List.filterMap_congr
  intro id _
  change (if _ then (s.ports.erase portId).get? id else none) = _
  rw [IdMap.get?_erase]
  cases hget : s.ports.get? id with
  | none => simp
  | some p =>
    obtain rfl := hs.own_id hget
    by_cases hid : p.id = portId <;> simp [hid, Option.filter]

theorem mem_idsOn {c networkId id : String} : id ∈ s.idsOn c networkId ↔
    id ∈ s.pluggedPortIds c ∧ ∃ p, s.ports.get? id = some p ∧ p.networkId = networkId := by
  simp [idsOn, Option.any_eq_true]

theorem pluggedPorts_detach_self (s : Substrate) (c networkId : String) :
    (s.detach c networkId).pluggedPorts c =
      (s.pluggedPorts c).filter fun p => p.networkId ≠ networkId := by
  unfold pluggedPorts
  rw [pluggedPortIds_detach, if_pos rfl, List.filterMap_filter, List.filter_filterMap]
  apply List.filterMap_congr
  intro id hid
  rw [get?_ports_detach]
  cases hget : s.ports.get? id with
  | none => simp
  | some p =>
    by_cases hnet : p.networkId = networkId
    · have hmem : id ∈ s.idsOn c networkId := mem_idsOn.mpr ⟨hid, p, hget, hnet⟩
      simp [hmem, hnet, Option.filter]
    · have hmem : id ∉ s.idsOn c networkId := by
        intro hmem
        obtain ⟨_, q, hq, hqnet⟩ := mem_idsOn.mp hmem
        rw [hget] at hq
        cases hq
        exact hnet hqnet
      simp [hmem, hnet, Option.filter]

/-- An instance that shares no port is not affected when another one leaves a network. -/
theorem pluggedPorts_detach_other (hx : s.Exclusive) {c c' : String} (hc : c' ≠ c)
    (networkId : String) : (s.detach c networkId).pluggedPorts c' = s.pluggedPorts c' := by
  apply pluggedPorts_congr
  · rw [pluggedPortIds_detach, if_neg hc]
  · intro id hid
    have hmem : id ∉ s.idsOn c networkId := fun h => hc (hx hid (mem_idsOn.mp h).1)
    rw [get?_ports_detach, if_neg hmem]

end AmphoraWiring.Substrate
