import AmphoraWiring.Proofs.Seeding
import AmphoraWiring.Proofs.Substrate.Edits
import AmphoraWiring.Proofs.Substrate.Exclusivity
import AmphoraWiring.Proofs.Substrate.Fulfilment

/-!
What seeding an interface does. It gets a port of its own, under the id that it names or a drawn
one, and the port becomes the last one of the instance. Seeding fails exactly if the network is
missing or the addresses on it cannot all be had.
-/
namespace AmphoraWiring.Substrate

open Action

variable {s t u v : Substrate} {c : String} {i : Interface} {rest : List Interface}

def firstSubnet? (s : Substrate) (networkId : String) : Option String :=
  (s.networks.get? networkId).bind fun network => network.subnets.head?

/-- The addresses that the interface is to have: those that it names, or any one on the first
subnet of its network. -/
def wishesOf (s : Substrate) (i : Interface) : List FixedIp :=
  if i.fixedIps.isEmpty then
    (s.firstSubnet? i.networkId).toList.map fun id => { subnetId := id }
  else i.fixedIps

/-- Nothing stands in the way of seeding the interfaces. -/
structure Seedable (s : Substrate) (interfaces : List Interface) : Prop where
  network : ∀ i ∈ interfaces, s.networks.contains i.networkId
  registered : ∀ i ∈ interfaces, ∀ wish ∈ s.wishesOf i, s.Registered wish.subnetId i.networkId
  room : ∀ id, s.Room id (owed (interfaces.flatMap s.wishesOf) id)

/-- The port is what the interface is to have behind it. -/
structure Backs (s : Substrate) (i : Interface) (p : Port) : Prop where
  networkId : p.networkId = i.networkId
  vnicType : p.vnicType = i.vnicType
  portId : ∀ id ∈ i.portId, p.id = id
  fixedIps : List.Forall₂ (s.Fulfils i.networkId) (s.wishesOf i) p.fixedIps

/-- The ids that the interfaces name, and those that are to be drawn for them, are all different
and of no port yet. -/
structure Ready (s : Substrate) (interfaces : List Interface) : Prop where
  exists_port : ∀ c, ∀ id ∈ s.pluggedPortIds c, s.ports.contains id
  undrawn : ∀ n, s.drawn < n → n ≤ s.drawn + interfaces.length →
    s.ports.get? (drawnId n) = none
  unused : ∀ id ∈ interfaces.filterMap (·.portId), s.ports.get? id = none
  apart : ∀ id ∈ interfaces.filterMap (·.portId), ∀ n, s.drawn < n →
    n ≤ s.drawn + interfaces.length → id ≠ drawnId n
  nodup : (interfaces.filterMap (·.portId)).Nodup

/-- The id of the port that is made next for the interface. -/
def idOf (s : Substrate) (i : Interface) : String := i.portId.getD (drawnId (s.drawn + 1))

namespace Ready

/-- The id that an interface names is in no use before its port is made. -/
theorem unused_idOf (h : s.Ready (i :: rest)) : s.ports.get? (s.idOf i) = none := by
  unfold idOf
  cases hid : i.portId with
  | none => exact h.undrawn _ (Nat.lt_succ_self _) (by simp)
  | some id => exact h.unused id (by simp [hid])

/-- The ids of the interfaces to come differ from that of the first one. -/
theorem named_ne_idOf (h : s.Ready (i :: rest)) {id : String}
    (hid : id ∈ rest.filterMap (·.portId)) : id ≠ s.idOf i := by
  unfold idOf
  cases hfirst : i.portId with
  | none =>
    refine h.apart id ?_ _ (Nat.lt_succ_self _) (by simp)
    rwa [List.filterMap_cons, hfirst]
  | some first =>
    have hnodup := h.nodup
    rw [List.filterMap_cons, hfirst] at hnodup
    rw [Option.getD_some]
    exact fun heq => (List.nodup_cons.mp hnodup).1 (heq ▸ hid)

/-- The ids that are still to be drawn are not the one that is named. -/
theorem drawn_ne_idOf (h : s.Ready (i :: rest)) {n : Nat} (hlow : s.drawn + 1 < n)
    (hhigh : n ≤ s.drawn + 1 + rest.length) : drawnId n ≠ s.idOf i := by
  unfold idOf
  cases hfirst : i.portId with
  | none =>
    intro heq
    have := drawnId_injective heq
    omega
  | some first =>
    refine (h.apart first ?_ n (by omega) ?_).symm
    · rw [List.filterMap_cons, hfirst]
      exact List.mem_cons_self
    · rw [List.length_cons]
      omega

/-- What is left to be seeded after the first interface. -/
theorem tail (h : s.Ready (i :: rest)) (hdrawn : t.drawn = s.drawn + 1)
    (hports : ∀ k, t.ports.contains k = (decide (k = s.idOf i) || s.ports.contains k))
    (hids : ∀ c, ∀ id ∈ t.pluggedPortIds c, id = s.idOf i ∨ id ∈ s.pluggedPortIds c) :
    t.Ready rest := by
  have hnone : ∀ k, k ≠ s.idOf i → s.ports.get? k = none → t.ports.get? k = none := by
    intro k hne hk
    rw [← IdMap.contains_eq_false_iff] at hk ⊢
    rw [hports, hk]
    simpa using hne
  have hnamed : ∀ id ∈ rest.filterMap (·.portId), id ∈ (i :: rest).filterMap (·.portId) :=
    fun id hid => ((List.sublist_cons_self i rest).filterMap _).subset hid
  constructor
  case exists_port =>
    intro c id hid
    rw [hports]
    rcases hids c id hid with rfl | hold
    · simp
    · simp [h.exists_port c id hold]
  case undrawn =>
    intro n hlow hhigh
    rw [hdrawn] at hlow hhigh
    refine hnone _ (h.drawn_ne_idOf hlow hhigh) (h.undrawn n (by omega) ?_)
    rw [List.length_cons]
    omega
  case unused =>
    intro id hid
    exact hnone id (h.named_ne_idOf hid) (h.unused id (hnamed id hid))
  case apart =>
    intro id hid n hlow hhigh
    rw [hdrawn] at hlow hhigh
    refine h.apart id (hnamed id hid) n (by omega) ?_
    rw [List.length_cons]
    omega
  case nodup => exact h.nodup.sublist ((List.sublist_cons_self i rest).filterMap _)

end Ready

/-- No trace is left of the id that was drawn. -/
theorem renamePort_addPort {p : Port} (hnew : s.ports.get? p.id = none) (id : String) :
    (s.addPort p).renamePort p id = s.addPort { p with id } := by
  unfold renamePort addPort
  rw [IdMap.erase_insert, IdMap.erase_of_get?_eq_none hnew]

/-- The substrate after the port was made and plugged into the instance, which may be new. -/
def seat (s : Substrate) (c : String) (p : Port) : Substrate :=
  ((s.addPort p).addInstance c).attach c p.id

section Seat

variable {p : Port} (hlisted : ∀ c, ∀ id ∈ s.pluggedPortIds c, s.ports.contains id)
  (hnew : s.ports.get? p.id = none)

theorem pluggedPortIds_addPort_addInstance (s : Substrate) (p : Port) (c c' : String) :
    ((s.addPort p).addInstance c).pluggedPortIds c' = s.pluggedPortIds c' :=
  pluggedPortIds_addInstance _ c c'

include hlisted hnew in
theorem not_listed_of_new (c : String) : p.id ∉ s.pluggedPortIds c := by
  intro hmem
  have hcontains := hlisted c p.id hmem
  rw [IdMap.contains_eq_false_iff.mpr hnew] at hcontains
  cases hcontains

include hlisted hnew in
/-- The port becomes the last one of the instance. -/
theorem pluggedPorts_seat (c c' : String) :
    (s.seat c p).pluggedPorts c' =
      if c' = c then s.pluggedPorts c ++ [{ p with deviceId := some c }]
      else s.pluggedPorts c' := by
  have hfree := not_listed_of_new hlisted hnew
  have hids := pluggedPortIds_addPort_addInstance s p c
  have hold : ∀ c', ((s.addPort p).addInstance c).pluggedPorts c' = s.pluggedPorts c' := by
    intro c'
    refine pluggedPorts_congr (hids c') fun id hid => ?_
    have hne : id ≠ p.id := fun heq => hfree c' (heq ▸ hid)
    rw [ports_addInstance, addPort, IdMap.get?_insert, if_neg hne]
  have hp : ((s.addPort p).addInstance c).ports.get? p.id = some p := by
    rw [ports_addInstance]
    exact IdMap.get?_insert_self _ _ _
  rw [seat, pluggedPorts_attach hp (fun c' => hids c' ▸ hfree c'), hold, hold]

end Seat

theorem contains_ports_seat (s : Substrate) (c : String) (p : Port) (k : String) :
    (s.seat c p).ports.contains k = (decide (k = p.id) || s.ports.contains k) := by
  rw [seat, contains_ports_attach, ports_addInstance, addPort, IdMap.contains, IdMap.get?_insert]
  split
  next heq => simp [heq]
  next hne => simp [hne, IdMap.contains]

theorem contains_plugged_addInstance_self (s : Substrate) (c : String) :
    (s.addInstance c).plugged.contains c := by
  unfold addInstance
  split
  next h => exact h
  next => exact IdMap.contains_iff.mpr ⟨[], IdMap.get?_insert_self _ _ _⟩

theorem contains_plugged_addInstance {c' : String} (h : s.plugged.contains c') (c : String) :
    (s.addInstance c).plugged.contains c' := by
  unfold addInstance
  split
  next => exact h
  next =>
    rw [IdMap.contains, IdMap.get?_insert]
    split
    next => rfl
    next => exact h

theorem contains_plugged_seat {c' : String} (h : s.plugged.contains c') (c : String) (p : Port) :
    (s.seat c p).plugged.contains c' := by
  have hold : ((s.addPort p).addInstance c).plugged.contains c' :=
    contains_plugged_addInstance (s := s.addPort p) h c
  change (IdMap.insert _ _ _).contains c' = true
  rw [IdMap.contains, IdMap.get?_insert]
  split
  next => rfl
  next => exact hold

theorem drawn_seat (s : Substrate) (c : String) (p : Port) :
    (s.seat c p).drawn = s.drawn + 1 := drawn_addInstance (s.addPort p) c

theorem allocated_seat (s : Substrate) (c : String) (p : Port) :
    (s.seat c p).allocated = s.allocated := by
  unfold seat addInstance
  split <;> rfl

theorem sameNetworks_seat (s : Substrate) (c : String) (p : Port) :
    s.SameNetworks (s.seat c p) := by
  unfold seat addInstance
  split <;> exact ⟨rfl, rfl, fun h => h⟩

theorem mem_pluggedPortIds_seat {c c' id : String} {p : Port}
    (h : id ∈ (s.seat c p).pluggedPortIds c') : id = p.id ∨ id ∈ s.pluggedPortIds c' := by
  rw [seat, mem_pluggedPortIds_attach_iff, pluggedPortIds_addPort_addInstance] at h
  exact h.elim .inr fun h => .inl h.2

/-- Plugging in the new port succeeds. -/
theorem ends_plug_seat (s : Substrate) (c : String) (p : Port) :
    Ends (do modify fun s => s.addInstance c; plug c p.id; return p) (s.addPort p)
      (fun _ t => t = s.seat c p) fun _ _ => False := by
  refine ends_modify ((ends_plug c p.id _).bind ?_ ?_)
  · intro _ t hend
    exact ends_pure hend.1
  · intro e t hend
    obtain ⟨-, hwhy⟩ := hend
    have hmissing := hwhy (contains_plugged_addInstance_self _ c)
    rw [ports_addInstance, addPort, IdMap.get?_insert_self] at hmissing
    cases hmissing

/-- The interfaces that were seeded for the instance. -/
def interfacesOf (c : String) (seeded : List (String × Interface)) : List Interface :=
  (seeded.filter fun e => e.1 = c).map (·.2)

/-- From `s` to `t`, the interfaces have been seeded one after the other. -/
structure Seeding (s t : Substrate) (seeded : List (String × Interface)) : Prop
    extends s.SameNetworks t where
  seedable : s.Seedable (seeded.map (·.2))
  counts : s.Counts t (owed ((seeded.map (·.2)).flatMap s.wishesOf))
  plugged : ∀ c, ∃ ports, t.pluggedPorts c = s.pluggedPorts c ++ ports ∧
    List.Forall₂ s.Backs (interfacesOf c seeded) ports
  hosts : ∀ c, s.plugged.contains c → t.plugged.contains c

/-- What is asked for on behalf of the interface. -/
def requestFor (i : Interface) : PortRequest where
  networkId := i.networkId
  name := ""
  fixedIps := i.fixedIps
  vnicType := i.vnicType

theorem wishes_requestFor {network : Network}
    (h : s.networks.get? i.networkId = some network) :
    PortRequest.wishes (requestFor i) network = s.wishesOf i := by
  unfold PortRequest.wishes wishesOf firstSubnet?
  rw [h, Option.bind_some]
  rfl

/-- One interface can be seeded if its network is there and can fulfil its wishes. -/
theorem seedable_singleton_iff : s.Seedable [i] ↔
    s.networks.contains i.networkId ∧ s.Capable i.networkId (s.wishesOf i) := by
  constructor
  · intro h
    refine ⟨h.network i List.mem_cons_self, h.registered i List.mem_cons_self, fun id => ?_⟩
    simpa only [List.flatMap_singleton] using h.room id
  · intro ⟨hnetwork, hcapable⟩
    refine ⟨List.forall_mem_singleton.mpr hnetwork,
      List.forall_mem_singleton.mpr hcapable.registered, fun id => ?_⟩
    simpa only [List.flatMap_singleton] using hcapable.room id

theorem Fulfilled.samePorts {networkId : String} {wishes ips : List FixedIp}
    (h : s.Fulfilled t networkId wishes ips) : s.SamePorts t := by
  obtain ⟨allocations, rfl⟩ := h.rest
  exact ⟨⟨rfl, rfl, fun h => h⟩, rfl, rfl, rfl⟩

theorem backs_requestFor {ips : List FixedIp}
    (h : List.Forall₂ (s.Fulfils i.networkId) (s.wishesOf i) ips) (deviceId : Option String) :
    s.Backs i { (requestFor i).port (s.idOf i) ips with deviceId } where
  networkId := rfl
  vnicType := rfl
  portId := fun id hid => by
    change s.idOf i = id
    rw [idOf, hid, Option.getD_some]
  fixedIps := h

/-- The port that is made for the interface makes it seeded. -/
theorem Fulfilled.seeding {ips : List FixedIp}
    (h : s.Fulfilled t i.networkId (s.wishesOf i) ips) (hready : s.Ready (i :: rest))
    (hnetwork : s.networks.contains i.networkId) (c : String) :
    s.Seeding (t.seat c ((requestFor i).port (s.idOf i) ips)) [(c, i)] := by
  have hsame := h.samePorts
  refine ⟨hsame.toSameNetworks.trans (sameNetworks_seat _ _ _), ?_, ?_, fun c' => ?_,
    fun c' hc' => ?_⟩
  · exact seedable_singleton_iff.mpr ⟨hnetwork, h.capable⟩
  · intro id subnet cidr hsubnet hcidr
    rw [allocated_seat, List.map_singleton, List.flatMap_singleton]
    exact h.counts id subnet cidr hsubnet hcidr
  · have hlisted : ∀ c, ∀ id ∈ t.pluggedPortIds c, t.ports.contains id := by
      intro c id hid
      rw [hsame.pluggedPortIds] at hid
      rw [hsame.ports]
      exact hready.exists_port c id hid
    have hnew : t.ports.get? ((requestFor i).port (s.idOf i) ips).id = none := by
      rw [hsame.ports]
      exact hready.unused_idOf
    rw [pluggedPorts_seat hlisted hnew, hsame.pluggedPorts, hsame.pluggedPorts]
    by_cases hc : c' = c
    · subst hc
      refine ⟨_, if_pos rfl, ?_⟩
      simpa [interfacesOf] using backs_requestFor h.fulfils (some c')
    · refine ⟨[], (if_neg hc).trans (List.append_nil _).symm, ?_⟩
      simp [interfacesOf, Ne.symm hc]
  · exact contains_plugged_seat (hsame.plugged ▸ hc') c _

/-- What the later interfaces need is left when the first one is seeded. -/
theorem Fulfilled.ready {ips : List FixedIp}
    (h : s.Fulfilled t i.networkId (s.wishesOf i) ips) (hready : s.Ready (i :: rest))
    (c : String) : (t.seat c ((requestFor i).port (s.idOf i) ips)).Ready rest := by
  have hsame := h.samePorts
  refine hready.tail ?_ (fun k => ?_) fun c id hid => ?_
  · rw [drawn_seat, hsame.drawn]
  · rw [contains_ports_seat, hsame.ports]
    rfl
  · rw [← hsame.pluggedPortIds]
    exact mem_pluggedPortIds_seat hid

/-- The port of an interface is made on its network, with its wishes fulfilled. -/
theorem ends_newPort_fulfilled (s : Substrate) (i : Interface) : (newPort (requestFor i)).Ends s
    (fun p t => ∃ ips u, (s.networks.contains i.networkId ∧
        s.Fulfilled u i.networkId (s.wishesOf i) ips) ∧
      p = (requestFor i).port (drawnId (u.drawn + 1)) ips ∧ t = u.addPort p)
    fun _ _ => ¬ s.Seedable [i] := by
  apply ends_newPort_resolved
  · intro hnone e hseedable
    have hmissing : s.networks.contains i.networkId = false :=
      IdMap.contains_eq_false_iff.mpr hnone
    have hnetwork := (seedable_singleton_iff.mp hseedable).1
    rw [hmissing] at hnetwork
    cases hnetwork
  · intro network hnetwork
    rw [wishes_requestFor hnetwork]
    apply (ends_resolveFixedIps_fulfilled i.networkId (s.wishesOf i) s).mono
    · exact fun ips u h => ⟨IdMap.contains_iff.mpr ⟨network, hnetwork⟩, h⟩
    · exact fun e u h hseedable => h (seedable_singleton_iff.mp hseedable).2

/-- Seeding an interface fails only if it cannot be seeded. -/
theorem ends_seedInterface_ready (hready : s.Ready (i :: rest)) (c : String) :
    (seedInterface c i).Ends s
      (fun _ t => s.Seeding t [(c, i)] ∧ t.Ready rest)
      fun _ _ => ¬ s.Seedable [i] := by
  refine (ends_newPort_fulfilled s i).bind ?_ (fun _ _ h => h)
  intro p t hend
  obtain ⟨ips, u, ⟨hnetwork, hfulfilled⟩, rfl, rfl⟩ := hend
  have hdrawn : u.drawn = s.drawn := hfulfilled.samePorts.drawn
  have hseat : Ends (do
      modify fun s => s.addInstance c
      plug c ((requestFor i).port (s.idOf i) ips).id
      return (requestFor i).port (s.idOf i) ips) (u.addPort ((requestFor i).port (s.idOf i) ips))
      (fun _ t => s.Seeding t [(c, i)] ∧ t.Ready rest) fun _ _ => ¬ s.Seedable [i] := by
    apply (ends_plug_seat u c _).mono
    · intro _ t hend
      obtain rfl := hend
      exact ⟨hfulfilled.seeding hready hnetwork c, hfulfilled.ready hready c⟩
    · exact fun _ _ h => h.elim
  cases hid : i.portId with
  | none =>
    have hdrawnId : s.idOf i = drawnId (u.drawn + 1) := by
      rw [idOf, hid, Option.getD_none, hdrawn]
    rw [hdrawnId] at hseat
    exact ends_bind_of_ok rfl hseat
  | some id =>
    have hnamed : s.idOf i = id := by rw [idOf, hid, Option.getD_some]
    have hnew : u.ports.get? (drawnId (u.drawn + 1)) = none := by
      rw [hfulfilled.samePorts.ports, hdrawn]
      exact hready.undrawn _ (Nat.lt_succ_self _) (by simp)
    have hrenamed := renamePort_addPort
      (p := (requestFor i).port (drawnId (u.drawn + 1)) ips) hnew id
    rw [hnamed] at hseat
    refine ends_modify (ends_modify ?_)
    change Ends _ ((u.addPort ((requestFor i).port (drawnId (u.drawn + 1)) ips)).renamePort
      ((requestFor i).port (drawnId (u.drawn + 1)) ips) id) _ _
    rw [hrenamed]
    exact hseat

end AmphoraWiring.Substrate
