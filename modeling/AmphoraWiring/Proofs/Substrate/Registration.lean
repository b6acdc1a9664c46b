import AmphoraWiring.Proofs.Substrate.Coherence
import AmphoraWiring.Proofs.Substrate.Keeping

/-!
Networks come and never go. A port is made only on a network that is registered, and whatever else
a call does to a port, it leaves it on its network. So after any history the network of each port
can be looked up, as the subnets of its addresses can. A substrate in which all references can be
followed in this way is well formed.
-/
namespace AmphoraWiring.Substrate

open Action

variable {s t : Substrate}

/-- The network of each port is registered. -/
def Networked (s : Substrate) : Prop :=
  ∀ id p, s.ports.get? id = some p → s.networks.contains p.networkId

/-- The maps agree with each other, and each port is on a registered network. -/
structure WellFormed (s : Substrate) : Prop where
  coherent : s.Coherent
  networked : s.Networked

namespace Networked

theorem empty : Networked {} := fun id p hp => by simp at hp

/-- As long as no network goes, ports may come to have other ids and may go. -/
theorem of_networks (hs : s.Networked)
    (hnetworks : ∀ networkId, s.networks.contains networkId → t.networks.contains networkId)
    (hports : ∀ id q, t.ports.get? id = some q →
      ∃ id' p, s.ports.get? id' = some p ∧ q.networkId = p.networkId) : t.Networked := by
  intro id q hq
  obtain ⟨id', p, hp, hsame⟩ := hports id q hq
  rw [hsame]
  exact hnetworks _ (hs id' p hp)

theorem of_eq (hs : s.Networked) (hports : t.ports = s.ports)
    (hnetworks : t.networks = s.networks) : t.Networked :=
  hs.of_networks (fun _ h => hnetworks ▸ h) fun id q hq => ⟨id, q, hports ▸ hq, rfl⟩

theorem samePorts (hs : s.Networked) (h : s.SamePorts t) : t.Networked :=
  hs.of_eq h.ports h.networks

/-- A port may be stored if its network is registered. -/
theorem putPort (hs : s.Networked) {p : Port} (hp : s.networks.contains p.networkId) :
    ({ s with ports := s.ports.insert p.id p } : Substrate).Networked := by
  intro id q hq
  rw [IdMap.get?_insert] at hq
  split at hq
  · cases hq
    exact hp
  · exact hs id q hq

theorem erasePort (hs : s.Networked) (id : String) :
    ({ s with ports := s.ports.erase id } : Substrate).Networked := by
  intro id' q hq
  rw [IdMap.get?_erase] at hq
  split at hq
  · cases hq
  · exact hs id' q hq

theorem addInstance (hs : s.Networked) (c : String) : (s.addInstance c).Networked := by
  unfold Substrate.addInstance
  split
  · exact hs
  · exact hs.of_eq rfl rfl

/-- A network that is registered anew replaces none but itself. -/
theorem setNetwork (hs : s.Networked) (id : String) (network : Network) :
    ({ s with networks := s.networks.insert id network } : Substrate).Networked := by
  refine hs.of_networks (fun networkId h => ?_) fun id q hq => ⟨id, q, hq, rfl⟩
  obtain ⟨known, hknown⟩ := IdMap.contains_iff.mp h
  rw [IdMap.contains_iff, IdMap.get?_insert]
  split
  · exact ⟨network, rfl⟩
  · exact ⟨known, hknown⟩

theorem addSubnet (hs : s.Networked) (subnet : Subnet) : (s.addSubnet subnet).Networked :=
  (hs.setNetwork subnet.networkId _).of_eq rfl rfl

theorem attach (hs : s.Networked) (c id : String) : (s.attach c id).Networked := by
  refine hs.of_networks (fun _ h => h) fun id' q hq => ?_
  rw [show (s.attach c id).ports.get? id' = _ from IdMap.get?_modify _ _ _ _] at hq
  split at hq
  · obtain ⟨p, hp, rfl⟩ := Option.map_eq_some_iff.mp hq
    exact ⟨id', p, hp, rfl⟩
  · exact ⟨id', q, hq, rfl⟩

theorem injectFault (hs : s.Networked) (op : Operation) (times : Nat) (e : NetworkError) :
    (s.injectFault op times e).Networked := by
  unfold Substrate.injectFault
  split
  · exact hs
  · exact hs.of_eq rfl rfl

end Networked

theorem lasting_networked : Lasting Networked where
  of_eq hs hports _ hnetworks _ := hs.of_eq hports hnetworks
  amend := by
    intro s f id hs hf
    refine hs.of_networks (fun _ h => h) fun id' q hq => ?_
    rw [show (s.amend id f).ports.get? id' = _ from IdMap.get?_modify _ _ _ _] at hq
    split at hq
    · obtain ⟨p, hp, rfl⟩ := Option.map_eq_some_iff.mp hq
      exact ⟨id', p, hp, (hf p).2.1⟩
    · exact ⟨id', q, hq, rfl⟩
  detach := by
    intro s c networkId hs
    refine hs.of_networks (fun _ h => h) fun id q hq => ?_
    rw [get?_ports_detach] at hq
    split at hq
    · obtain ⟨p, hp, rfl⟩ := Option.map_eq_some_iff.mp hq
      exact ⟨id, p, hp, rfl⟩
    · exact ⟨id, q, hq, rfl⟩
  removePort := by
    intro s id hs
    exact (hs.erasePort id).of_eq rfl rfl

/-! Calls that make a port or plug one in -/

/-- A new port is on a registered network. -/
theorem ends_newPort_networked (hs : s.Networked) (request : PortRequest) :
    (newPort request).Ends s
      (fun p t => t.Networked ∧ t.networks.contains p.networkId)
      fun _ t => t.Networked := by
  have hips : ∀ network, s.networks.get? request.networkId = some network →
      (resolveFixedIps request.networkId (PortRequest.wishes request network)).Ends s
        (fun _ u => u.Networked ∧ u.networks.contains request.networkId)
        fun _ u => u.Networked := by
    intro network hnetwork
    have hknown : s.networks.contains request.networkId := IdMap.contains_iff.mpr ⟨_, hnetwork⟩
    apply (ends_resolveFixedIps request.networkId _ s).mono
    · intro ips u hend
      exact ⟨hs.samePorts hend.1.samePorts, hend.1.samePorts.networks ▸ hknown⟩
    · exact fun e u hend => hs.samePorts hend.1.samePorts
  refine (ends_newPort_resolved (fun _ _ => hs) hips).imp_ok ?_
  intro p t hend
  obtain ⟨ips, u, ⟨hu, hknown⟩, rfl, rfl⟩ := hend
  exact ⟨(hu.putPort hknown).of_eq rfl rfl, hknown⟩

/-- A port is made on a registered network only. -/
theorem maintains_newPort (request : PortRequest) : Maintains Networked s (newPort request) :=
  fun hs => (ends_newPort_networked hs request).imp_ok fun _ _ h => h.1

theorem maintains_plug (c id : String) : Maintains Networked s (plug c id) := by
  refine fun hs => (ends_plug c id s).mono (fun _ _ hend => ?_) fun _ _ hend => hend.1 ▸ hs
  obtain ⟨rfl, -⟩ := hend
  exact hs.attach c id

/-- The port of the address is stored again, on the network on which it was found or made. -/
theorem ends_answerVip_networked (hs : s.Networked) (lb : LoadBalancer) {p : Port}
    (hp : s.networks.contains p.networkId) :
    (answerVip lb p).Ends s (fun _ t => t.Networked) fun _ t => t.Networked := by
  apply (ends_answerVip lb p s).mono
  · intro allocated t hend
    obtain ⟨-, ips, u, hallocating, rfl⟩ := hend
    have hu : u.Networked := hs.samePorts hallocating.samePorts
    exact hu.putPort (p := p.addIps ips) (hallocating.samePorts.networks ▸ hp)
  · exact fun _ _ h => hs.samePorts h.samePorts

theorem maintains_allocateVip (lb : LoadBalancer) : Maintains Networked s (allocateVip lb) := by
  rw [allocateVip_eq]
  refine lasting_networked.on_call fun t => .on_get fun ht => ?_
  cases hport : t.vipPort? lb.vip with
  | some p =>
    obtain ⟨id, -, hp⟩ := Option.bind_eq_some_iff.mp hport
    exact ends_answerVip_networked ht lb (ht id p hp)
  | none =>
    exact (ends_newPort_networked ht (vipPortRequest lb)).bind
      (fun p u hend => ends_answerVip_networked hend.1 lb hend.2) fun _ _ h => h

theorem maintains_plugAapPort (vip : Vip) (amphora : Amphora) (subnet : Subnet) :
    Maintains Networked s (plugAapPort vip amphora subnet) := by
  have hplug : ∀ (c id : String) (t : Substrate),
      Maintains Networked t (plugBase vip amphora c id) := fun c id t =>
    (maintains_plug c id).bind fun _ _ => .on_get (.of_pure _)
  rw [plugAapPort_eq]
  refine lasting_networked.on_call fun t => .bind (.of_orFail _ _) fun c u =>
    .bind (.of_portsOfInstance c) fun _ v => .on_get ?_
  cases v.basePortOf amphora with
  | some id => exact hplug c id v
  | none => exact (maintains_newPort _).bind fun p w => hplug c p.id w

/-- Every command keeps ports on registered networks. -/
theorem networked_command (command : Command) : Maintains Networked s command.perform := by
  cases command with
  | createPort request =>
    exact .drop (lasting_networked.on_call fun _ => maintains_newPort request)
  | plugPort amphora port =>
    exact lasting_networked.on_call fun t => .bind (.of_orFail _ _) fun c _ =>
      maintains_plug c port.id
  | allocateVip lb => exact (maintains_allocateVip lb).drop
  | plugAapPort vip amphora subnet => exact (maintains_plugAapPort vip amphora subnet).drop
  | _ => exact lasting_networked.command trivial

/-- A port that is seeded under the id of its interface stays on its network. -/
theorem maintains_seedInterface (c : String) (interface : Interface) :
    Maintains Networked s (seedInterface c interface) := by
  have hplug : ∀ (p : Port) (t : Substrate), Maintains Networked t (do
      modify fun s => s.addInstance c
      plug c p.id
      return p) := fun p t =>
    .on_modify (fun ht => ht.addInstance c) ((maintains_plug c p.id).bind fun _ _ => .of_pure p)
  intro hs
  refine (ends_newPort_networked hs _).bind ?_ (fun _ _ h => h)
  intro p t hend
  obtain ⟨ht, hknown⟩ := hend
  cases interface.portId with
  | none => exact hplug p t ht
  | some id =>
    have hrenamed : ({ t with ports := t.ports.erase p.id } : Substrate).networks.contains
        ({ p with id } : Port).networkId := hknown
    exact ends_modify (ends_modify (hplug _ _ ((ht.erasePort p.id).putPort hrenamed)))

/-! Histories -/

/-- What one event keeps. -/
theorem Networked.leaves (hs : s.Networked) (e : Event) : (e.leaves s).Networked := by
  refine Ends.state (p := Networked) ?_
  cases e with
  | command c => exact networked_command c hs
  | addNetwork network => exact ends_modify_last (hs.setNetwork network.id network)
  | addSubnet subnet => exact ends_modify_last (hs.addSubnet subnet)
  | addInstance c => exact ends_modify_last (hs.addInstance c)
  | removeInstance c => exact ends_modify_last (hs.of_eq rfl rfl)
  | seedInterface c interface => exact (maintains_seedInterface c interface).drop hs
  | setDownDelay polls => exact ends_modify_last (hs.of_eq rfl rfl)
  | manageSecurityGroups enabled => exact ends_modify_last (hs.of_eq rfl rfl)
  | injectFault op times e => exact ends_modify_last (hs.injectFault op times e)

/-- What a history keeps. -/
theorem Networked.after (hs : s.Networked) (events : List Event) : (s.after events).Networked := by
  induction events generalizing s with
  | nil => exact hs
  | cons e events ih => exact ih (hs.leaves e)

/-- From the empty substrate on, every state of a history is well formed. -/
theorem wellFormed_of_history {events : List Event} (h : Admits {} events) :
    (after {} events).WellFormed :=
  ⟨Coherent.empty.after h, Networked.empty.after events⟩

end AmphoraWiring.Substrate
