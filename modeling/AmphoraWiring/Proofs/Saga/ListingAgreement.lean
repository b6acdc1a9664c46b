import AmphoraWiring.Proofs.Saga.PortListings
import AmphoraWiring.Proofs.Substrate.Registration

/-!
The two listings of the ports of an amphora go through the same ports on their own. The listing for
members tells of each port in full, and it leaves out what is on the network of the virtual address;
in all else it agrees with the listing for the service.
-/
namespace AmphoraWiring

open Action

namespace Substrate

variable {s : Substrate} {p q : Port} {ps qs : List Port}

/-- The port with its network and the subnets of its addresses filled in as they are registered. -/
def detailed (s : Substrate) (p : Port) : Port :=
  { p with
    fixedIps := p.fixedIps.map fun ip => { ip with subnet := s.subnets.get? ip.subnetId }
    network := s.networks.get? p.networkId }

/-- The network of the port is registered, and so is the subnet of each of its addresses. -/
def References (s : Substrate) (p : Port) : Prop :=
  s.networks.contains p.networkId ∧ ∀ ip ∈ p.fixedIps, s.subnets.contains ip.subnetId

/-- In a well-formed substrate the network and the subnets of a port are known. -/
theorem WellFormed.references (hs : s.WellFormed) {id : String} (hp : s.ports.get? id = some p) :
    s.References p := by
  refine ⟨hs.networked id p hp, fun ip hip => ?_⟩
  obtain ⟨subnet, hsubnet, -⟩ := hs.coherent.served hp ip hip
  exact IdMap.contains_iff.mpr ⟨subnet, hsubnet⟩

theorem eq_map_detailed (h : List.Forall₂ s.Details ps qs) : qs = ps.map s.detailed := by
  induction h with
  | nil => rfl
  | cons hdetails _ ih => rw [List.map_cons, ih, hdetails.filled, detailed]

/-- A port that is not going down is read as it is. -/
theorem asRead_of_settled (h : s.pendingDown.get? p.id = none) : s.asRead p = p := by
  unfold asRead
  rw [h, if_neg (by simp)]

end Substrate

namespace Step

open Substrate

variable {run : Run Deployment} {amphora : Amphora} {lb : LoadBalancer} {vipPort : Port}

/-- The ports by which the service does not reach the amphora, in the order in which they were
plugged in. -/
def servicePorts (run : Run Deployment) (amphora : Amphora) : List Port :=
  (portsOf run amphora).filter fun p => !amphora.isManagementPort p

theorem filter_reaches (networkId : String) :
    (portsOf run amphora).filter (reaches amphora networkId) =
      (servicePorts run amphora).filter fun p => p.networkId ≠ networkId := by
  rw [servicePorts, List.filter_filter]
  refine List.filter_congr fun p _ => ?_
  rw [reaches, Bool.not_or, decide_not]

/-- Service ports are listed in the order in which they were plugged in. -/
theorem map_id_servicePorts_sublist (hs : run.state.substrate.Coherent) :
    ((servicePorts run amphora).map (·.id)).Sublist
      (run.state.substrate.pluggedPortIds amphora.instanceId) := by
  rw [← hs.map_id_pluggedPorts]
  exact List.filter_sublist.map _

/-- In a well-formed substrate in which no port is going down and no failure is scripted, both
listings succeed for an amphora whose instance exists, and the one for members, by way of any
existing port of a virtual address, lists what the one for the service lists, without the ports on
the network of that port. Both follow the order in which the ports were plugged in, neither repeats
one, and a port for members is the port for the service with its network and the subnets of its
addresses filled in, all of which are registered. -/
theorem listings_agree {vipPortId : String} (hs : run.state.substrate.WellFormed)
    (hquiet : run.state.substrate.faults = [])
    (hsettled : ∀ id, run.state.substrate.pendingDown.get? id = none)
    (hhosted : run.state.substrate.plugged.contains amphora.instanceId)
    (hvip : lb.vip.portId = some vipPortId)
    (hvipPort : run.state.substrate.ports.get? vipPortId = some vipPort) :
    ∃ service members run₁ run₂,
      (listServicePorts amphora).execute.runOn run = (.ok service, run₁) ∧
      (listMemberPorts lb amphora).execute.runOn run = (.ok members, run₂) ∧
      members = (service.filter fun p => p.networkId ≠ vipPort.networkId).map
        run.state.substrate.detailed ∧
      (∀ p ∈ service, run.state.substrate.References p) ∧
      (service.map (·.id)).Sublist (run.state.substrate.pluggedPortIds amphora.instanceId) ∧
      (service.map (·.id)).Nodup ∧ (members.map (·.id)).Nodup := by
  have hread : ∀ ps : List Port, ps.map run.state.substrate.asRead = ps := by
    intro ps
    refine (List.map_congr_left fun p _ => ?_).trans (List.map_id ps)
    exact asRead_of_settled (hsettled p.id)
  have hstored : ∀ p ∈ portsOf run amphora, ∃ id, run.state.substrate.ports.get? id = some p := by
    intro p hp
    obtain ⟨id, -, hget⟩ := mem_pluggedPorts.mp hp
    exact ⟨id, hget⟩
  have hnetworked : ∀ p ∈ portsOf run amphora,
      ∃ network, run.state.substrate.networks.get? p.networkId = some network := by
    intro p hp
    obtain ⟨id, hget⟩ := hstored p hp
    exact IdMap.contains_iff.mp (hs.networked id p hget)
  obtain ⟨service, run₁, hservice, hlisted⟩ :=
    (ends_listServicePorts hs.coherent hquiet hhosted).value
  obtain ⟨members, run₂, hmembers, hdetails⟩ :=
    (ends_listMemberPorts hs.coherent hquiet hhosted hnetworked hvip hvipPort).value
  have hservicePorts : service = servicePorts run amphora := hlisted.trans (hread _)
  have hmemberPorts : members = (service.filter fun p => p.networkId ≠ vipPort.networkId).map
      run.state.substrate.detailed := by
    rw [eq_map_detailed hdetails, hread, hservicePorts]
    exact congrArg _ (filter_reaches vipPort.networkId)
  have horder : ((servicePorts run amphora).map (·.id)).Sublist
      (run.state.substrate.pluggedPortIds amphora.instanceId) :=
    map_id_servicePorts_sublist hs.coherent
  have hnodup : ((servicePorts run amphora).map (·.id)).Nodup :=
    horder.nodup (hs.coherent.nodup amphora.instanceId)
  refine ⟨service, members, run₁, run₂, hservice, hmembers, hmemberPorts, fun p hp => ?_,
    ?_, ?_, ?_⟩
  · rw [hservicePorts] at hp
    obtain ⟨id, hget⟩ := hstored p (List.mem_of_mem_filter hp)
    exact hs.references hget
  · rwa [hservicePorts]
  · rwa [hservicePorts]
  · rw [hmemberPorts, List.map_map, hservicePorts]
    exact (List.filter_sublist.map (fun p : Port => p.id)).nodup hnodup

/-- An instance on the management network, on the network of a virtual address and on a network of
members. -/
def attachments : List Event :=
  [.addSubnet (Sample.subnet "mgmt-subnet" "mgmt-net" "192.168.0.0/24"),
   .addSubnet (Sample.subnet "vip-subnet" "vip-net" "10.0.0.0/24"),
   .addSubnet (Sample.subnet "subnet-b" "net-b" "10.0.1.0/24"),
   .seedInterface "vm-1" Sample.managementInterface,
   .seedInterface "vm-1" { Sample.memberInterface "vip-net" "vip-subnet" with
     portId := some "vip-port" },
   .seedInterface "vm-1" (Sample.memberInterface "net-b" "subnet-b")]

theorem attachments_admitted : Admits {} attachments := by
  refine ⟨fun known hknown => ?_, fun known hknown => ?_, fun known hknown => ?_, ?_, fun _ => ?_,
    ?_, trivial⟩
  · cases hknown
  · cases hknown
  · cases hknown
  · exact fun h => absurd rfl h
  · rfl
  · exact fun h => absurd rfl h

/-- The load balancer whose virtual address that port holds. -/
def attached : LoadBalancer :=
  { Sample.loadBalancer [overlapped] with
    vip := { subnetId := "vip-subnet", networkId := "vip-net", portId := some "vip-port" } }

/-- The listings agree on an amphora with a management port, a base port and member ports. -/
theorem listings_agree_sample :
    ∃ service members run₁ run₂,
      (listServicePorts overlapped).execute.runOn (Sample.start (after {} attachments)) =
        (.ok service, run₁) ∧
      (listMemberPorts attached overlapped).execute.runOn (Sample.start (after {} attachments)) =
        (.ok members, run₂) ∧
      members = (service.filter fun p => p.networkId ≠ "vip-net").map
        (after {} attachments).detailed ∧
      service.map (·.networkId) = ["vip-net", "net-b"] ∧
      members.map (·.networkId) = ["net-b"] := by
  have hs : (after {} attachments).WellFormed := wellFormed_of_history attachments_admitted
  obtain ⟨vipPort, hvipPort, hnetwork⟩ : ∃ p,
      (after {} attachments).ports.get? "vip-port" = some p ∧ p.networkId = "vip-net" := by
    decide +kernel
  have hpending : (after {} attachments).pendingDown = .empty := by rfl
  have hhosted : (after {} attachments).plugged.contains overlapped.instanceId := by
    decide +kernel
  have hnamed : attached.vip.portId = some "vip-port" := rfl
  have hlisted : ((listServicePorts overlapped).execute.runOn
      (Sample.start (after {} attachments))).1.toOption.map (·.map (·.networkId)) =
        some ["vip-net", "net-b"] := by
    decide +kernel
  have hreached : ((listMemberPorts attached overlapped).execute.runOn
      (Sample.start (after {} attachments))).1.toOption.map (·.map (·.networkId)) =
        some ["net-b"] := by
    decide +kernel
  obtain ⟨service, members, run₁, run₂, hservice, hmembers, hsame, -⟩ :=
    listings_agree (show (Sample.start (after {} attachments)).state.substrate.WellFormed from hs)
      (by rfl) (fun id => by simp [hpending]) hhosted hnamed hvipPort
  rw [hnetwork] at hsame
  rw [hservice] at hlisted
  rw [hmembers] at hreached
  exact ⟨service, members, run₁, run₂, hservice, hmembers, hsame, Option.some.inj hlisted,
    Option.some.inj hreached⟩

end Step

end AmphoraWiring
