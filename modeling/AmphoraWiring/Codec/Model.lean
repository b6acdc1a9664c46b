import AmphoraWiring.Codec.Record
import AmphoraWiring.Config.Basic
import AmphoraWiring.Delta.Basic
import AmphoraWiring.Substrate.Snapshot

/-!
The documents of the library's records: the names of their fields, the order in which they are
written, and what stands for a field that is missing.
-/
namespace AmphoraWiring

open Codec Fields

def VnicType.codec : Codec VnicType :=
  enumeration ([VnicType.normal, .direct].map fun v => (v.name, v)) VnicType.name

def PortStatus.codec : Codec PortStatus :=
  enumeration ([PortStatus.active, .build, .down, .error].map fun s => (s.name, s)) PortStatus.name

def ProvisioningStatus.codec : Codec ProvisioningStatus :=
  enumeration
    ([ProvisioningStatus.active, .pendingCreate, .pendingUpdate, .pendingDelete, .deleted,
      .error].map fun s => (s.name, s)) ProvisioningStatus.name

def AmphoraStatus.codec : Codec AmphoraStatus :=
  enumeration
    ([AmphoraStatus.allocated, .booting, .ready, .pendingCreate, .pendingDelete, .deleted,
      .error].map fun s => (s.name, s)) AmphoraStatus.name

def PortDeletion.codec : Codec PortDeletion :=
  enumeration ([PortDeletion.skipped, .deleted, .abandoned].map fun d => (d.name, d))
    PortDeletion.name

def Member.codec : Codec Member :=
  record "Member"
    (required "id" text <| defaulted "subnet_id" text.option none <|
      defaulted "provisioning_status" ProvisioningStatus.codec .active <|
      defaulted "vnic_type" VnicType.codec .normal .done)
    (fun (id, subnet, status, vnic, ()) => ⟨id, subnet, status, vnic⟩)
    (fun m => (m.id, m.subnetId, m.provisioningStatus, m.vnicType, ()))

def Pool.codec : Codec Pool :=
  record "Pool"
    (required "id" text <| defaulted "members" Member.codec.list [] .done)
    (fun (id, members, ()) => ⟨id, members⟩)
    (fun p => (p.id, p.members, ()))

def Vip.codec : Codec Vip :=
  record "Vip"
    (defaulted "ip_address" address.option none <| required "subnet_id" text <|
      required "network_id" text <| defaulted "port_id" text.option none <|
      defaulted "qos_policy_id" text.option none <| defaulted "sg_ids" text.list [] <|
      defaulted "vnic_type" VnicType.codec .normal <|
      defaulted "load_balancer_id" text.option none .done)
    (fun (ip, subnet, network, port, qos, sgs, vnic, lb, ()) =>
      ⟨ip, subnet, network, port, qos, sgs, vnic, lb⟩)
    (fun v => (v.ipAddress, v.subnetId, v.networkId, v.portId, v.qosPolicyId, v.sgIds,
      v.vnicType, v.loadBalancerId, ()))

def AdditionalVip.codec : Codec AdditionalVip :=
  record "AdditionalVip"
    (defaulted "ip_address" address.option none <| required "subnet_id" text <|
      defaulted "network_id" text.option none <| defaulted "port_id" text.option none .done)
    (fun (ip, subnet, network, port, ()) => ⟨ip, subnet, network, port⟩)
    (fun v => (v.ipAddress, v.subnetId, v.networkId, v.portId, ()))

def Amphora.codec : Codec Amphora :=
  record "Amphora"
    (required "id" text <| defaulted "load_balancer_id" text.option none <|
      defaulted "compute_id" text.option none <|
      defaulted "status" AmphoraStatus.codec .allocated <|
      defaulted "lb_network_ip" address.option none <|
      defaulted "vrrp_port_id" text.option none <| defaulted "vrrp_ip" address.option none <|
      defaulted "ha_port_id" text.option none <| defaulted "ha_ip" address.option none <|
      defaulted "vrrp_id" word32.option none .done)
    (fun (id, lb, compute, status, lbIp, vrrpPort, vrrpIp, haPort, haIp, vrrp, ()) =>
      ⟨id, lb, compute, status, lbIp, vrrpPort, vrrpIp, haPort, haIp, vrrp⟩)
    (fun a => (a.id, a.loadBalancerId, a.computeId, a.status, a.lbNetworkIp, a.vrrpPortId,
      a.vrrpIp, a.haPortId, a.haIp, a.vrrpId, ()))

def LoadBalancer.codec : Codec LoadBalancer :=
  record "LoadBalancer"
    (required "id" text <| required "vip" Vip.codec <|
      defaulted "additional_vips" AdditionalVip.codec.list [] <|
      defaulted "pools" Pool.codec.list [] <| defaulted "amphorae" Amphora.codec.list [] .done)
    (fun (id, vip, extra, pools, amphorae, ()) => ⟨id, vip, extra, pools, amphorae⟩)
    (fun lb => (lb.id, lb.vip, lb.additionalVips, lb.pools, lb.amphorae, ()))

def Subnet.codec : Codec Subnet :=
  record "Subnet"
    (required "id" text <| required "network_id" text <| defaulted "cidr" Codec.cidr.option none <|
      defaulted "gateway_ip" address.option none <|
      defaulted "ipv6_address_mode" text.option none .done)
    (fun (id, network, cidr, gateway, mode, ()) => ⟨id, network, cidr, gateway, mode⟩)
    (fun s => (s.id, s.networkId, s.cidr, s.gatewayIp, s.ipv6AddressMode, ()))

def Network.codec : Codec Network :=
  record "Network"
    (required "id" text <| defaulted "name" text "" <| defaulted "subnets" text.list [] <|
      defaulted "mtu" word32.option none .done)
    (fun (id, name, subnets, mtu, ()) => ⟨id, name, subnets, mtu⟩)
    (fun n => (n.id, n.name, n.subnets, n.mtu, ()))

def FixedIp.codec : Codec FixedIp :=
  record "FixedIp"
    (required "subnet_id" text <| defaulted "ip_address" address.option none <|
      defaulted "subnet" Subnet.codec.option none .done)
    (fun (id, ip, subnet, ()) => ⟨id, ip, subnet⟩)
    (fun f => (f.subnetId, f.ipAddress, f.subnet, ()))

def Interface.codec : Codec Interface :=
  record "Interface"
    (required "network_id" text <| defaulted "port_id" text.option none <|
      defaulted "fixed_ips" FixedIp.codec.list [] <|
      defaulted "vnic_type" VnicType.codec .normal .done)
    (fun (network, port, ips, vnic, ()) => ⟨network, port, ips, vnic⟩)
    (fun i => (i.networkId, i.portId, i.fixedIps, i.vnicType, ()))

def Port.codec : Codec Port :=
  record "Port"
    (required "id" text <| defaulted "name" text "" <| required "network_id" text <|
      defaulted "fixed_ips" FixedIp.codec.list [] <| defaulted "admin_state_up" flag true <|
      defaulted "status" PortStatus.codec .active <| defaulted "device_id" text.option none <|
      defaulted "qos_policy_id" text.option none <|
      defaulted "security_group_ids" text.list [] <|
      defaulted "vnic_type" VnicType.codec .normal <|
      defaulted "allowed_address_pairs" address.list [] <|
      defaulted "network" Network.codec.option none .done)
    (fun (id, name, networkId, ips, up, status, device, qos, sgs, vnic, pairs, network, ()) =>
      ⟨id, name, networkId, ips, up, status, device, qos, sgs, vnic, pairs, network⟩)
    (fun p => (p.id, p.name, p.networkId, p.fixedIps, p.adminStateUp, p.status, p.deviceId,
      p.qosPolicyId, p.securityGroupIds, p.vnicType, p.allowedAddressPairs, p.network, ()))

def SecurityGroup.codec : Codec SecurityGroup :=
  record "SecurityGroup" (required "id" text <| required "name" text .done)
    (fun (id, name, ()) => ⟨id, name⟩) (fun g => (g.id, g.name, ()))

def MemberPortBinding.codec : Codec MemberPortBinding :=
  record "AmphoraMemberPort"
    (required "amphora_id" text <| required "port_id" text <| required "network_id" text .done)
    (fun (amphora, port, network, ()) => ⟨amphora, port, network⟩)
    (fun b => (b.amphoraId, b.portId, b.networkId, ()))

def AvailabilityZone.codec : Codec AvailabilityZone :=
  record "AvailabilityZone"
    (defaulted "name" text.option none <| defaulted "management_network" text.option none .done)
    (fun (name, network, ()) => ⟨name, network⟩)
    (fun z => (z.name, z.managementNetwork, ()))

def AmphoraNetworkConfig.codec : Codec AmphoraNetworkConfig :=
  record "AmphoraNetworkConfig"
    (required "amphora_id" text <| defaulted "vip_subnet" Subnet.codec.option none <|
      defaulted "vip_port" Port.codec.option none <|
      defaulted "vrrp_subnet" Subnet.codec.option none <|
      defaulted "vrrp_port" Port.codec.option none <|
      defaulted "ha_subnet" Subnet.codec.option none <|
      defaulted "ha_port" Port.codec.option none .done)
    (fun (amphora, vipSubnet, vipPort, vrrpSubnet, vrrpPort, haSubnet, haPort, ()) =>
      ⟨amphora, vipSubnet, vipPort, vrrpSubnet, vrrpPort, haSubnet, haPort⟩)
    (fun c => (c.amphoraId, c.vipSubnet, c.vipPort, c.vrrpSubnet, c.vrrpPort, c.haSubnet,
      c.haPort, ()))

def AllocatedVip.codec : Codec AllocatedVip :=
  record "AllocatedVip"
    (required "vip" Vip.codec <| required "additional_vips" AdditionalVip.codec.list .done)
    (fun (vip, extra, ()) => ⟨vip, extra⟩) (fun a => (a.vip, a.additionalVips, ()))

def SubnetChange.codec : Codec SubnetChange :=
  record "SubnetChange"
    (required "subnet_id" text <| required "network_id" text <| optional "port_id" text .done)
    (fun (subnet, network, port, ()) => ⟨subnet, network, port⟩)
    (fun c => (c.subnetId, c.networkId, c.portId, ()))

def Delta.codec : Codec Delta :=
  record "Delta"
    (required "amphora_id" text <| required "compute_id" text <|
      required "add_nics" Interface.codec.list <| required "delete_nics" Interface.codec.list <|
      required "add_subnets" SubnetChange.codec.list <|
      required "delete_subnets" SubnetChange.codec.list .done)
    (fun (amphora, compute, addNics, deleteNics, addSubnets, deleteSubnets, ()) =>
      ⟨amphora, compute, addNics, deleteNics, addSubnets, deleteSubnets⟩)
    (fun d => (d.amphoraId, d.computeId, d.addNics, d.deleteNics, d.addSubnets,
      d.deleteSubnets, ()))

def VipUpdate.codec : Codec VipUpdate :=
  record "VipUpdate"
    (.field "qos_policy_id" (text.option.given) (.filled none true) (·.isNone) .done)
    (fun (qos, ()) => ⟨qos⟩) (fun u => (u.qosPolicyId, ()))

def LoadBalancerUpdate.codec : Codec LoadBalancerUpdate :=
  record "LoadBalancerUpdate" (defaulted "vip" VipUpdate.codec.option none .done)
    (fun (vip, ()) => ⟨vip⟩) (fun u => (u.vip, ()))

/-- The fields of a snapshot, which other documents include among their own. -/
def Snapshot.codec : Codec Snapshot :=
  record "SubstrateSnapshot"
    (defaulted "networks" Network.codec.list [] <| defaulted "subnets" Subnet.codec.list [] <|
      defaulted "instances" Interface.codec.list.idMap .empty <|
      defaulted "security_groups_enabled" flag false .done)
    (fun (networks, subnets, instances, groups, ()) => ⟨networks, subnets, instances, groups⟩)
    (fun s => (s.networks, s.subnets, s.instances, s.securityGroupsEnabled, ()))

def NetworkingConfig.codec : Codec NetworkingConfig :=
  let base : NetworkingConfig := {}
  record "NetworkingConfig"
    (defaulted "max_retries" word32 base.maxRetries <|
      defaulted "retry_backoff" double base.retryBackoff <|
      defaulted "retry_interval_secs" word64 base.retryIntervalSecs <|
      defaulted "retry_max_secs" word64 base.retryMaxSecs .done)
    (fun (retries, backoff, interval, most, ()) => ⟨retries, backoff, interval, most⟩)
    (fun c => (c.maxRetries, c.retryBackoff, c.retryIntervalSecs, c.retryMaxSecs, ()))

def ControllerConfig.codec : Codec ControllerConfig :=
  record "ControllerConfig" (defaulted "amp_boot_network_list" text.list [] .done)
    (fun (networks, ()) => ⟨networks⟩) (fun c => (c.bootNetworks, ()))

def DatabaseConfig.codec : Codec DatabaseConfig :=
  let base : DatabaseConfig := {}
  record "DatabaseConfig"
    (defaulted "url" text base.url <| defaulted "max_connections" word32 base.maxConnections .done)
    (fun (url, most, ()) => ⟨url, most⟩) (fun c => (c.url, c.maxConnections, ()))

def Config.codec : Codec Config :=
  record "Config"
    (defaulted "networking" NetworkingConfig.codec {} <|
      defaulted "controller" ControllerConfig.codec {} <|
      defaulted "database" DatabaseConfig.codec {} .done)
    (fun (networking, controller, database, ()) => ⟨networking, controller, database⟩)
    (fun c => (c.networking, c.controller, c.database, ()))

end AmphoraWiring
