import AmphoraWiring.Substrate.Instance

/-!
Calls about virtual addresses: the port that holds them, the base ports of the amphorae that
answer to them, the security group that guards them.
-/
namespace AmphoraWiring.Substrate

/-- The port that already carries the virtual address. -/
def vipPort? (s : Substrate) (vip : Vip) : Option Port := vip.portId.bind s.ports.get?

/-- Adds the subnets of further virtual addresses to a port that is not stored yet, each subnet
once. -/
def addVips (port : Port) : List AdditionalVip → Call (Port × List AdditionalVip)
  | [] => return (port, [])
  | extra :: extras => do
    let (port, ip) ←
      match port.fixedIps.find? fun ip => ip.subnetId = extra.subnetId with
      | some ip => pure (port, ip)
      | none => do
        let ip ← resolveFixedIp port.networkId
          { subnetId := extra.subnetId, ipAddress := extra.ipAddress }
        pure ({ port with fixedIps := port.fixedIps ++ [ip] }, ip)
    let (port, vips) ← addVips port extras
    let vip : AdditionalVip :=
      { ipAddress := ip.ipAddress
        subnetId := extra.subnetId
        networkId := some port.networkId
        portId := some port.id }
    return (port, vip :: vips)

def vipPortRequest (lb : LoadBalancer) : PortRequest where
  networkId := lb.vip.networkId
  name := vipPortName lb.id
  fixedIps := [{ subnetId := lb.vip.subnetId, ipAddress := lb.vip.ipAddress }]
  qosPolicyId := lb.vip.qosPolicyId

def allocateVip (lb : LoadBalancer) : Call AllocatedVip := do
  begin .allocateVip lb.id
  let port ←
    match (← get).vipPort? lb.vip with
    | some port => pure port
    | none => newPort (vipPortRequest lb)
  let (port, additionalVips) ← addVips port lb.additionalVips
  putPort port
  let own := port.fixedIps.find? fun ip => ip.subnetId = lb.vip.subnetId
  let vip : Vip :=
    { lb.vip with
      ipAddress := own.bind (·.ipAddress)
      portId := some port.id
      loadBalancerId := some lb.id }
  return { vip, additionalVips }

def deallocateVip (vip : Vip) : Call Unit := do
  begin .deallocateVip (vip.portId.getD "")
  match vip.portId with
  | some portId => modify fun s => s.removePort portId
  | none => return

/-- The base port of an amphora: the one it names, if it exists, or else the first with the name
of its base port. -/
def basePortOf (s : Substrate) (amphora : Amphora) : Option String :=
  match amphora.vrrpPortId with
  | some id => if s.ports.contains id then some id else byName
  | none => byName
where
  byName : Option String :=
    (s.ports.values.find? fun p => p.name = basePortName amphora.id).map (·.id)

/-- The base port has an address of its own and carries traffic for the virtual one. -/
def basePortRequest (vip : Vip) (amphora : Amphora) (subnet : Subnet) : PortRequest where
  networkId := subnet.networkId
  name := basePortName amphora.id
  fixedIps := [{ subnetId := subnet.id }]
  secondaryIps := vip.ipAddress.toList

/-- Plugs the base port of an amphora, which is created if need be, and gives back the amphora
with the data of its ports. -/
def plugAapPort (vip : Vip) (amphora : Amphora) (subnet : Subnet) : Call Amphora := do
  begin .plugAapPort amphora.id
  let computeId ← instanceOf amphora
  let _ ← portsOfInstance computeId
  let portId ←
    match (← get).basePortOf amphora with
    | some id => pure id
    | none => do
      let port ← newPort (basePortRequest vip amphora subnet)
      pure port.id
  plug computeId portId
  let first := ((← get).ports.get? portId).bind fun p => p.fixedIps.head?
  return { amphora with
    vrrpPortId := some portId
    vrrpIp := first.bind (·.ipAddress)
    haPortId := vip.portId
    haIp := vip.ipAddress }

def removeBasePort (s : Substrate) (amphora : Amphora) : Substrate :=
  match s.basePortOf amphora with
  | some id => s.removePort id
  | none => s

def unplugAapPort (amphora : Amphora) : Call Unit := do
  begin .unplugAapPort amphora.id
  modify fun s => s.removeBasePort amphora

def unplugVip (lb : LoadBalancer) : Call Unit := do
  begin .unplugVip lb.id
  modify fun s => lb.amphorae.foldl removeBasePort s

def updateVip (lb : LoadBalancer) (forDelete : Bool) : Call Unit :=
  begin .updateVip (lb.id ++ ":" ++ toString forDelete)

/-! Security groups -/

/-- The id of the group with the name, which is made if it is new. -/
def ensureSecurityGroup (name : String) : Call String := do
  match (← get).securityGroups.get? name with
  | some group => return group.id
  | none =>
    let id ← drawId
    modify fun s => { s with securityGroups := s.securityGroups.insert name { id, name } }
    return id

def withGroup (groupId : String) (p : Port) : Port :=
  if p.securityGroupIds.contains groupId then p
  else { p with securityGroupIds := p.securityGroupIds ++ [groupId] }

/-- Guards the port of a virtual address; no group where groups are not managed. -/
def updateVipSg (lb : LoadBalancer) : Call (Option String) := do
  begin .updateVipSg lb.id
  if !(← get).securityGroupsEnabled then return none
  let groupId ← ensureSecurityGroup (vipSecurityGroupName lb.id)
  match lb.vip.portId with
  | some portId => modify fun s => { s with ports := s.ports.modify portId (withGroup groupId) }
  | none => pure ()
  return some groupId

def updateAapPortSg (lb : LoadBalancer) (amphora : Amphora) : Call Unit := do
  begin .updateAapPortSg amphora.id
  if !(← get).securityGroupsEnabled then return
  let groupId ← ensureSecurityGroup (vipSecurityGroupName lb.id)
  match (← get).basePortOf amphora with
  | some portId => let _ ← updatePort portId (withGroup groupId)
  | none => return

def getSecurityGroup (name : String) : Call SecurityGroup := do
  begin .getSecurityGroup name
  Action.orFail (.securityGroupNotFound name) ((← get).securityGroups.get? name)

/-! Network configurations -/

def networkConfig (s : Substrate) (lb : LoadBalancer) (amphora : Amphora) : AmphoraNetworkConfig :=
  let vipSubnet := s.subnets.get? lb.vip.subnetId
  let vrrpPort := amphora.vrrpPortId.bind s.ports.get?
  { amphoraId := amphora.id
    vipSubnet
    vipPort := s.vipPort? lb.vip
    vrrpSubnet := vrrpPort.bind fun p => p.fixedIps.head?.bind fun ip => s.subnets.get? ip.subnetId
    vrrpPort
    haSubnet := vipSubnet
    haPort := amphora.haPortId.bind s.ports.get? }

/-- The configuration of the given amphora, or of every allocated one. -/
def getNetworkConfigs (lb : LoadBalancer) (amphora : Option Amphora) :
    Call (IdMap AmphoraNetworkConfig) := do
  begin .getNetworkConfigs lb.id
  let amphorae :=
    match amphora with
    | some a => [a]
    | none => lb.allocatedAmphorae
  let s ← get
  return .ofList (amphorae.map fun a => (a.id, s.networkConfig lb a))

end AmphoraWiring.Substrate
