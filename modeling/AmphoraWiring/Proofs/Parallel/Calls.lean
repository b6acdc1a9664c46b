import AmphoraWiring.Proofs.Parallel.Threads
import AmphoraWiring.Saga.Convergence

/-!
The calls that are made when a delta is applied to its amphora, as a thread. Each part of the work
has its thread, which alone does what the work does.
-/
namespace AmphoraWiring.Thread

def fillFixedIp (ip : FixedIp) : Thread FixedIp := do
  let subnet ← onSubstrate (Substrate.getSubnet ip.subnetId)
  return { ip with subnet := some subnet }

def fillPort (port : Port) : Thread Port := do
  let network ← onSubstrate (Substrate.getNetwork port.networkId)
  let fixedIps ← port.fixedIps.mapM fillFixedIp
  return { port with network := some network, fixedIps }

theorem plays_fillPort (port : Port) : (fillPort port).Plays (Deployment.fillPort port) := by
  have hip : ∀ ip, (fillFixedIp ip).Plays (Deployment.fillFixedIp ip) := fun ip =>
    (plays_onSubstrate _).bind fun subnet => plays_pure _
  exact (plays_onSubstrate _).bind fun network => (Plays.mapM hip _).bind fun ips => plays_pure _

/-! Adding an interface -/

def discardPort (portId : String) : Thread Unit := do
  match ← (onSubstrate (Substrate.deletePort portId)).outcome with
  | .ok () => return
  | .error e => record fun a => a.resourceLeaked "port" portId e.message

theorem plays_discardPort (portId : String) :
    (discardPort portId).Plays (Delta.discardPort portId) := by
  refine (plays_onSubstrate _).outcome.bind fun result => ?_
  match result with
  | .ok () => exact plays_pure ()
  | .error e => exact plays_record _

def plugNewPort (amphora : Amphora) (port : Port) (networkId : String) : Thread Unit := do
  match ← (onSubstrate (Substrate.plugPort amphora port)).outcome with
  | .ok () => return
  | .error e =>
    discardPort port.id
    fail (e.whenPlugging amphora.instanceId networkId)

theorem plays_plugNewPort (amphora : Amphora) (port : Port) (networkId : String) :
    (plugNewPort amphora port networkId).Plays (Delta.plugNewPort amphora port networkId) := by
  refine (plays_onSubstrate _).outcome.bind fun result => ?_
  match result with
  | .ok () => exact plays_pure ()
  | .error e => exact (plays_discardPort port.id).bind fun _ => plays_fail _

def createMemberPort (amphora : Amphora) (nic : Interface) : Thread Port := do
  match ← (onSubstrate (Substrate.createPort (Delta.portRequest amphora nic))).outcome with
  | .ok port => return port
  | .error e => fail (e.whenCreatingPort nic.networkId)

theorem plays_createMemberPort (amphora : Amphora) (nic : Interface) :
    (createMemberPort amphora nic).Plays (Delta.createMemberPort amphora nic) := by
  refine (plays_onSubstrate _).outcome.bind fun result => ?_
  match result with
  | .ok port => exact plays_pure port
  | .error e => exact plays_fail _

def addNic (amphora : Amphora) (changed : ChangedPorts) (nic : Interface) :
    Thread ChangedPorts := do
  let port ← createMemberPort amphora nic
  plugNewPort amphora port nic.networkId
  record fun a => a.portCreated port.id nic.networkId (some amphora.id)
  onRepository (Repository.createMemberPort
    { amphoraId := amphora.id, portId := port.id, networkId := nic.networkId })
  record fun a => a.memberPortRecorded amphora.id port.id
  let port ← fillPort port
  return changed.insert port.networkId port

/-- The thread makes the calls of the addition of an interface. -/
theorem plays_addNic (amphora : Amphora) (changed : ChangedPorts) (nic : Interface) :
    (addNic amphora changed nic).Plays (Delta.addNic amphora changed nic) := by
  refine (plays_createMemberPort amphora nic).bind fun port => ?_
  refine (plays_plugNewPort amphora port nic.networkId).bind fun _ => ?_
  refine (plays_record _).bind fun _ => (plays_onRepository _).bind fun _ => ?_
  exact (plays_record _).bind fun _ => (plays_fillPort port).bind fun _ => plays_pure _

/-! Adding and removing a subnet -/

def addSubnet (changed : ChangedPorts) (change : SubnetChange) : Thread ChangedPorts := do
  let existing := changed.get? change.networkId
  let portId ← orFail
    (.invalidInput ("no port on network " ++ change.networkId ++ " for subnet " ++ change.subnetId))
    (change.portId.or (existing.map (·.id)))
  if existing.any fun p => p.hasSubnet change.subnetId then return changed
  let port ← onSubstrate (Substrate.plugFixedIp portId change.subnetId)
  let port ← fillPort port
  return changed.insert change.networkId port

/-- The thread makes the calls of the addition of a subnet. -/
theorem plays_addSubnet (changed : ChangedPorts) (change : SubnetChange) :
    (addSubnet changed change).Plays (Delta.addSubnet changed change) := by
  unfold addSubnet Delta.addSubnet
  refine (plays_orFail _ _).bind fun portId => ?_
  split
  · exact plays_pure changed
  · exact (plays_onSubstrate _).bind fun port => (plays_fillPort port).bind fun _ => plays_pure _

def deleteSubnet (changed : ChangedPorts) (change : SubnetChange) : Thread ChangedPorts := do
  match change.portId with
  | none => return changed
  | some portId =>
    let port ← onSubstrate (Substrate.unplugFixedIp portId change.subnetId)
    let port ← fillPort port
    return if port.hasSubnet change.subnetId then changed
      else changed.insert change.networkId port

/-- The thread makes the calls of the removal of a subnet. -/
theorem plays_deleteSubnet (changed : ChangedPorts) (change : SubnetChange) :
    (deleteSubnet changed change).Plays (Delta.deleteSubnet changed change) := by
  unfold deleteSubnet Delta.deleteSubnet
  cases change.portId with
  | none => exact plays_pure changed
  | some portId =>
    exact (plays_onSubstrate _).bind fun port => (plays_fillPort port).bind fun _ => plays_pure _

/-! Removing an interface -/

def unbind (amphoraId portId : String) : Thread Unit := do
  match ← (onRepository (Repository.deleteMemberPort portId)).outcome with
  | .ok () => record fun a => a.memberPortRemoved amphoraId portId
  | .error (.store (.notFound _)) => return
  | .error e => fail e

theorem plays_unbind (amphoraId portId : String) :
    (unbind amphoraId portId).Plays (Delta.unbind amphoraId portId) := by
  refine (plays_onRepository _).outcome.bind fun result => ?_
  match result with
  | .ok () => exact plays_record _
  | .error e =>
    cases e with
    | store cause =>
      cases cause with
      | notFound what => exact plays_pure ()
      | _ => exact plays_fail _
    | _ => exact plays_fail _

def deleteNic (amphora : Amphora) (changed : ChangedPorts) (nic : Interface) :
    Thread ChangedPorts := do
  let _ ← (onSubstrate (Substrate.unplugNetwork amphora.instanceId nic.networkId)).outcome
  match nic.portId with
  | none => pure ()
  | some portId =>
    match ← (onSubstrate (Substrate.deletePort portId)).outcome with
    | .ok () => record fun a => a.portDeleted portId
    | .error _ => pure ()
    unbind amphora.id portId
  return changed.erase nic.networkId

/-- The thread makes the calls of the removal of an interface. -/
theorem plays_deleteNic (amphora : Amphora) (changed : ChangedPorts) (nic : Interface) :
    (deleteNic amphora changed nic).Plays (Delta.deleteNic amphora changed nic) := by
  unfold deleteNic Delta.deleteNic
  refine (plays_onSubstrate _).outcome.bind fun _ => ?_
  cases nic.portId with
  | none => exact plays_pure _
  | some portId =>
    have hrest : Plays
        (do unbind amphora.id portId; return changed.erase nic.networkId)
        (do Delta.unbind amphora.id portId; return changed.erase nic.networkId) :=
      (plays_unbind amphora.id portId).bind fun _ => plays_pure _
    refine (plays_onSubstrate _).outcome.bind fun result => ?_
    match result with
    | .ok () => exact (plays_record _).bind fun _ => hrest
    | .error _ => exact hrest

/-! The whole delta -/

def apply (delta : Delta) (amphora : Amphora) : Thread (List Port) := do
  let changed ← delta.addNics.foldlM (addNic amphora) .empty
  let changed ← delta.addSubnets.foldlM addSubnet changed
  let changed ← delta.deleteSubnets.foldlM deleteSubnet changed
  let changed ← delta.deleteNics.foldlM (deleteNic amphora) changed
  return changed.values

theorem plays_apply (delta : Delta) (amphora : Amphora) :
    (apply delta amphora).Plays (delta.apply amphora) := by
  refine (Plays.foldlM (plays_addNic amphora) _ _).bind fun changed => ?_
  refine (Plays.foldlM plays_addSubnet _ _).bind fun changed => ?_
  refine (Plays.foldlM plays_deleteSubnet _ _).bind fun changed => ?_
  exact (Plays.foldlM (plays_deleteNic amphora) _ _).bind fun changed => plays_pure _

/-- The calls of the step that applies a delta. -/
def applyDelta (amphoraId : String) (delta : Delta) : Thread (IdMap (List Port)) := do
  let amphora ← onRepository (Repository.getAmphora amphoraId)
  let ports ← apply delta amphora
  return IdMap.empty.insert amphoraId ports

/-- Alone, the thread does what the step does. -/
theorem plays_applyDelta (amphoraId : String) (delta : Delta) :
    (applyDelta amphoraId delta).Plays (Step.applyDelta amphoraId delta).execute :=
  (plays_onRepository _).bind fun amphora => (plays_apply delta amphora).bind fun _ => plays_pure _

end AmphoraWiring.Thread
