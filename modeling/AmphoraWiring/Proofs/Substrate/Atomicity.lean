import AmphoraWiring.Proofs.Substrate.BasePorts
import AmphoraWiring.Proofs.Substrate.Coherence

/-!
A call that fails has not changed anything but the journal, the script of failures and the counts of
addresses handed out. Where a call makes several changes, every look-up that may fail stands before
the first of them, or it cannot fail there: a port that was found is stored under its own id, and
only an existing port is going down. The one call that is not so is the allocation of a virtual
address, which may have made a port when it fails.
-/
namespace AmphoraWiring.Substrate

open Action

variable {s t u : Substrate}

/-- What the journal says of a call. -/
def Command.entry : Command → JournalEntry
  | .getPluggedNetworks computeId => ⟨.getPluggedNetworks, computeId⟩
  | .getSubnet subnetId => ⟨.getSubnet, subnetId⟩
  | .getNetwork networkId => ⟨.getNetwork, networkId⟩
  | .getPort portId => ⟨.getPort, portId⟩
  | .createPort request => ⟨.createPort, request.name⟩
  | .deletePort portId => ⟨.deletePort, portId⟩
  | .adminDownPort portId => ⟨.adminDownPort, portId⟩
  | .setPortAdminStateUp portId up => ⟨.setPortAdminStateUp, portId ++ "=" ++ toString up⟩
  | .plugPort _ port => ⟨.plugPort, port.id⟩
  | .plugFixedIp portId subnetId => ⟨.plugFixedIp, portId ++ "/" ++ subnetId⟩
  | .unplugFixedIp portId subnetId => ⟨.unplugFixedIp, portId ++ "/" ++ subnetId⟩
  | .unplugNetwork computeId networkId => ⟨.unplugNetwork, computeId ++ "/" ++ networkId⟩
  | .allocateVip lb => ⟨.allocateVip, lb.id⟩
  | .deallocateVip vip => ⟨.deallocateVip, vip.portId.getD ""⟩
  | .plugAapPort _ amphora _ => ⟨.plugAapPort, amphora.id⟩
  | .unplugAapPort amphora => ⟨.unplugAapPort, amphora.id⟩
  | .unplugVip lb => ⟨.unplugVip, lb.id⟩
  | .updateVip lb forDelete => ⟨.updateVip, lb.id ++ ":" ++ toString forDelete⟩
  | .updateVipSg lb => ⟨.updateVipSg, lb.id⟩
  | .updateAapPortSg _ amphora => ⟨.updateAapPortSg, amphora.id⟩
  | .applyQosOnPort qosPolicyId portId =>
    ⟨.applyQosOnPort, portId ++ "=" ++ qosPolicyId.getD "none"⟩
  | .getSecurityGroup name => ⟨.getSecurityGroup, name⟩
  | .getNetworkConfigs lb _ => ⟨.getNetworkConfigs, lb.id⟩

/-- Each port is stored under its own id, and only an existing port is going down. -/
structure WellKept (s : Substrate) : Prop where
  own_id : ∀ {id p}, s.ports.get? id = some p → p.id = id
  going_down : ∀ {id}, s.pendingDown.contains id → s.ports.contains id

theorem Coherent.wellKept (hs : s.Coherent) : s.WellKept where
  own_id := hs.own_id
  going_down h := by
    obtain ⟨left, hleft⟩ := IdMap.contains_iff.mp h
    exact IdMap.contains_iff.mpr (hs.going_down hleft)

/-- What a call leaves that was made in `s` and fails with `e`: either the failure was due, and it
is gone from the script, or there was a reason, and addresses may have been handed out in vain. -/
inductive Refused (s : Substrate) (entry : JournalEntry) (e : NetworkError) :
    Substrate → Prop where
  | scripted (faults : List ScriptedFault)
      (hdue : takeFault entry.operation s.faults = some (e, faults)) :
      Refused s entry e { s with journal := s.journal ++ [entry], faults }
  | genuine {t : Substrate} {ids : List String}
      (hundue : takeFault entry.operation s.faults = none)
      (h : (s.journaled [entry]).Allocating t ids) : Refused s entry e t

/-- The queue of the failures scripted for an operation. -/
def queue (s : Substrate) (op : Operation) : List ScriptedFault :=
  s.faults.filter fun f => f.operation = op

/-- Taking a failure from one queue leaves the others alone. -/
theorem filter_takeFault {op other : Operation} (hne : other ≠ op) {e : NetworkError}
    {script faults : List ScriptedFault} (h : takeFault op script = some (e, faults)) :
    faults.filter (fun f => f.operation = other) = script.filter fun f => f.operation = other := by
  induction script generalizing faults with
  | nil => cases h
  | cons first rest ih =>
    unfold takeFault at h
    split at h
    next hop =>
      have hother : first.operation ≠ other := fun heq => hne (heq.symm.trans hop)
      cases h
      split <;> simp [hother]
    next =>
      obtain ⟨⟨e', faults'⟩, htaken, heq⟩ := Option.map_eq_some_iff.mp h
      cases heq
      rw [List.filter_cons, List.filter_cons, ih htaken]

/-- A refusal takes a failure of its own operation at most. -/
theorem Refused.queue {entry : JournalEntry} {e : NetworkError} (h : s.Refused entry e t)
    {op : Operation} (hne : op ≠ entry.operation) : t.queue op = s.queue op := by
  cases h with
  | scripted faults hdue => exact filter_takeFault hne hdue
  | genuine hundue h =>
    obtain ⟨m, rfl, -⟩ := h
    rfl

/-! What cannot fail -/

/-- The call cannot fail. -/
def Sure (s : Substrate) (call : Call α) : Prop :=
  call.Ends s (fun _ _ => True) fun _ _ => False

namespace Sure

variable {call : Call α} {rest : α → Call β}

theorem bind {ok : α → Substrate → Prop} (h : call.Ends s ok fun _ _ => False)
    (hrest : ∀ a t, ok a t → t.Sure (rest a)) : s.Sure (call >>= rest) :=
  h.bind hrest fun _ _ h => h

theorem ends {ok : α → Substrate → Prop} {bad : NetworkError → Substrate → Prop}
    (h : s.Sure call) (hok : ∀ a t, ok a t) : call.Ends s ok bad :=
  h.mono (fun a t _ => hok a t) fun _ _ h => h.elim

theorem portById {id : String} (h : s.ports.contains id) : s.Sure (portById id) := by
  obtain ⟨p, hp⟩ := IdMap.contains_iff.mp h
  exact (ends_portById_stored hp).imp_ok fun _ _ _ => trivial

theorem updatePort {id : String} (h : s.ports.contains id) (f : Port → Port) :
    s.Sure (updatePort id f) := by
  obtain ⟨p, hp⟩ := IdMap.contains_iff.mp h
  exact (ends_updatePort_stored hp f).imp_ok fun _ _ _ => trivial

theorem plug {c id : String} (hc : s.plugged.contains c) (hid : s.ports.contains id) :
    s.Sure (plug c id) := by
  obtain ⟨p, hp⟩ := IdMap.contains_iff.mp hid
  exact (ends_plug c id s).mono (fun _ _ _ => trivial) fun _ _ hend => by simp [hp, hc] at hend

end Sure

/-- Making a security group leaves the ports alone. -/
theorem ends_ensureSecurityGroup (name : String) (s : Substrate) :
    (ensureSecurityGroup name).Ends s (fun _ t => t.ports = s.ports) fun _ _ => False := by
  apply ends_get
  cases s.securityGroups.get? name with
  | some group => exact ends_pure rfl
  | none =>
    refine (ends_drawId s).bind ?_ (fun _ _ h => h)
    intro id t hend
    obtain ⟨-, rfl⟩ := hend
    exact ends_modify (ends_pure rfl)

/-! What changes nothing when it fails -/

/-- Where the call fails, it has changed nothing but counts of addresses. -/
def Atomic (s : Substrate) (call : Call α) : Prop :=
  call.Ends s (fun _ _ => True) fun _ t => ∃ ids, s.Allocating t ids

namespace Atomic

variable {call : Call α} {rest : α → Call β}

/-- A call that fails before it does anything changes nothing when it fails. -/
theorem of_unchanged {ok : α → Substrate → Prop} (h : call.Ends s ok fun _ t => t = s) :
    s.Atomic call :=
  h.mono (fun _ _ _ => trivial) fun _ _ h => ⟨[], h ▸ .refl s []⟩

/-- What follows a look-up starts from the same state. -/
theorem bind {found : α → Prop} (h : call.Ends s (fun a t => t = s ∧ found a) fun _ t => t = s)
    (hrest : ∀ a, found a → s.Atomic (rest a)) : s.Atomic (call >>= rest) := by
  refine Ends.bind h ?_ fun _ _ h => ⟨[], h ▸ .refl s []⟩
  intro a t hend
  obtain ⟨rfl, hfound⟩ := hend
  exact hrest a hfound

/-- What cannot fail may follow any change. -/
theorem bind_sure {ok : α → Substrate → Prop}
    (h : call.Ends s ok fun _ t => ∃ ids, s.Allocating t ids)
    (hrest : ∀ a t, ok a t → t.Sure (rest a)) : s.Atomic (call >>= rest) :=
  h.bind (fun a t hok => (hrest a t hok).ends fun _ _ => trivial) fun _ _ h => h

theorem drop (h : s.Atomic call) : s.Atomic (do let _ ← call) :=
  Atomic.bind_sure h fun _ _ _ => ends_pure trivial

theorem orFail (e : NetworkError) (value : Option α) : s.Atomic (orFail e value) :=
  of_unchanged ((ends_orFail e value s).mono (fun _ _ h => h) fun _ _ h => h.1)

theorem portById (id : String) : s.Atomic (portById id) := ends_get (orFail _ _)

theorem updatePort (id : String) (f : Port → Port) : s.Atomic (updatePort id f) :=
  of_unchanged ((ends_updatePort id f s).mono (fun _ _ h => h) fun _ _ h => h.1)

theorem plug (c id : String) : s.Atomic (plug c id) :=
  of_unchanged ((ends_plug c id s).mono (fun _ _ h => h) fun _ _ h => h.1)

/-- A port that is not made leaves nothing but counts of addresses. -/
theorem newPort (request : PortRequest) : s.Atomic (newPort request) :=
  (ends_newPort request s).mono (fun _ _ _ => trivial) fun _ _ hend => hend.1.imp fun _ h => h.1

end Atomic

/-! Calls -/

/-- Either the call succeeds, or it is refused. -/
def Refuses (s : Substrate) (entry : JournalEntry) (call : Call α) : Prop :=
  call.Ends s (fun _ _ => True) (s.Refused entry)

theorem Refuses.drop {entry : JournalEntry} {call : Call α} (h : s.Refuses entry call) :
    s.Refuses entry (do let _ ← call) :=
  h.bind (fun _ _ _ => ends_pure trivial) fun _ _ h => h

/-- Before it has started, a call can only fail as scripted. -/
theorem refuses_begin (op : Operation) (target : String) (s : Substrate) :
    s.Refuses ⟨op, target⟩ (begin op target) := by
  refine (ends_begin op target s).mono (fun _ _ _ => trivial) fun e t hend => ?_
  obtain ⟨faults, hdue, rfl⟩ := hend
  exact .scripted faults hdue

/-- A call whose work is atomic is refused as a whole. -/
theorem refuses_call {op : Operation} {target : String} {rest : Call α}
    (h : (s.journaled [⟨op, target⟩]).Atomic rest) :
    s.Refuses ⟨op, target⟩ (do begin op target; rest) := by
  refine (ends_begin op target s).bind ?_ ?_
  · intro a t hend
    obtain ⟨hundue, rfl⟩ := hend
    refine Ends.mono h (fun _ _ h => h) fun e u hend => ?_
    obtain ⟨ids, hallocating⟩ := hend
    exact .genuine hundue hallocating
  · intro e t hend
    obtain ⟨faults, hdue, rfl⟩ := hend
    exact .scripted faults hdue

/-- A port that is going down exists, so the last count finds it. -/
theorem refuses_getPort (hs : s.WellKept) (id : String) :
    s.Refuses ⟨.getPort, id⟩ (getPort id) := by
  refine refuses_call (ends_get ?_)
  cases hpending : (s.journaled [⟨.getPort, id⟩]).pendingDown.get? id with
  | none => exact Atomic.portById id
  | some left =>
    have hexists : s.ports.contains id := hs.going_down (IdMap.contains_iff.mpr ⟨left, hpending⟩)
    cases left with
    | zero =>
      refine ends_modify (Sure.ends (Sure.updatePort ?_ _) fun _ _ => trivial)
      exact hexists
    | succ left =>
      refine ends_modify (Sure.ends (Sure.portById ?_) fun _ _ => trivial)
      exact hexists

/-- The port is looked up first, and what follows cannot fail. -/
theorem refuses_setPortAdminStateUp (id : String) (up : Bool) (s : Substrate) :
    s.Refuses ⟨.setPortAdminStateUp, id ++ "=" ++ toString up⟩ (setPortAdminStateUp id up) := by
  refine refuses_call ?_
  refine Atomic.bind_sure ((ends_updatePort id _ _).mono (fun _ _ h => h)
    fun _ _ hend => ⟨[], hend.1 ▸ .refl _ _⟩) ?_
  intro port t hend
  obtain ⟨rfl, p, hp, -⟩ := hend
  have hexists : (s.amend id fun p => { p with adminStateUp := up }).ports.contains id := by
    rw [contains_amend]
    exact IdMap.contains_iff.mpr ⟨p, hp⟩
  cases up with
  | true =>
    refine ends_modify (Sure.updatePort ?_ _)
    exact hexists
  | false =>
    apply ends_get
    change Ends (if _ then _ else _) _ _ _
    split
    · exact ends_modify (ends_pure trivial)
    · refine Sure.updatePort ?_ _
      exact hexists

/-- Counting an address leaves the port where it was found. -/
theorem refuses_plugFixedIp (id subnetId : String) (s : Substrate) :
    s.Refuses ⟨.plugFixedIp, id ++ "/" ++ subnetId⟩ (plugFixedIp id subnetId) := by
  refine refuses_call ?_
  refine Atomic.bind ((ends_portById id _).mono (fun _ _ h => h) fun _ _ h => h.1) ?_
  intro port hport
  split
  · exact ends_pure trivial
  refine Atomic.bind_sure ?_ fun ip t hexists => Sure.updatePort hexists _
  apply (ends_resolveFixedIp port.networkId { subnetId } _).mono
  · intro ip t hend
    rw [hend.1.samePorts.ports]
    exact IdMap.contains_iff.mpr ⟨port, hport⟩
  · exact fun _ _ hend => ⟨_, hend.1⟩

/-- An instance without a port on the network is refused before anything is taken off. -/
theorem refuses_unplugNetwork (c networkId : String) (s : Substrate) :
    s.Refuses ⟨.unplugNetwork, c ++ "/" ++ networkId⟩ (unplugNetwork c networkId) := by
  refine refuses_call ?_
  refine Atomic.bind ((ends_portsOfInstance c _).mono (fun _ _ h => h) fun _ _ h => h.1) ?_
  intro ids _
  apply ends_get
  change Ends (if _ then _ else _) _ _ _
  split
  · exact ends_throw_bind ⟨[], .refl _ _⟩
  · exact ends_modify_last trivial

/-- The port that is plugged in at last is there, found or new, and so is the instance. -/
theorem refuses_plugAapPort (hs : s.WellKept) (vip : Vip) (amphora : Amphora) (subnet : Subnet) :
    s.Refuses ⟨.plugAapPort, amphora.id⟩ (plugAapPort vip amphora subnet) := by
  rw [plugAapPort_eq]
  refine refuses_call ?_
  refine Atomic.bind ((ends_orFail _ amphora.computeId _).mono (fun _ _ h => h)
    fun _ _ h => h.1) ?_
  intro c _
  refine Atomic.bind ((ends_portsOfInstance c _).mono (fun _ _ h => h) fun _ _ h => h.1) ?_
  intro ids hids
  have hplug : ∀ (id : String) (t : Substrate), t.plugged.contains c → t.ports.contains id →
      t.Sure (plugBase vip amphora c id) :=
    fun id t hc hid => Sure.bind (Sure.plug hc hid) fun _ _ _ => ends_get (ends_pure trivial)
  apply ends_get
  cases hbase : (s.journaled [⟨.plugAapPort, amphora.id⟩]).basePortOf amphora with
  | some id =>
    have hfound : s.ports.contains id := contains_basePortOf hs.own_id hbase
    exact (hplug id _ hids.2 hfound).ends fun _ _ => trivial
  | none =>
    refine Atomic.bind_sure ((ends_newPort (basePortRequest vip amphora subnet) _).mono
      (fun _ _ h => h) fun _ _ hend => hend.1.imp fun _ h => h.1) ?_
    intro p t hend
    obtain ⟨u, ⟨_, hallocating, -⟩, -, rfl⟩ := hend
    refine hplug p.id _ ?_ ?_
    · exact hallocating.samePorts.plugged ▸ hids.2
    · exact IdMap.contains_iff.mpr ⟨p, IdMap.get?_insert_self _ _ _⟩

/-- The base port that the group is to guard was found. -/
theorem refuses_updateAapPortSg (hs : s.WellKept) (lb : LoadBalancer) (amphora : Amphora) :
    s.Refuses ⟨.updateAapPortSg, amphora.id⟩ (updateAapPortSg lb amphora) := by
  refine refuses_call (ends_get ?_)
  split
  · exact ends_pure trivial
  refine Atomic.bind_sure ((ends_ensureSecurityGroup _ _).mono (fun _ _ h => h) nofun) ?_
  intro groupId t hports
  have hown : ∀ {id p}, t.ports.get? id = some p → p.id = id := by
    rw [hports]
    exact hs.own_id
  apply ends_get
  cases hbase : t.basePortOf amphora with
  | none => exact ends_pure trivial
  | some id =>
    have hupdate := Sure.updatePort (contains_basePortOf hown hbase) (withGroup groupId)
    exact Sure.bind hupdate fun _ _ _ => ends_pure trivial

/-- The group is made if need be, and the ports that are to have it are there. -/
theorem refuses_updateVipSg (lb : LoadBalancer) (s : Substrate) :
    s.Refuses ⟨.updateVipSg, lb.id⟩ (updateVipSg lb) := by
  refine refuses_call (ends_get ?_)
  split
  · exact ends_pure trivial
  refine Atomic.bind_sure ((ends_ensureSecurityGroup _ _).mono (fun _ _ h => h) nofun) ?_
  intro groupId t _
  split
  · exact ends_modify (ends_pure trivial)
  · exact ends_bind_of_ok rfl (ends_pure trivial)

/-- Of all calls but the allocation of a virtual address: what fails has not been begun. -/
theorem refuses_command (hs : s.WellKept) {c : Command} (hc : ∀ lb, c ≠ .allocateVip lb) :
    s.Refuses c.entry c.perform := by
  cases c with
  | getPluggedNetworks c =>
    refine (refuses_call ?_).drop
    refine Atomic.bind ((ends_portsOfInstance c _).mono (fun _ _ h => h) fun _ _ h => h.1) ?_
    exact fun _ _ => ends_get (ends_pure trivial)
  | getSubnet id =>
    refine (refuses_call ?_).drop
    exact ends_get (Atomic.orFail _ _)
  | getNetwork id =>
    refine (refuses_call ?_).drop
    exact ends_get (Atomic.orFail _ _)
  | getPort id => exact (refuses_getPort hs id).drop
  | createPort request => exact (refuses_call (Atomic.newPort request)).drop
  | deletePort id => exact refuses_call (ends_modify_last trivial)
  | adminDownPort id => exact refuses_call (Atomic.updatePort id _).drop
  | setPortAdminStateUp id up => exact (refuses_setPortAdminStateUp id up s).drop
  | plugPort amphora port =>
    refine refuses_call ?_
    refine Atomic.bind ((ends_orFail _ amphora.computeId _).mono (fun _ _ h => h)
      fun _ _ h => h.1) ?_
    exact fun c _ => Atomic.plug c port.id
  | plugFixedIp id subnetId => exact (refuses_plugFixedIp id subnetId s).drop
  | unplugFixedIp id subnetId =>
    refine (refuses_call (ends_get ?_)).drop
    split
    · exact Atomic.portById id
    · exact Atomic.updatePort id _
  | unplugNetwork c networkId => exact refuses_unplugNetwork c networkId s
  | allocateVip lb => exact absurd rfl (hc lb)
  | deallocateVip vip =>
    refine refuses_call ?_
    split
    · exact ends_modify_last trivial
    · exact ends_pure trivial
  | plugAapPort vip amphora subnet => exact (refuses_plugAapPort hs vip amphora subnet).drop
  | unplugAapPort amphora => exact refuses_call (ends_modify_last trivial)
  | unplugVip lb => exact refuses_call (ends_modify_last trivial)
  | updateVip lb forDelete => exact refuses_begin _ _ s
  | updateVipSg lb => exact (refuses_updateVipSg lb s).drop
  | updateAapPortSg lb amphora => exact refuses_updateAapPortSg hs lb amphora
  | applyQosOnPort qosPolicyId id => exact refuses_call (Atomic.updatePort id _).drop
  | getSecurityGroup name =>
    refine (refuses_call ?_).drop
    exact ends_get (Atomic.orFail _ _)
  | getNetworkConfigs lb amphora =>
    refine (refuses_call ?_).drop
    exact ends_get (ends_pure trivial)

/-- A call that fails, as scripted or for a reason, leaves the substrate as it was but for its entry
in the journal, the queue of failures of its operation and the counts of addresses. -/
theorem failed_command_changes_nothing (hs : s.WellKept) {c : Command}
    (hc : ∀ lb, c ≠ .allocateVip lb) {e : NetworkError}
    (h : c.perform.runOn s = (.error e, t)) :
    t = { s with
      journal := s.journal ++ [c.entry], faults := t.faults, allocations := t.allocations } ∧
    (∀ op ≠ c.entry.operation, t.queue op = s.queue op) ∧
    (takeFault c.entry.operation s.faults = some (e, t.faults) ∧ t.allocations = s.allocations ∨
      takeFault c.entry.operation s.faults = none ∧ t.faults = s.faults ∧
        ∀ id, s.allocated id ≤ t.allocated id) := by
  have hrefused : s.Refused c.entry e t := Ends.of_error (refuses_command hs hc) h
  refine ⟨?_, fun op hne => hrefused.queue hne, ?_⟩
  · cases hrefused with
    | scripted faults hdue => rfl
    | genuine hundue hallocating =>
      obtain ⟨m, rfl, -⟩ := hallocating
      rfl
  · cases hrefused with
    | scripted faults hdue => exact .inl ⟨hdue, rfl⟩
    | genuine hundue hallocating =>
      obtain ⟨m, rfl, hcount⟩ := hallocating
      exact .inr ⟨hundue, rfl, fun id => (hcount id).1⟩

/-- A port is going down, and the next status read is going to fail. -/
def portGoingDown : Substrate :=
  after {}
    [.addSubnet (Sample.subnet "mgmt-subnet" "mgmt-net" "192.168.0.0/24"),
     .seedInterface "vm-1" { Sample.managementInterface with portId := some "port-1" },
     .setDownDelay 2,
     .command (.setPortAdminStateUp "port-1" false),
     .injectFault .getPort 1 (.driver "unreachable")]

theorem portGoingDown_coherent : portGoingDown.Coherent := by
  refine Coherent.empty.after ⟨fun known hknown => ?_, fun _ => ?_, trivial, trivial, trivial,
    trivial⟩
  · cases hknown
  · rfl

/-- A port on two subnets, the second of which is unknown. -/
def halfKnown : PortRequest where
  networkId := "mgmt-net"
  name := "half-known"
  fixedIps := [{ subnetId := "mgmt-subnet" }, { subnetId := "other-subnet" }]

/-- An address was handed out for the first subnet. The port is still going down, and the failure of
the next status read is still to come. -/
theorem failed_command_changes_nothing_sample :
    ∃ t, (Command.createPort halfKnown).perform.runOn portGoingDown =
        (.error (.subnetNotFound "other-subnet"), t) ∧
      t = { portGoingDown with
        journal := portGoingDown.journal ++ [⟨.createPort, "half-known"⟩]
        faults := t.faults, allocations := t.allocations } ∧
      t.queue .getPort = portGoingDown.queue .getPort ∧
      portGoingDown.pendingDown.get? "port-1" = some 2 ∧
      portGoingDown.allocated "mgmt-subnet" = 1 ∧ t.allocated "mgmt-subnet" = 2 := by
  have hrun : (Command.createPort halfKnown).perform.runOn portGoingDown =
      (.error (.subnetNotFound "other-subnet"),
        ((Command.createPort halfKnown).perform.runOn portGoingDown).2) := rfl
  have h := failed_command_changes_nothing portGoingDown_coherent.wellKept
    (fun _ heq => by cases heq) hrun
  exact ⟨_, hrun, h.1, h.2.1 .getPort (by decide), by decide +kernel⟩

end AmphoraWiring.Substrate
