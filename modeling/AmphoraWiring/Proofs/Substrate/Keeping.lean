import AmphoraWiring.Proofs.Substrate.Edits
import AmphoraWiring.Proofs.Substrate.SameBut

/-!
What calls keep without taking care of it. Most calls neither make a port nor plug one in. They look
things up, change ports without moving them, detach ports or remove them. A fact that outlasts each
of these changes outlasts all such calls, wherever they stop.
-/
namespace AmphoraWiring.Substrate

open Action

variable {s t u : Substrate} {P : Substrate → Prop} {f : Port → Port}

/-- A change of ports that leaves them their ids, their networks and their instances. -/
def KeepsPlace (f : Port → Port) : Prop :=
  ∀ p, (f p).id = p.id ∧ (f p).networkId = p.networkId ∧ (f p).deviceId = p.deviceId

/-- From a state of which `P` holds the call leaves one, however it ends. -/
def Maintains (P : Substrate → Prop) (s : Substrate) (call : Call α) : Prop :=
  P s → call.Ends s (fun _ t => P t) fun _ t => P t

namespace Maintains

/-- What each part maintains, the whole maintains. -/
theorem bind {call : Call α} {rest : α → Call β} (h : Maintains P s call)
    (hrest : ∀ (a : α) (t : Substrate), Maintains P t (rest a)) : Maintains P s (call >>= rest) :=
  fun hs => Ends.bind (h hs) (fun a t ht => hrest a t ht) fun _ _ ht => ht

theorem drop {call : Call α} (h : Maintains P s call) : Maintains P s (do let _ ← call) :=
  fun hs => Ends.drop (h hs)

theorem on_get {rest : Substrate → Call α} (h : Maintains P s (rest s)) :
    Maintains P s (do rest (← get)) :=
  fun hs => ends_get (h hs)

theorem of_pure (a : α) : Maintains P s (pure a) := fun hs => ends_pure hs

theorem of_orFail (e : NetworkError) (value : Option α) : Maintains P s (orFail e value) :=
  fun hs => (ends_orFail e value s).mono (fun _ _ hend => hend.1 ▸ hs) fun _ _ hend => hend.1 ▸ hs

theorem of_portById (id : String) : Maintains P s (portById id) := on_get (of_orFail _ _)

theorem of_portsOfInstance (c : String) : Maintains P s (portsOfInstance c) :=
  on_get (of_orFail _ _)

theorem on_modify {g : Substrate → Substrate} {rest : Call α} (hg : P s → P (g s))
    (h : Maintains P (g s) rest) : Maintains P s (do modify g; rest) :=
  fun hs => ends_modify (h (hg hs))

theorem of_modify {g : Substrate → Substrate} (hg : P s → P (g s)) : Maintains P s (modify g) :=
  fun hs => ends_modify_last (hg hs)

end Maintains

/-- A release takes addresses only. -/
theorem keepsPlace_release (subnetId : String) (keeps : Bool) :
    KeepsPlace fun p => p.release subnetId keeps := by
  intro p
  cases keeps
  · exact ⟨rfl, rfl, rfl⟩
  · exact ⟨rfl, rfl, rfl⟩

theorem keepsPlace_withGroup (groupId : String) : KeepsPlace (withGroup groupId) := by
  intro p
  unfold withGroup
  split
  · exact ⟨rfl, rfl, rfl⟩
  · exact ⟨rfl, rfl, rfl⟩

/-- The fact is one about networks, ports and lists, and it outlasts changes of ports where they
are, detachments and removals. An id may be drawn at any time. -/
structure Lasting (P : Substrate → Prop) : Prop where
  of_eq : ∀ {s t : Substrate}, P s → t.ports = s.ports → t.plugged = s.plugged →
    t.networks = s.networks → s.drawn ≤ t.drawn → P t
  amend : ∀ {s : Substrate} {f : Port → Port} (id : String), P s → KeepsPlace f → P (s.amend id f)
  detach : ∀ {s : Substrate} (c networkId : String), P s → P (s.detach c networkId)
  removePort : ∀ {s : Substrate} (id : String), P s → P (s.removePort id)

/-- The call neither makes a port nor plugs one in. -/
def Command.AddsNothing : Command → Prop
  | .createPort _ => False
  | .plugPort _ _ => False
  | .allocateVip _ => False
  | .plugAapPort _ _ _ => False
  | _ => True

namespace Lasting

theorem samePorts (hP : Lasting P) (hs : P s) (h : s.SamePorts t) : P t :=
  hP.of_eq hs h.ports h.plugged h.networks (Nat.le_of_eq h.drawn.symm)

theorem heard (hP : Lasting P) (hs : P s) (h : s.Heard t) : P t := hP.samePorts hs h.samePorts

/-- Changes of ports where they are do not matter. -/
theorem amended (hP : Lasting P) {id : String} (hs : P s) (h : s.Amended t id f)
    (hf : KeepsPlace f) : P t := by
  obtain ⟨v, hv, ht⟩ := h
  exact hP.samePorts (hP.amend id (hP.samePorts hs hv) hf) ht

theorem removeBasePort (hP : Lasting P) (amphora : Amphora) (hs : P s) :
    P (s.removeBasePort amphora) := by
  unfold Substrate.removeBasePort
  split
  · exact hP.removePort _ hs
  · exact hs

theorem on_call (hP : Lasting P) {op : Operation} {target : String} {rest : Call α}
    (h : ∀ t : Substrate, Maintains P t rest) : Maintains P s (do begin op target; rest) :=
  fun hs => ends_call (fun _ _ hheard _ _ => hP.heard hs hheard)
    fun t hheard _ => h t (hP.heard hs hheard)

/-- A call that only looks things up. -/
theorem of_heard (hP : Lasting P) {call : Call α} {ok : α → Substrate → Prop}
    {bad : NetworkError → Substrate → Prop}
    (h : call.Ends s (fun a t => s.Heard t ∧ ok a t) fun e t => s.Heard t ∧ bad e t) :
    Maintains P s call :=
  fun hs => h.mono (fun _ _ h => hP.heard hs h.1) fun _ _ h => hP.heard hs h.1

theorem of_updatePort (hP : Lasting P) (id : String) (hf : KeepsPlace f) :
    Maintains P s (updatePort id f) :=
  fun hs => (ends_updatePort id f s).mono (fun _ _ hend => hend.1 ▸ hP.amend id hs hf)
    fun _ _ hend => hend.1 ▸ hs

theorem getPort (hP : Lasting P) (id : String) : Maintains P s (getPort id) := by
  refine hP.on_call fun t => .on_get ?_
  cases t.pendingDown.get? id with
  | none => exact .of_portById id
  | some left =>
    cases left with
    | zero =>
      exact .on_modify (fun ht => hP.of_eq ht rfl rfl rfl (Nat.le_refl _))
        (hP.of_updatePort id fun _ => ⟨rfl, rfl, rfl⟩)
    | succ left =>
      exact .on_modify (fun ht => hP.of_eq ht rfl rfl rfl (Nat.le_refl _)) (.of_portById id)

/-- The counter of a port that is going down does not matter, nor does its state. -/
theorem setPortAdminStateUp (hP : Lasting P) (id : String) (up : Bool) :
    Maintains P s (setPortAdminStateUp id up) := by
  refine hP.on_call fun t => .bind (hP.of_updatePort id fun _ => ⟨rfl, rfl, rfl⟩) fun port u => ?_
  cases up with
  | true =>
    exact .on_modify (fun hu => hP.of_eq hu rfl rfl rfl (Nat.le_refl _))
      (hP.of_updatePort id fun _ => ⟨rfl, rfl, rfl⟩)
  | false =>
    refine .on_get ?_
    change Maintains P u (if _ then _ else _)
    split
    · exact .on_modify (fun hu => hP.of_eq hu rfl rfl rfl (Nat.le_refl _)) (.of_pure port)
    · exact hP.of_updatePort id fun _ => ⟨rfl, rfl, rfl⟩

theorem plugFixedIp (hP : Lasting P) (id subnetId : String) :
    Maintains P s (plugFixedIp id subnetId) := by
  intro hs
  apply (ends_plugFixedIp id subnetId s).mono
  · intro q t hend
    obtain ⟨p, ips, hgains, -⟩ := hend
    exact hP.amended hs hgains.amended fun _ => ⟨rfl, rfl, rfl⟩
  · intro e t hend
    obtain ⟨u, hallocating, hheard, -⟩ := hend
    exact hP.samePorts hs (hallocating.samePorts.trans hheard.samePorts)

theorem unplugFixedIp (hP : Lasting P) (id subnetId : String) :
    Maintains P s (unplugFixedIp id subnetId) := by
  intro hs
  apply (ends_unplugFixedIp id subnetId s).mono
  · intro q t hend
    obtain ⟨p, hloses, -⟩ := hend
    exact hP.amended hs hloses.amended (keepsPlace_release _ _)
  · exact fun e t hend => hP.heard hs hend.1

/-- An instance that leaves a network leaves what lasts. -/
theorem unplugNetwork (hP : Lasting P) (c networkId : String) :
    Maintains P s (unplugNetwork c networkId) :=
  fun hs => (ends_unplugNetwork c networkId s).mono
    (fun _ _ hend => hP.heard (hP.detach c networkId hs) hend.1) fun _ _ hend => hP.heard hs hend.1

theorem unplugAapPort (hP : Lasting P) (amphora : Amphora) :
    Maintains P s (unplugAapPort amphora) :=
  hP.on_call fun _ => .of_modify (hP.removeBasePort amphora)

theorem ensureSecurityGroup (hP : Lasting P) (name : String) :
    Maintains P s (ensureSecurityGroup name) := by
  refine .on_get ?_
  cases s.securityGroups.get? name with
  | some group => exact .of_pure group.id
  | none =>
    intro hs
    refine (ends_drawId s).bind ?_ (fun _ _ h => h.elim)
    intro id u hend
    obtain ⟨-, rfl⟩ := hend
    exact ends_modify (ends_pure (hP.of_eq hs rfl rfl rfl (Nat.le_succ _)))

/-- Groups of ports do not matter. -/
theorem updateVipSg (hP : Lasting P) (lb : LoadBalancer) : Maintains P s (updateVipSg lb) := by
  refine hP.on_call fun t => .on_get ?_
  split
  · exact .of_pure none
  refine (hP.ensureSecurityGroup _).bind fun groupId u => ?_
  split
  next portId _ =>
    exact .on_modify (fun hu => hP.amend portId hu (keepsPlace_withGroup groupId)) (.of_pure _)
  next => exact .of_pure _

theorem updateAapPortSg (hP : Lasting P) (lb : LoadBalancer) (amphora : Amphora) :
    Maintains P s (updateAapPortSg lb amphora) := by
  refine hP.on_call fun t => .on_get ?_
  split
  · exact .of_pure ()
  refine (hP.ensureSecurityGroup _).bind fun groupId u => .on_get ?_
  split
  next portId _ => exact .drop (hP.of_updatePort portId (keepsPlace_withGroup groupId))
  next => exact .of_pure ()

/-- What lasts is kept by every call that neither makes a port nor plugs one in. -/
theorem command (hP : Lasting P) {command : Command} (h : command.AddsNothing) :
    Maintains P s command.perform := by
  cases command with
  | createPort request => exact h.elim
  | plugPort amphora port => exact h.elim
  | allocateVip lb => exact h.elim
  | plugAapPort vip amphora subnet => exact h.elim
  | getPluggedNetworks c => exact .drop (hP.of_heard (ends_getPluggedNetworks c s))
  | getSubnet id => exact .drop (hP.of_heard (ends_getSubnet id s))
  | getNetwork id => exact .drop (hP.of_heard (ends_getNetwork id s))
  | getPort id => exact (hP.getPort id).drop
  | deletePort id => exact hP.on_call fun t => .of_modify (hP.removePort id)
  | adminDownPort id =>
    exact hP.on_call fun t => .drop (hP.of_updatePort id fun _ => ⟨rfl, rfl, rfl⟩)
  | setPortAdminStateUp id up => exact (hP.setPortAdminStateUp id up).drop
  | plugFixedIp id subnetId => exact (hP.plugFixedIp id subnetId).drop
  | unplugFixedIp id subnetId => exact (hP.unplugFixedIp id subnetId).drop
  | unplugNetwork c networkId => exact hP.unplugNetwork c networkId
  | deallocateVip vip =>
    refine hP.on_call fun t => ?_
    split
    next portId _ => exact .of_modify (hP.removePort portId)
    next => exact .of_pure ()
  | unplugAapPort amphora => exact hP.unplugAapPort amphora
  | unplugVip lb =>
    refine hP.on_call fun t => .of_modify fun ht => ?_
    exact List.foldlRecOn lb.amphorae Substrate.removeBasePort ht
      fun u hu amphora _ => hP.removeBasePort amphora hu
  | updateVip lb forDelete =>
    refine fun hs => (ends_begin _ _ s).mono (fun _ _ hend => ?_) fun _ _ hend => ?_
    · obtain ⟨-, rfl⟩ := hend
      exact hP.of_eq hs rfl rfl rfl (Nat.le_refl _)
    · obtain ⟨faults, -, rfl⟩ := hend
      exact hP.of_eq hs rfl rfl rfl (Nat.le_refl _)
  | updateVipSg lb => exact (hP.updateVipSg lb).drop
  | updateAapPortSg lb amphora => exact hP.updateAapPortSg lb amphora
  | applyQosOnPort policyId id =>
    exact hP.on_call fun t => .drop (hP.of_updatePort id fun _ => ⟨rfl, rfl, rfl⟩)
  | getSecurityGroup name => exact .drop (hP.on_call fun t => .on_get (.of_orFail _ _))
  | getNetworkConfigs lb amphora => exact .drop (hP.on_call fun t => .on_get (.of_pure _))

end Lasting

end AmphoraWiring.Substrate
