import AmphoraWiring.Proofs.Substrate.BasePorts
import AmphoraWiring.Proofs.Substrate.Exclusivity
import AmphoraWiring.Proofs.Substrate.Keeping

/-!
What every call does to the attachments. All calls but two keep the lists of the instances and what
the ports say in step, wherever they stop. The two that plug a port in do so too, unless the port
that they are asked to plug in exists already and another instance lists it.
-/
namespace AmphoraWiring.Substrate

open Action

variable {s t : Substrate} {f : Port → Port}

/-! Calls that plug nothing in -/

/-- From a state in which the attachments agree the call leaves one, however it ends. -/
def KeepsAttachments (s : Substrate) (call : Call α) : Prop :=
  s.AttachmentsAgree →
    call.Ends s (fun _ t => t.AttachmentsAgree) fun _ t => t.AttachmentsAgree

theorem lasting_attachmentsAgree : Lasting AttachmentsAgree where
  of_eq hs hports hplugged _ hdrawn :=
    hs.of_eq hports (fun c => by rw [pluggedPortIds, hplugged, pluggedPortIds]) hdrawn
  amend id hs hf := hs.amend id fun p => ⟨(hf p).1, (hf p).2.2⟩
  detach c networkId hs := hs.detach c networkId
  removePort id hs := hs.removePort id

/-- A new port is plugged into no instance. -/
theorem ends_newPort_agree (hs : s.AttachmentsAgree) (request : PortRequest) :
    (newPort request).Ends s
      (fun p t => t.AttachmentsAgree ∧ t.ports.get? p.id = some p ∧ p.deviceId = none)
      fun _ t => t.AttachmentsAgree := by
  have hips : ∀ network, (resolveFixedIps request.networkId
      (PortRequest.wishes request network)).Ends s (fun _ u => u.AttachmentsAgree)
        fun _ u => u.AttachmentsAgree := by
    intro network
    apply (ends_resolveFixedIps request.networkId _ s).mono
    · exact fun ips u hend => hs.samePorts hend.1.samePorts
    · exact fun e u hend => hs.samePorts hend.1.samePorts
  refine (ends_newPort_resolved (fun _ _ => hs) fun network _ => hips network).imp_ok ?_
  · intro p t hend
    obtain ⟨ips, u, hu, rfl, rfl⟩ := hend
    exact ⟨hu.addPort rfl rfl, IdMap.get?_insert_self _ _ _, rfl⟩

/-- A new port names no device. -/
theorem ends_createPort_agree (hs : s.AttachmentsAgree) (request : PortRequest) :
    (createPort request).Ends s
      (fun p t => t.AttachmentsAgree ∧ t.ports.get? p.id = some p ∧ p.deviceId = none)
      fun _ t => t.AttachmentsAgree :=
  ends_call (fun _ _ h _ _ => hs.heard h) fun _ h _ => ends_newPort_agree (hs.heard h) request

/-- The port of the address is stored again with the addresses that it has gained. -/
theorem ends_answerVip_agree (hs : s.AttachmentsAgree) (lb : LoadBalancer) {p : Port}
    (hp : s.ports.get? p.id = some p) : (answerVip lb p).Ends s
      (fun _ t => t.AttachmentsAgree) fun _ t => t.AttachmentsAgree := by
  apply (ends_answerVip lb p s).mono
  · intro allocated t hend
    obtain ⟨-, ips, u, hallocating, rfl⟩ := hend
    have hu : u.AttachmentsAgree := hs.samePorts hallocating.samePorts
    have hstored : u.ports.get? p.id = some p := hallocating.samePorts.ports ▸ hp
    exact hu.storeAgain (p := p.addIps ips) hstored rfl
  · exact fun _ _ h => hs.samePorts h.samePorts

theorem keepsAttachments_allocateVip (lb : LoadBalancer) (s : Substrate) :
    s.KeepsAttachments (allocateVip lb) := by
  rw [allocateVip_eq]
  refine lasting_attachmentsAgree.on_call fun t => .on_get fun ht => ?_
  cases hport : t.vipPort? lb.vip with
  | some p =>
    obtain ⟨id, -, hp⟩ := Option.bind_eq_some_iff.mp hport
    exact ends_answerVip_agree ht lb ((ht.own_id hp).symm ▸ hp)
  | none =>
    refine (ends_newPort_agree ht (vipPortRequest lb)).bind ?_ (fun _ _ h => h)
    intro p u hend
    obtain ⟨hu, hp, -⟩ := hend
    exact ends_answerVip_agree hu lb hp

/-! Calls that plug a port in -/

/-- The command is to plug the port into the instance. -/
inductive Command.Plugs (s : Substrate) : Command → String → String → Prop where
  | port (amphora : Amphora) (port : Port) (c : String) (hc : amphora.computeId = some c) :
      Plugs s (.plugPort amphora port) c port.id
  | base (vip : Vip) (amphora : Amphora) (subnet : Subnet) (c id : String)
      (hc : amphora.computeId = some c) (hbase : s.basePortOf amphora = some id) :
      Plugs s (.plugAapPort vip amphora subnet) c id

/-- The port is plugged into the instance of the amphora, whoever lists it. -/
theorem ends_plugPort_plugging (amphora : Amphora) (port : Port) (s : Substrate) :
    (plugPort amphora port).Ends s
      (fun _ t => ∃ c, amphora.computeId = some c ∧ s.ports.contains port.id ∧
        (s.attach c port.id).Heard t)
      fun _ t => s.Heard t := by
  refine ends_call (fun _ _ h _ _ => h) fun t h _ => ?_
  refine (ends_orFail _ amphora.computeId t).bind ?_ (fun _ _ hend => hend.1 ▸ h)
  intro c u hend
  obtain ⟨rfl, hc⟩ := hend
  apply (ends_plug c port.id u).mono
  · intro a v hend
    obtain ⟨rfl, -, p, hp⟩ := hend
    exact ⟨c, hc, IdMap.contains_iff.mpr ⟨p, h.ports ▸ hp⟩, h.attach c port.id⟩
  · exact fun _ _ hend => hend.1 ▸ h

/-- The base port of the amphora is plugged in, and no other port. -/
theorem ends_plugAapPort_plugging (hs : s.AttachmentsAgree) (vip : Vip) (amphora : Amphora)
    (subnet : Subnet) : (plugAapPort vip amphora subnet).Ends s
      (fun _ t => Plugging (Command.Plugs s (.plugAapPort vip amphora subnet)) s t)
      fun _ t => Plugging (Command.Plugs s (.plugAapPort vip amphora subnet)) s t := by
  rw [plugAapPort_eq]
  refine ends_call (fun _ _ h _ _ => .of_heard h) fun t h _ => ?_
  refine (ends_orFail _ amphora.computeId t).bind ?_ (fun _ _ hend => hend.1 ▸ .of_heard h)
  intro c t' hend
  obtain ⟨rfl, hc⟩ := hend
  refine (ends_portsOfInstance c t').bind ?_ (fun _ _ hend => hend.1 ▸ .of_heard h)
  intro ids u hend
  obtain ⟨rfl, -, -⟩ := hend
  have hbase : u.basePortOf amphora = s.basePortOf amphora := by
    obtain ⟨calls, faults, rfl, -⟩ := h
    rfl
  apply ends_get
  cases hfound : s.basePortOf amphora with
  | some id =>
    rw [hbase, hfound]
    have hport : s.ports.contains id := contains_basePortOf hs.own_id hfound
    refine (ends_plugBase vip amphora c id u).mono ?_ (fun _ _ ht => ht ▸ .of_heard h)
    intro _ v hend
    obtain ⟨rfl, -⟩ := hend
    refine .plugged c [id] (fun id' hid => ?_) (h.attach c id)
    rw [List.mem_singleton.mp hid]
    exact ⟨.base vip amphora subnet c id hc hfound, hport⟩
  | none =>
    rw [hbase, hfound]
    have hunasked : ∀ c id, ¬ Command.Plugs s (.plugAapPort vip amphora subnet) c id := by
      intro c id hplugs
      cases hplugs with
      | base _ _ _ _ _ _ hbase => cases hfound.symm.trans hbase
    have hu : u.AttachmentsAgree := hs.heard h
    refine (ends_newPort_agree hu (basePortRequest vip amphora subnet)).bind ?_
      (fun _ _ h => .unasked hunasked h)
    intro p v hend
    obtain ⟨hv, hp, hfree⟩ := hend
    refine (ends_plugBase vip amphora c p.id v).mono ?_ (fun _ _ ht => ht ▸ .unasked hunasked hv)
    intro _ w hend
    obtain ⟨rfl, -⟩ := hend
    -- the new port names no instance, so none lists it
    refine .unasked hunasked (hv.attach (IdMap.contains_iff.mpr ⟨p, hp⟩) ?_)
    intro c' hlisted
    have hnamed := (hv.device hp c').mpr hlisted
    simp [hfree] at hnamed

/-- Whatever a call does to the attachments beside plugging ports in, it keeps them in step. -/
theorem plugging_leaves_command (hs : s.AttachmentsAgree) (command : Command) :
    Plugging (command.Plugs s) s ((Event.command command).leaves s) := by
  -- for the calls that plug nothing in
  have hkept : (∀ c id, ¬ command.Plugs s c id) → s.KeepsAttachments command.perform →
      Plugging (command.Plugs s) s ((Event.command command).leaves s) :=
    fun hunasked h => .unasked hunasked (Ends.state (p := AttachmentsAgree) (h hs))
  cases command with
  | plugPort amphora port =>
    refine Ends.state (p := Plugging (Command.Plugs s (.plugPort amphora port)) s) ?_
    apply (ends_plugPort_plugging amphora port s).mono
    · intro _ t hend
      obtain ⟨c, hc, hport, hheard⟩ := hend
      refine .plugged c [port.id] (fun id hid => ?_) hheard
      rw [List.mem_singleton.mp hid]
      exact ⟨.port amphora port c hc, hport⟩
    · exact fun _ _ h => .of_heard h
  | plugAapPort vip amphora subnet =>
    exact Ends.state (p := Plugging (Command.Plugs s (.plugAapPort vip amphora subnet)) s)
      (Ends.drop (ends_plugAapPort_plugging hs vip amphora subnet))
  | createPort request =>
    exact hkept nofun (Maintains.drop fun hs => (ends_createPort_agree hs request).imp_ok
      fun _ _ hend => hend.1)
  | allocateVip lb => exact hkept nofun (Maintains.drop (keepsAttachments_allocateVip lb s))
  | _ => exact hkept nofun (lasting_attachmentsAgree.command trivial)

end AmphoraWiring.Substrate
