import AmphoraWiring.Proofs.Saga.NicChanges
import AmphoraWiring.Proofs.Substrate.Plugging
import AmphoraWiring.Saga.Attachment
import AmphoraWiring.Saga.VirtualAddress

/-!
What becomes of the attachments in the course of a history of calls, of failures that are scripted
for them, and of steps that plug ports in or take them away again. The lists of the instances and
what the ports say agree in every state that is reached, and no port is plugged into two instances,
as long as no port is plugged in that another instance lists; and they do not survive that.
-/
namespace AmphoraWiring

open Action Substrate Deployment

namespace Deployment

variable {run : Run Deployment}

/-- Where the attachments agree the work keeps them so, however it ends. -/
def KeepsAttachments (run : Run Deployment) (work : Work α) : Prop :=
  run.state.substrate.AttachmentsAgree →
    work.Ends run (fun _ run' => run'.state.substrate.AttachmentsAgree)
      fun _ run' => run'.state.substrate.AttachmentsAgree

namespace KeepsAttachments

theorem bind {work : Work α} {rest : α → Work β} (h : KeepsAttachments run work)
    (hrest : ∀ (a : α) (run' : Run Deployment), KeepsAttachments run' (rest a)) :
    KeepsAttachments run (work >>= rest) :=
  fun hs => Ends.bind (h hs) (fun a run' h => hrest a run' h) fun _ _ h => h

theorem of_call {call : Call α} (h : run.state.substrate.KeepsAttachments call) :
    KeepsAttachments run (onSubstrate call) :=
  fun hs => (ends_onSubstrate (h hs)).mono (fun _ _ h => h.1) fun _ _ h => h.1

theorem of_repository (call : Repository.Call α) : KeepsAttachments run (onRepository call) :=
  fun hs => (ends_onRepository (ends_runOn call _)).mono (fun _ _ h => h.2.1 ▸ hs)
    fun _ _ h => h.2.1 ▸ hs

theorem of_fillPort (p : Port) : KeepsAttachments run (fillPort p) :=
  fun hs => (ends_fillPort p run).mono (fun _ _ h => hs.heard h.1.1) fun _ _ h => hs.heard h.1.1

end KeepsAttachments

end Deployment

namespace Delta

variable {amphora : Amphora} {run : Run Deployment}

/-- A port that was just made is on no instance. -/
theorem ends_createMemberPort_agree (hs : run.state.substrate.AttachmentsAgree)
    (amphora : Amphora) (nic : Interface) : Action.Ends (createMemberPort amphora nic) run
      (fun p run' => run'.state.substrate.AttachmentsAgree ∧
        run'.state.substrate.ports.get? p.id = some p ∧ p.deviceId = none)
      fun _ run' => run'.state.substrate.AttachmentsAgree := by
  refine Flow.ends_outcome (ends_onSubstrate (ends_createPort_agree hs _)) ?_ ?_
  · exact fun p run' hend => ends_pure hend.1
  · exact fun e run' hend => ends_throw hend.1

/-- A port that names no instance is plugged in, or thrown away again. -/
theorem ends_plugNewPort_agree (hs : run.state.substrate.AttachmentsAgree) {p : Port}
    (hp : run.state.substrate.ports.get? p.id = some p) (hfree : p.deviceId = none)
    (networkId : String) : Action.Ends (plugNewPort amphora p networkId) run
      (fun _ run' => run'.state.substrate.AttachmentsAgree)
      fun _ run' => run'.state.substrate.AttachmentsAgree := by
  apply (ends_plugNewPort amphora p networkId run).mono
  · intro _ run' hend
    obtain ⟨⟨c, -, -, hheard⟩, -⟩ := hend
    refine (hs.attach (IdMap.contains_iff.mpr ⟨p, hp⟩) fun c' hlisted => ?_).heard hheard
    have hnamed := (hs.device hp c').mpr hlisted
    simp [hfree] at hnamed
  · intro e run' hend
    obtain ⟨⟨-, hdiscarded⟩, -⟩ := hend
    rcases hdiscarded with ⟨hheard, -⟩ | ⟨reason, hheard, -⟩
    · exact (hs.removePort p.id).heard hheard
    · exact hs.heard hheard

theorem keepsAttachments_addNic (amphora : Amphora) (changed : ChangedPorts) (nic : Interface)
    (run : Run Deployment) : KeepsAttachments run (addNic amphora changed nic) := by
  intro hs
  refine (ends_createMemberPort_agree hs amphora nic).bind ?_ (fun _ _ h => h)
  intro p run₁ hend
  obtain ⟨hs₁, hp, hfree⟩ := hend
  refine (ends_plugNewPort_agree hs₁ hp hfree nic.networkId).bind ?_ (fun _ _ h => h)
  intro _ run₂ hs₂
  apply ends_record
  refine KeepsAttachments.bind (.of_repository _) (fun _ run₃ hs₃ => ?_) hs₂
  apply ends_record
  exact KeepsAttachments.bind (.of_fillPort p) (fun q run₄ h => ends_pure h) hs₃

theorem keepsAttachments_addSubnet (changed : ChangedPorts) (change : SubnetChange)
    (run : Run Deployment) : KeepsAttachments run (addSubnet changed change) := by
  intro hs
  apply (ends_addSubnet changed change run).mono
  · intro changed' run' hend
    cases hend with
    | present q hport hsubnet hchanged hstate => exact hstate ▸ hs
    | gained id p ips q htarget hgains hmatches hchanged hrecords habsent =>
      exact hs.amended hgains.amended fun _ => ⟨rfl, rfl⟩
  · intro e run' hend
    obtain ⟨hend, -⟩ := hend
    cases hend with
    | refused u hallocating hheard hrecords =>
      exact hs.samePorts (hallocating.samePorts.trans hheard.samePorts)
    | gained id p ips htarget hgains hrecords => exact hs.amended hgains.amended fun _ => ⟨rfl, rfl⟩

theorem keepsAttachments_deleteSubnet (changed : ChangedPorts) (change : SubnetChange)
    (run : Run Deployment) : KeepsAttachments run (deleteSubnet changed change) := by
  intro hs
  apply (ends_deleteSubnet changed change run).mono
  · intro changed' run' hend
    cases hend with
    | unnamed hport hchanged hstate => exact hstate ▸ hs
    | lost id p q hport hloses hmatches hchanged hrecords =>
      exact lasting_attachmentsAgree.amended hs hloses.amended (keepsPlace_release _ _)
  · intro e run' hend
    obtain ⟨hend, -⟩ := hend
    cases hend with
    | refused hheard => exact hs.heard hheard.1
    | lost id p hport hloses hrecords =>
      exact lasting_attachmentsAgree.amended hs hloses.amended (keepsPlace_release _ _)

theorem keepsAttachments_deleteNic (amphora : Amphora) (changed : ChangedPorts) (nic : Interface)
    (run : Run Deployment) : KeepsAttachments run (deleteNic amphora changed nic) :=
  fun hs => (ends_deleteNic amphora changed nic run).mono
    (fun _ _ hend => hs.removal hend.2.removal)
    fun _ _ hend => hs.removal hend.1.removal

/-- Ports and instances agree after a delta as they did before. -/
theorem keepsAttachments_apply (delta : Delta) (amphora : Amphora) (run : Run Deployment) :
    KeepsAttachments run (delta.apply amphora) := by
  have hloop : ∀ {γ : Type} {f : ChangedPorts → γ → Work ChangedPorts} {l : List γ},
      (∀ changed x run, KeepsAttachments run (f changed x)) → ∀ changed run,
      KeepsAttachments run (l.foldlM f changed) :=
    fun hstep changed run hs => Ends.foldlM_mem (fun x _ changed run h => hstep changed x run h) hs
  refine .bind (hloop (keepsAttachments_addNic amphora) _ run) fun changed₁ run₁ => ?_
  refine .bind (hloop keepsAttachments_addSubnet changed₁ run₁) fun changed₂ run₂ => ?_
  refine .bind (hloop keepsAttachments_deleteSubnet changed₂ run₂) fun changed₃ run₃ => ?_
  refine .bind (hloop (keepsAttachments_deleteNic amphora) changed₃ run₃) fun changed₄ run₄ => ?_
  exact fun h => ends_pure h

theorem ends_unwind_agree (delta : Delta) (ports : List Port)
    (hs : run.state.substrate.AttachmentsAgree) : Effect.Ends (delta.unwind ports) run
      fun _ run' => run'.state.substrate.AttachmentsAgree := by
  refine Effect.Ends.forM_mem ?_ hs
  intro nic _ run h
  exact (ends_removeAddedNic delta ports nic run).mono fun _ _ hend => h.removal hend.removal

end Delta

/-- What may happen to the attachments: a call, a failure that is scripted for one, and the steps
that plug ports in, two of which may be taken back. -/
inductive Move where
  | command (asked : Command)
  | injectFault (op : Operation) (times : Nat) (e : NetworkError)
  | plugPorts (amphoraId : String) (ports : List Port)
  | plugVip (loadBalancerId amphoraId subnetId : String)
  | takeBackVip (loadBalancerId amphoraId subnetId : String) (plugged : Amphora)
  | applyDelta (amphoraId : String) (delta : Delta)
  | takeBackDelta (amphoraId : String) (delta : Delta) (changed : IdMap (List Port))

namespace Move

/-- Makes the move; what it gives back is dropped. -/
def perform : Move → Work Unit
  | .command c => onSubstrate c.perform
  | .injectFault op times e => onSubstrate (modify fun s => s.injectFault op times e)
  | .plugPorts amphoraId ports => (Step.plugPorts amphoraId ports).execute
  | .plugVip loadBalancerId amphoraId subnetId => do
    let _ ← (Step.plugVip loadBalancerId amphoraId subnetId).execute
  | .takeBackVip loadBalancerId amphoraId subnetId plugged =>
    liftM ((Step.plugVip loadBalancerId amphoraId subnetId).revert plugged)
  | .applyDelta amphoraId delta => do let _ ← (Step.applyDelta amphoraId delta).execute
  | .takeBackDelta amphoraId delta changed =>
    liftM ((Step.applyDelta amphoraId delta).revert changed)

/-- The substrate that the move leaves, whether it succeeds or fails. -/
def leaves (m : Move) (run : Run Deployment) : Substrate := (m.perform.runOn run).2.state.substrate

/-- The move is to plug the port into the instance; a port that it makes itself does not count. -/
def Plugs (run : Run Deployment) : Move → String → String → Prop
  | .command asked, c, id => asked.Plugs run.state.substrate c id
  | .plugPorts amphoraId ports, c, id => ∃ amphora,
    run.state.repository.amphorae.get? amphoraId = some amphora ∧ amphora.computeId = some c ∧
      ∃ port ∈ ports, port.id = id
  | .plugVip _ amphoraId _, c, id => ∃ amphora,
    run.state.repository.amphorae.get? amphoraId = some amphora ∧ amphora.computeId = some c ∧
      run.state.substrate.basePortOf amphora = some id
  | _, _, _ => False

/-- The move plugs a port in that another instance lists. -/
def Seizes (m : Move) (run : Run Deployment) : Prop :=
  Seized (m.Plugs run) run.state.substrate (m.leaves run)

end Move

namespace Step

theorem ends_forM_plugPort {amphora : Amphora} {c : String} (hc : amphora.computeId = some c)
    (ports : List Port) (run : Run Deployment) :
    Action.Ends (ports.forM fun port => onSubstrate (plugPort amphora port)) run
      (fun _ run' => ∃ ids, (∀ id ∈ ids, (∃ port ∈ ports, port.id = id) ∧
        run.state.substrate.ports.contains id) ∧
        (run.state.substrate.attachAll c ids).Heard run'.state.substrate)
      fun _ run' => ∃ ids, (∀ id ∈ ids, (∃ port ∈ ports, port.id = id) ∧
        run.state.substrate.ports.contains id) ∧
        (run.state.substrate.attachAll c ids).Heard run'.state.substrate := by
  induction ports generalizing run with
  | nil => exact ends_pure ⟨[], by simp, .refl _⟩
  | cons port ports ih =>
    refine (ends_onSubstrate (ends_plugPort_plugging amphora port _)).bind ?_ ?_
    · intro _ run₁ hend
      obtain ⟨⟨c', hc', hport, hattached⟩, -⟩ := hend
      cases hc.symm.trans hc'
      -- the rest starts from the state in which this port has been plugged in
      have hmore : ∀ run' : Run Deployment, (∃ ids, (∀ id ∈ ids, (∃ port ∈ ports, port.id = id) ∧
          run₁.state.substrate.ports.contains id) ∧
          (run₁.state.substrate.attachAll c ids).Heard run'.state.substrate) →
          ∃ ids, (∀ id ∈ ids, (∃ p ∈ port :: ports, p.id = id) ∧
            run.state.substrate.ports.contains id) ∧
            (run.state.substrate.attachAll c ids).Heard run'.state.substrate := by
        intro run' h
        obtain ⟨ids, hids, hheard⟩ := h
        refine ⟨port.id :: ids, ?_, (hattached.attachAll c).trans hheard⟩
        rw [List.forall_mem_cons]
        refine ⟨⟨⟨port, List.mem_cons_self, rfl⟩, hport⟩, fun id hid => ?_⟩
        obtain ⟨⟨p, hp, heq⟩, hcontains⟩ := hids id hid
        rw [hattached.ports, contains_ports_attach] at hcontains
        exact ⟨⟨p, List.mem_cons_of_mem _ hp, heq⟩, hcontains⟩
      exact (ih run₁).mono (fun _ run' h => hmore run' h) fun _ run' h => hmore run' h
    · exact fun e run₁ hend => ⟨[], by simp, hend.1⟩

/-- Some of the ports that the step is given may have been plugged in, and nothing else was done. -/
theorem ends_plugPorts_plugging (amphoraId : String) (ports : List Port) (run : Run Deployment) :
    Action.Ends (plugPorts amphoraId ports).execute run
      (fun _ run' => Plugging (Move.Plugs run (.plugPorts amphoraId ports)) run.state.substrate
        run'.state.substrate)
      fun _ run' => Plugging (Move.Plugs run (.plugPorts amphoraId ports)) run.state.substrate
        run'.state.substrate := by
  refine (ends_onRepository (Repository.ends_getAmphora amphoraId _)).bind ?_ ?_
  · intro amphora run₁ hend
    obtain ⟨⟨-, hstored⟩, hsubstrate, -⟩ := hend
    rw [← hsubstrate]
    cases hc : amphora.computeId with
    | none =>
      -- the first call fails, if there is one
      cases ports with
      | nil => exact ends_pure (.of_heard (.refl _))
      | cons port ports =>
        refine (ends_onSubstrate (ends_plugPort_plugging amphora port _)).bind ?_
          fun _ _ hend => .of_heard hend.1
        intro _ run₂ hend
        obtain ⟨⟨c, hc', -⟩, -⟩ := hend
        cases hc.symm.trans hc'
    | some c =>
      have hplugging : ∀ run' : Run Deployment,
          (∃ ids, (∀ id ∈ ids, (∃ port ∈ ports, port.id = id) ∧
            run₁.state.substrate.ports.contains id) ∧
            (run₁.state.substrate.attachAll c ids).Heard run'.state.substrate) →
          Plugging (Move.Plugs run (.plugPorts amphoraId ports)) run₁.state.substrate
            run'.state.substrate := by
        intro run' h
        obtain ⟨ids, hids, hheard⟩ := h
        exact .plugged c ids
          (fun id hid => ⟨⟨amphora, hstored, hc, (hids id hid).1⟩, (hids id hid).2⟩) hheard
      exact (ends_forM_plugPort hc ports run₁).mono (fun _ run' h => hplugging run' h)
        fun _ run' h => hplugging run' h
  · intro e run₁ hend
    obtain ⟨-, hsubstrate, -⟩ := hend
    exact hsubstrate ▸ .of_heard (.refl _)

/-- Whether the base port of the amphora is plugged in depends on the amphora that is stored. -/
theorem ends_plugVip_plugging {run : Run Deployment} (hs : run.state.substrate.AttachmentsAgree)
    (loadBalancerId amphoraId subnetId : String) :
    Action.Ends (plugVip loadBalancerId amphoraId subnetId).execute run
      (fun _ run' => Plugging (Move.Plugs run (.plugVip loadBalancerId amphoraId subnetId))
        run.state.substrate run'.state.substrate)
      fun _ run' => Plugging (Move.Plugs run (.plugVip loadBalancerId amphoraId subnetId))
        run.state.substrate run'.state.substrate := by
  refine (ends_onRepository (Repository.ends_getAmphora amphoraId _)).bind ?_
    fun _ _ hend => hend.2.1 ▸ .of_heard (.refl _)
  intro amphora run₁ hend
  obtain ⟨⟨-, hstored⟩, hsubstrate₁, -⟩ := hend
  refine (ends_onRepository (Repository.ends_getLoadBalancer loadBalancerId _)).bind ?_
    fun _ _ hend => (hend.2.1.trans hsubstrate₁) ▸ .of_heard (.refl _)
  intro lb run₂ hend
  obtain ⟨-, hsubstrate₂, -⟩ := hend
  rw [hsubstrate₁] at hsubstrate₂
  refine (ends_onSubstrate (ends_getSubnet subnetId _)).bind ?_
    fun _ _ hend => .of_heard (hsubstrate₂ ▸ hend.1.1)
  intro subnet run₃ hend
  obtain ⟨⟨hheard, -⟩, -⟩ := hend
  rw [hsubstrate₂] at hheard
  have hs₃ := hs.heard hheard
  have hplugging : ∀ t : Substrate,
      Plugging (Command.Plugs run₃.state.substrate (.plugAapPort lb.vip amphora subnet))
        run₃.state.substrate t →
      Plugging (Move.Plugs run (.plugVip loadBalancerId amphoraId subnetId))
        run.state.substrate t := by
    intro t h
    have hbase : run₃.state.substrate.basePortOf amphora =
        run.state.substrate.basePortOf amphora := by
      obtain ⟨calls, faults, heq, -⟩ := hheard
      rw [heq]
      rfl
    cases h with
    | plugged c ids hplugs h =>
      refine .plugged c ids (fun id hid => ?_) ((hheard.attachAll c).trans h)
      obtain ⟨hplugs, hport⟩ := hplugs id hid
      rw [hheard.ports] at hport
      cases hplugs with
      | base _ _ _ _ _ hc hfound => exact ⟨⟨amphora, hstored, hc, hbase ▸ hfound⟩, hport⟩
    | unasked hnone h =>
      refine .unasked (fun c id hplugs => ?_) h
      obtain ⟨amphora', hstored', hc, hfound⟩ := hplugs
      cases hstored.symm.trans hstored'
      exact hnone c id (.base lb.vip amphora subnet c id hc (hbase.trans hfound))
  exact (ends_onSubstrate (ends_plugAapPort_plugging hs₃ lb.vip amphora subnet)).mono
    (fun _ _ hend => hplugging _ hend.1) fun _ _ hend => hplugging _ hend.1

theorem ends_revert_plugVip_agree {run : Run Deployment}
    (hs : run.state.substrate.AttachmentsAgree) (loadBalancerId amphoraId subnetId : String)
    (plugged : Amphora) :
    Effect.Ends ((plugVip loadBalancerId amphoraId subnetId).revert plugged) run
      fun _ run' => run'.state.substrate.AttachmentsAgree := by
  have hunplug : KeepsAttachments run (unplugFrom loadBalancerId subnetId amphoraId plugged) := by
    refine .bind (.of_repository _) fun _ run₁ => .bind (.of_repository _) fun amphora run₂ => ?_
    refine .bind (.of_call (lasting_attachmentsAgree.of_heard (ends_getSubnet subnetId _)))
      fun _ run₃ => ?_
    refine .bind (.of_repository _) fun _ run₄ => .of_call ?_
    exact lasting_attachmentsAgree.unplugAapPort amphora
  refine Effect.ends_settle (hunplug hs) (fun _ _ h => Effect.ends_pure h) fun _ _ h => ?_
  exact effect_ends_record_last h

/-- Ports and instances agree after the step as they did before. -/
theorem keepsAttachments_applyDelta (amphoraId : String) (delta : Delta) (run : Run Deployment) :
    KeepsAttachments run (applyDelta amphoraId delta).execute :=
  .bind (.of_repository _) fun amphora run₁ =>
    .bind (delta.keepsAttachments_apply amphora run₁) fun _ _ h => ends_pure h

end Step

namespace Move

/-- Whatever else a move does to the attachments, it keeps them in step. -/
theorem plugging_leaves {run : Run Deployment} (hs : run.state.substrate.AttachmentsAgree)
    (m : Move) : Plugging (m.Plugs run) run.state.substrate (m.leaves run) := by
  cases m with
  | command asked => exact plugging_leaves_command hs asked
  | injectFault op times e =>
    have hsame : (run.state.substrate.injectFault op times e).AttachmentsAgree := by
      unfold Substrate.injectFault
      split
      · exact hs
      · exact hs.of_eq rfl (fun _ => rfl) (Nat.le_refl _)
    exact .unasked (fun _ _ h => h) hsame
  | plugPorts amphoraId ports =>
    exact Ends.state (p := fun run' : Run Deployment => Plugging _ _ run'.state.substrate)
      (Step.ends_plugPorts_plugging amphoraId ports run)
  | plugVip loadBalancerId amphoraId subnetId =>
    exact Ends.state (p := fun run' : Run Deployment => Plugging _ _ run'.state.substrate)
      (Ends.drop (Step.ends_plugVip_plugging hs loadBalancerId amphoraId subnetId))
  | takeBackVip loadBalancerId amphoraId subnetId plugged =>
    refine .unasked (fun _ _ h => h) ?_
    have hend := (Step.ends_revert_plugVip_agree hs loadBalancerId amphoraId subnetId plugged).state
    exact hend
  | applyDelta amphoraId delta =>
    refine .unasked (fun _ _ h => h) ?_
    exact Ends.state (p := fun run' : Run Deployment => run'.state.substrate.AttachmentsAgree)
      (Ends.drop (Step.keepsAttachments_applyDelta amphoraId delta run hs))
  | takeBackDelta amphoraId delta changed =>
    refine .unasked (fun _ _ h => h) ?_
    have hend := (delta.ends_unwind_agree ((changed.get? amphoraId).getD []) hs).state
    exact hend

/-- The substrate has been reached by moves none of which seized a port. What else changes between
two moves, such as the records of the repository, does not matter. -/
inductive Reached (s : Substrate) : Substrate → Prop where
  | start : Reached s s
  | move {run : Run Deployment} (h : Reached s run.state.substrate) (m : Move)
      (hm : ¬ m.Seizes run) : Reached s (m.leaves run)

/-- What one move keeps. -/
theorem agree_leaves_iff {run : Run Deployment} (hs : run.state.substrate.AttachmentsAgree)
    (m : Move) : (m.leaves run).AttachmentsAgree ↔ ¬ m.Seizes run :=
  (plugging_leaves hs m).agree_iff hs

/-- What a history keeps. -/
theorem Reached.agree {s t : Substrate} (h : Reached s t) (hs : s.AttachmentsAgree) :
    t.AttachmentsAgree := by
  induction h with
  | start => exact hs
  | move _ m hm ih => exact (agree_leaves_iff ih m).mpr hm

/-- As long as no port is seized, each is listed by the instance that it names and by no other; and
the move that seizes one leaves it listed by two instances. -/
theorem plugged_once_unless_seized {s : Substrate} (hs : s.AttachmentsAgree) :
    (∀ t, Reached s t → t.Exclusive ∧ ∀ id p, t.ports.get? id = some p →
      ∀ c, p.deviceId = some c ↔ id ∈ t.pluggedPortIds c) ∧
    ∀ (run : Run Deployment) (m : Move), Reached s run.state.substrate → m.Seizes run →
      ¬ (m.leaves run).Exclusive := by
  refine ⟨fun t h => ?_, fun run m h hseizes => ?_⟩
  · have ht := h.agree hs
    exact ⟨ht.exclusive, fun id p hp => ht.device hp⟩
  · exact (plugging_leaves (h.agree hs) m).not_exclusive hseizes

end Move

namespace Sample

/-- The networks of the sample deployment and its two instances, without any port. -/
def hosting : Substrate :=
  ((subnets.foldl Substrate.addSubnet {}).addInstance "vm-1").addInstance "vm-2"

theorem pluggedPortIds_hosting (c : String) : hosting.pluggedPortIds c = [] := by
  rw [hosting, pluggedPortIds_addInstance, pluggedPortIds_addInstance]
  rfl

theorem hosting_agree : hosting.AttachmentsAgree :=
  .of_portless rfl pluggedPortIds_hosting

def spareRequest : PortRequest := { networkId := "vip-net", name := "spare" }

/-- The port that is the first to be made. -/
def spare : Port where
  id := drawnId 1
  name := "spare"
  networkId := "vip-net"
  fixedIps := [{ subnetId := "vip-subnet", ipAddress := some (.v4 0x0a000002) }]

end Sample

namespace Move

/-- The port is plugged into one instance, and then seized for the other one. -/
theorem plugged_once_unless_seized_spare :
    let made := (command (.createPort Sample.spareRequest)).leaves (Sample.startPair Sample.hosting)
    let plugged := (plugPorts "amp-1" [Sample.spare]).leaves (Sample.startPair made)
    let seized := (plugPorts "amp-2" [Sample.spare]).leaves (Sample.startPair plugged)
    plugged.Exclusive ∧ plugged.pluggedPortIds "vm-1" = [drawnId 1] ∧
      (∀ c, some "vm-1" = some c ↔ drawnId 1 ∈ plugged.pluggedPortIds c) ∧ ¬ seized.Exclusive := by
  intro made plugged seized
  have hbegin : Reached Sample.hosting (Sample.startPair Sample.hosting).state.substrate := .start
  have hmade : Reached Sample.hosting (Sample.startPair made).state.substrate := by
    refine hbegin.move _ fun h => ?_
    obtain ⟨c, c', id, hplugs, -⟩ := h
    cases hplugs
  have hnone : ∀ c, made.pluggedPortIds c = [] := by
    have hentries : made.plugged.entries = Sample.hosting.plugged.entries := by decide +kernel
    intro c
    rw [← Sample.pluggedPortIds_hosting c, pluggedPortIds, pluggedPortIds, IdMap.get?, hentries]
    rfl
  have hplugged : Reached Sample.hosting (Sample.startPair plugged).state.substrate := by
    refine hmade.move _ fun h => ?_
    obtain ⟨c, c', id, -, -, hlisted, -⟩ := h
    rw [Sample.startPair_substrate, hnone] at hlisted
    cases hlisted
  obtain ⟨hkept, hlost⟩ := plugged_once_unless_seized Sample.hosting_agree
  obtain ⟨hexclusive, hdevice⟩ := hkept plugged hplugged
  have hport : plugged.ports.get? (drawnId 1) =
      some { Sample.spare with deviceId := some "vm-1" } := by
    decide +kernel
  refine ⟨hexclusive, by decide +kernel, hdevice (drawnId 1) _ hport, ?_⟩
  refine hlost (Sample.startPair plugged) (plugPorts "amp-2" [Sample.spare]) hplugged ?_
  refine ⟨"vm-2", "vm-1", drawnId 1, ⟨Sample.amphora "amp-2" "vm-2", by decide +kernel, rfl,
    Sample.spare, List.mem_singleton_self _, rfl⟩, by decide, ?_, ?_⟩
  · decide +kernel
  · decide +kernel

/-- An instance lists the port, and so does another one, into which it was plugged afterwards; the
port names only that one. -/
theorem port_plugged_twice : Sample.hosting.AttachmentsAgree ∧
    let t := Sample.hosting.after
      [.command (.createPort Sample.spareRequest),
       .command (.plugPort (Sample.amphora "amp-1" "vm-1") Sample.spare),
       .command (.plugPort (Sample.amphora "amp-2" "vm-2") Sample.spare)]
    drawnId 1 ∈ t.pluggedPortIds "vm-1" ∧ drawnId 1 ∈ t.pluggedPortIds "vm-2" ∧
      (t.ports.get? (drawnId 1)).map (·.deviceId) = some (some "vm-2") :=
  ⟨Sample.hosting_agree, by decide +kernel⟩

end Move

end AmphoraWiring
