import AmphoraWiring.Proofs.Retrying
import AmphoraWiring.Proofs.Saga.NicChanges
import AmphoraWiring.Proofs.Seeding
import AmphoraWiring.Proofs.Substrate.VirtualAddresses
import AmphoraWiring.Saga.BasePort

/-!
One base port is made, however many attempts it takes. An attempt that fails has stored nothing and
drawn no id, so the next one begins where it began, and only the attempt that succeeds stores a
port; the repetition may also end because an attempt failed for good, because the attempts are
spent, or because a wait was cut short, and then there is none. Taking the port back removes it
alone, and where that fails the port stays behind and the audit trail names it.
-/
namespace AmphoraWiring

open Action

namespace Substrate

variable {s t u : Substrate} {request : PortRequest} {wish : FixedIp} {p : Port}

/-- No port was made or changed, and the next id is the one that was next before. -/
structure Unmade (s t : Substrate) : Prop where
  ports : t.ports = s.ports
  drawn : t.drawn = s.drawn

theorem Heard.unmade (h : s.Heard t) : s.Unmade t := ⟨h.ports, h.drawn⟩

/-- One port was made, under the next id, and no other was changed. -/
structure MadeOne (s t : Substrate) (request : PortRequest) (p : Port) : Prop where
  port : ∃ ip, p = request.port (drawnId (s.drawn + 1)) [ip]
  ports : t.ports = s.ports.insert p.id p

theorem Unmade.madeOne (h : s.Unmade t) (h' : t.MadeOne u request p) :
    s.MadeOne u request p :=
  ⟨h.drawn ▸ h'.port, h.ports ▸ h'.ports⟩

theorem Unmade.trans (h : s.Unmade t) (h' : t.Unmade u) : s.Unmade u :=
  ⟨h'.ports.trans h.ports, h'.drawn.trans h.drawn⟩

theorem MadeOne.id (h : s.MadeOne t request p) : p.id = drawnId (s.drawn + 1) := by
  obtain ⟨⟨ip, rfl⟩, -⟩ := h
  rfl

/-- One attempt. -/
theorem ends_createPort_single (hasked : request.fixedIps = [wish]) (s : Substrate) :
    (createPort request).Ends s (fun p t => s.MadeOne t request p) fun _ t => s.Unmade t := by
  refine ends_call (fun e t h _ _ => h.unmade) fun t h _ => ?_
  apply (ends_newPort_single hasked t).mono
  · intro p u hend
    obtain ⟨-, v, ip, ⟨m, rfl, -⟩, -, hp, rfl⟩ := hend
    exact h.unmade.madeOne ⟨⟨ip, hp⟩, rfl⟩
  · intro e u hend
    obtain ⟨⟨m, rfl, -⟩, -⟩ := hend
    exact h.unmade.trans ⟨rfl, rfl⟩

end Substrate

namespace Step

open Deployment Substrate

variable {run : Run Deployment} {request : PortRequest} {wish : FixedIp} {p : Port}

/-- However many attempts there are and however they end. -/
theorem ends_createBasePort_made (policy : RetryPolicy) (amphoraId : String)
    (hasked : request.fixedIps = [wish]) (run : Run Deployment) :
    Action.Ends (createBasePort policy amphoraId request) run
      (fun p run' => run.state.substrate.MadeOne run'.state.substrate request p)
      fun _ run' => run.state.substrate.Unmade run'.state.substrate := by
  -- an attempt that fails leaves everything to the next one
  refine (Flow.ends_retry (fun d => run.state.substrate.Unmade d.substrate)
    (fun d => run.state.substrate.Unmade d.substrate)
    (fun p d => run.state.substrate.MadeOne d.substrate request p) ?_ (fun _ h => h)
    ⟨rfl, rfl⟩).bind ?_ (fun _ _ h => h)
  · intro n run₁ hunmade
    apply (ends_onSubstrate (ends_createPort_single hasked _)).mono
    · exact fun p run' hend => Unmade.madeOne hunmade hend.1
    · exact fun e run' hend => Unmade.trans hunmade hend.1
  · exact fun p run' hend => ends_record (ends_pure hend)

/-- Whether the port is deleted depends only on the failure that is due. -/
theorem ends_deleteBasePort_due (p : Port) (run : Run Deployment) :
    Effect.Ends (deleteBasePort p) run fun _ run' =>
      match (run.state.substrate.failuresDue .deletePort).head? with
      | none => run'.state.substrate.ports = run.state.substrate.ports.erase p.id ∧
          run'.state.audit.events = run.state.audit.events ++
            [⟨.info, run.state.audit.component, "Port deleted", [p.id]⟩]
      | some _ => run'.state.substrate.ports = run.state.substrate.ports ∧
          ∃ event, run'.state.audit.events = run.state.audit.events ++ [event] ∧
            AuditLog.LeakReported { events := [event] } p.id := by
  refine Effect.ends_settle (ends_onSubstrate (ends_deletePort_issues p.id _)) ?_ ?_
  · intro _ run' hend
    obtain ⟨⟨-, hheard, hundue⟩, -, haudit⟩ := hend
    rw [hundue]
    refine effect_ends_record_last ⟨hheard.ports, ?_⟩
    rw [haudit]
    rfl
  · intro e run' hend
    obtain ⟨⟨-, hheard, hdue⟩, -, haudit⟩ := hend
    rw [hdue]
    have hleak : AuditLog.LeakReported { events := [⟨.error, run.state.audit.component,
      "port" ++ " left in use after failed revert: " ++ e.message, [p.id]⟩] } p.id :=
      ⟨_, "port", e.message, .head _⟩
    refine effect_ends_record_last ⟨hheard.ports, _, ?_, hleak⟩
    rw [haudit]
    rfl

/-- The step makes one port, which is as it was asked for, or it fails and there is none. Reverting
it takes that port away again, whatever has happened in the meantime that left the ports alone;
where that fails, the port is all that is left, and one event reports it. -/
structure MakesOnePort (step : Step Port) (run : Run Deployment) (asked : Port → Prop) : Prop where
  made : ∀ p run', step.execute.runOn run = (.ok p, run') →
    asked p ∧ run.state.substrate.ports.get? p.id = none ∧
      run'.state.substrate.ports = run.state.substrate.ports.insert p.id p
  failed : ∀ e run', step.execute.runOn run = (.error e, run') →
    run'.state.substrate.ports = run.state.substrate.ports
  reverted : ∀ p run' later, step.execute.runOn run = (.ok p, run') →
    later.state.substrate.ports = run'.state.substrate.ports →
    later.state.substrate.failuresDue .deletePort = [] →
      ((step.revert p).run later).2.state.substrate.ports = run.state.substrate.ports ∧
      ((step.revert p).run later).2.state.audit.events = later.state.audit.events ++
        [⟨.info, later.state.audit.component, "Port deleted", [p.id]⟩]
  leaked : ∀ p run' later e, step.execute.runOn run = (.ok p, run') →
    later.state.substrate.ports = run'.state.substrate.ports →
    (later.state.substrate.failuresDue .deletePort).head? = some e →
      ((step.revert p).run later).2.state.substrate.ports =
        run.state.substrate.ports.insert p.id p ∧
      ∃ event, ((step.revert p).run later).2.state.audit.events =
          later.state.audit.events ++ [event] ∧
        AuditLog.LeakReported { events := [event] } p.id

/-- It is enough to know how the execution ends. -/
theorem makesOnePort_of_ends {step : Step Port} {asked : Port → Prop}
    (hrevert : step.revert = deleteBasePort)
    (hnew : run.state.substrate.ports.get? (drawnId (run.state.substrate.drawn + 1)) = none)
    (h : step.execute.Ends run
      (fun p run' => asked p ∧
        ∃ request, run.state.substrate.MadeOne run'.state.substrate request p)
      fun _ run' => run'.state.substrate.ports = run.state.substrate.ports) :
    step.MakesOnePort run asked := by
  have hmade : ∀ p run', step.execute.runOn run = (.ok p, run') →
      asked p ∧ run.state.substrate.ports.get? p.id = none ∧
        run'.state.substrate.ports = run.state.substrate.ports.insert p.id p := by
    intro p run' hrun
    obtain ⟨hasked, request, hone⟩ := h.of_ok hrun
    exact ⟨hasked, hone.id ▸ hnew, hone.ports⟩
  refine ⟨hmade, fun e run' hrun => h.of_error hrun, ?_, ?_⟩
  · intro p run' later hrun hsame hundue
    obtain ⟨-, hp, hports⟩ := hmade p run' hrun
    have hend := (ends_deleteBasePort_due p later).state
    rw [hundue, hsame, hports, IdMap.erase_insert, IdMap.erase_of_get?_eq_none hp] at hend
    rw [hrevert]
    exact hend
  · intro p run' later e hrun hsame hdue
    obtain ⟨-, -, hports⟩ := hmade p run' hrun
    have hend := (ends_deleteBasePort_due p later).state
    rw [hdue, hsame, hports] at hend
    rw [hrevert]
    exact hend

/-- Both steps that make the base port of an amphora make one port or none, for every script of
failures, every policy and every context. The port has the name of the amphora's base port and
passes the virtual address and the additional ones that there are. -/
theorem base_port_made_once (policy : RetryPolicy) (vip : Vip) (groupId : Option String)
    (amphoraId : String) (additionalVips : List AdditionalVip) (loadBalancerId : String)
    (subnet : Subnet) (run : Run Deployment)
    (hnew : run.state.substrate.ports.get? (drawnId (run.state.substrate.drawn + 1)) = none) :
    (createVipBasePort policy vip groupId amphoraId additionalVips).MakesOnePort run
      (fun p => p.name = basePortName amphoraId ∧
        p.allowedAddressPairs.Perm
          (vip.ipAddress.toList ++ additionalVips.filterMap fun extra => extra.ipAddress)) ∧
    (createDirectBasePort policy loadBalancerId amphoraId subnet).MakesOnePort run
      fun p => p.name = basePortName amphoraId ∧
        ∃ lb, run.state.repository.loadBalancers.get? loadBalancerId = some lb ∧
          p.allowedAddressPairs.Perm
            (lb.vip.ipAddress.toList ++
              lb.additionalVips.filterMap fun extra => extra.ipAddress) := by
  refine ⟨makesOnePort_of_ends rfl hnew ?_, makesOnePort_of_ends rfl hnew ?_⟩
  · apply (ends_createBasePort_made policy amphoraId rfl run).mono
    · intro p run' hone
      refine ⟨?_, _, hone⟩
      obtain ⟨⟨ip, rfl⟩, -⟩ := hone
      exact ⟨rfl, .refl _⟩
    · exact fun e run' hunmade => hunmade.ports
  · refine (ends_onRepository (Repository.ends_getLoadBalancer loadBalancerId _)).bind ?_ ?_
    · intro lb run₁ hend
      obtain ⟨⟨-, stored, hstored, rfl⟩, hsubstrate, -⟩ := hend
      apply (ends_createBasePort_made policy amphoraId rfl run₁).mono
      · intro p run' hone
        rw [hsubstrate] at hone
        refine ⟨?_, _, hone⟩
        obtain ⟨⟨ip, rfl⟩, -⟩ := hone
        exact ⟨rfl, stored, hstored, List.perm_append_comm⟩
      · exact fun e run' hunmade => hunmade.ports.trans (congrArg _ hsubstrate)
    · exact fun e run' hend => congrArg _ hend.2.1

/-- A load balancer with three virtual addresses; a fourth has not been given one. -/
def threeAddresses : LoadBalancer :=
  { Sample.loadBalancer [Sample.amphora "amp-1" "vm-1"] with
    vip :=
      { subnetId := "vip-subnet", networkId := "vip-net", ipAddress := some (.v4 0x0A00000A) }
    additionalVips :=
      [{ subnetId := "vip-subnet", ipAddress := some (.v4 0x0A00000B) },
       { subnetId := "vip-subnet" },
       { subnetId := "subnet-b", ipAddress := some (.v4 0x0A00010C) }] }

/-- The first two attempts to create a port are going to fail, and the first one to delete a port
as well. -/
def busy : Run Deployment where
  context := {}
  state :=
    { substrate := { Sample.substrate with
        faults := [⟨.createPort, .driver "busy", 2⟩, ⟨.deletePort, .driver "busy", 1⟩] }
      repository := Repository.store {} threeAddresses }

/-- The third attempt makes the port, which stays behind when the step is reverted. -/
theorem base_port_made_once_sample :
    let policy : RetryPolicy := ⟨3, .finite false 1 0, 1, 4⟩
    let steps : List (Step Port) :=
      [createVipBasePort policy threeAddresses.vip none "amp-1" threeAddresses.additionalVips,
       createDirectBasePort policy "lb-1" "amp-1"
         (Sample.subnet "vip-subnet" "vip-net" "10.0.0.0/24")]
    ∀ step ∈ steps, ∃ p run' event, step.execute.runOn busy = (.ok p, run') ∧
      run'.state.substrate.ports = busy.state.substrate.ports.insert p.id p ∧
      p.allowedAddressPairs.Perm [.v4 0x0A00000A, .v4 0x0A00000B, .v4 0x0A00010C] ∧
      ((step.revert p).run run').2.state.substrate.ports =
        busy.state.substrate.ports.insert p.id p ∧
      ((step.revert p).run run').2.state.audit.events = run'.state.audit.events ++ [event] ∧
      AuditLog.LeakReported { events := [event] } p.id := by
  intro policy steps
  have hnew : busy.state.substrate.ports.get? (drawnId (busy.state.substrate.drawn + 1)) = none :=
    by decide +kernel
  obtain ⟨hvip, hdirect⟩ := base_port_made_once policy threeAddresses.vip none "amp-1"
    threeAddresses.additionalVips "lb-1" (Sample.subnet "vip-subnet" "vip-net" "10.0.0.0/24") busy
    hnew
  have hok : ∀ step ∈ steps, (step.execute.runOn busy).1.toOption.isSome := by decide +kernel
  have hdue : ∀ step ∈ steps,
      ((step.execute.runOn busy).2.state.substrate.failuresDue .deletePort).head? =
        some (.driver "busy") := by decide +kernel
  intro step hstep
  obtain ⟨p, run', hrun⟩ := exists_of_isSome _ _ (hok step hstep)
  have hfailing := hdue step hstep
  rw [hrun] at hfailing
  simp only [steps, List.mem_cons, List.not_mem_nil, or_false] at hstep
  rcases hstep with rfl | rfl
  · obtain ⟨⟨-, hpairs⟩, -, hports⟩ := hvip.made p run' hrun
    obtain ⟨hkept, event, hevents, hleak⟩ := hvip.leaked p run' run' _ hrun rfl hfailing
    exact ⟨p, run', event, hrun, hports, hpairs, hkept, hevents, hleak⟩
  · obtain ⟨⟨-, lb, hlb, hpairs⟩, -, hports⟩ := hdirect.made p run' hrun
    obtain ⟨hkept, event, hevents, hleak⟩ := hdirect.leaked p run' run' _ hrun rfl hfailing
    have hstored : busy.state.repository.loadBalancers.get? "lb-1" =
      some { threeAddresses with amphorae := [] } := rfl
    cases hstored.symm.trans hlb
    exact ⟨p, run', event, hrun, hports, hpairs, hkept, hevents, hleak⟩

end Step

end AmphoraWiring
