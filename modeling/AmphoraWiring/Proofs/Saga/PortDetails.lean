import AmphoraWiring.Proofs.Saga.NicChanges

/-!
The port that a change counts, field by field. It is the port as the substrate answered it, with
its network and the subnets of its addresses filled in. For a new interface that is the port as it
was made, before it was plugged in; for a subnet it is the port as the change left it.
-/
namespace AmphoraWiring

open Action Deployment

namespace Substrate

/-- `q` tells of the port `p` in full: its network and the subnets of its addresses are
filled in. -/
structure Details (s : Substrate) (p q : Port) : Prop where
  filled : q = { p with
    fixedIps := p.fixedIps.map fun ip => { ip with subnet := s.subnets.get? ip.subnetId }
    network := s.networks.get? p.networkId }
  network : q.network.isSome
  subnets : ∀ ip ∈ q.fixedIps, ip.subnet.isSome

variable {s t : Substrate} {p q : Port}

namespace Details

theorem id (h : s.Details p q) : q.id = p.id := by
  rw [h.filled]

theorem networkId (h : s.Details p q) : q.networkId = p.networkId := by
  rw [h.filled]

theorem subnetIds (h : s.Details p q) :
    q.fixedIps.map (·.subnetId) = p.fixedIps.map (·.subnetId) := by
  rw [h.filled]
  simp [Function.comp_def]

theorem later (h : s.Details p q) (hsame : s.SameNetworks t) : t.Details p q := by
  refine ⟨?_, h.network, h.subnets⟩
  rw [hsame.networks, hsame.subnets]
  exact h.filled

end Details

end Substrate

namespace Deployment

/-- The subnet of an address is filled in as it is registered. -/
theorem ends_fillFixedIp_details (ip : FixedIp) (run : Run Deployment) :
    Action.Ends (fillFixedIp ip) run
      (fun q run' => run.state.Heard run'.state ∧ q.subnet.isSome ∧
        q = { ip with subnet := run.state.substrate.subnets.get? ip.subnetId })
      fun _ _ => True := by
  refine (ends_onSubstrate (Substrate.ends_getSubnet ip.subnetId _)).bind ?_ (fun _ _ _ => trivial)
  intro subnet run' hend
  obtain ⟨⟨h, hsubnet⟩, hrest⟩ := hend
  exact ends_pure ⟨⟨h, hrest⟩, rfl, by rw [hsubnet]⟩

theorem ends_fillFixedIps_details (ips : List FixedIp) (run : Run Deployment) :
    Action.Ends (ips.mapM fillFixedIp) run
      (fun qs run' => run.state.Heard run'.state ∧ (∀ q ∈ qs, q.subnet.isSome) ∧
        qs = ips.map fun ip => { ip with subnet := run.state.substrate.subnets.get? ip.subnetId })
      fun _ _ => True := by
  induction ips generalizing run with
  | nil => exact ends_pure ⟨⟨.refl _, rfl, rfl⟩, by simp, rfl⟩
  | cons ip ips ih =>
    rw [List.mapM_cons]
    refine (ends_fillFixedIp_details ip run).bind ?_ (fun _ _ _ => trivial)
    intro q run' hend
    obtain ⟨h, hq, rfl⟩ := hend
    refine (ih run').bind ?_ (fun _ _ _ => trivial)
    intro qs run'' hend
    obtain ⟨h', hqs, rfl⟩ := hend
    refine ends_pure ⟨h.trans h', List.forall_mem_cons.mpr ⟨hq, hqs⟩, ?_⟩
    rw [List.map_cons, h.1.subnets]

/-- A port is given back with its details. -/
theorem ends_fillPort_details (p : Port) (run : Run Deployment) :
    Action.Ends (fillPort p) run
      (fun q run' => run.state.Heard run'.state ∧ run'.state.substrate.Details p q)
      fun _ _ => True := by
  refine (ends_onSubstrate (Substrate.ends_getNetwork p.networkId _)).bind ?_
    (fun _ _ _ => trivial)
  intro network run' hend
  obtain ⟨⟨h, hnetwork⟩, hrest⟩ := hend
  refine (ends_fillFixedIps_details p.fixedIps run').bind ?_ (fun _ _ _ => trivial)
  intro ips run'' hend
  obtain ⟨h', hips, rfl⟩ := hend
  have hdetails : run.state.substrate.Details p { p with
      network := some network
      fixedIps := p.fixedIps.map fun ip =>
        { ip with subnet := run'.state.substrate.subnets.get? ip.subnetId } } := by
    refine ⟨?_, rfl, hips⟩
    rw [hnetwork, h.subnets]
  exact ends_pure ⟨.trans ⟨h, hrest⟩ h', hdetails.later (h.trans h'.1).sameNetworks⟩

end Deployment

namespace Substrate

/-- A port that was made on request belongs to no instance yet. -/
theorem ends_newPort_unplugged (request : PortRequest) (s : Substrate) :
    (newPort request).Ends s (fun p _ => p.deviceId = none) fun _ _ => True := by
  refine ends_get ((ends_orFail _ _ s).bind ?_ (fun _ _ _ => trivial))
  intro network t hend
  refine (ends_resolveFixedIps request.networkId _ t).bind ?_ (fun _ _ _ => trivial)
  intro ips u hend
  refine (ends_drawId u).bind ?_ (fun _ _ _ => trivial)
  exact fun id v _ => ends_modify (ends_pure rfl)

/-- A port that was just made is on no instance. -/
theorem ends_createPort_unplugged (request : PortRequest) (s : Substrate) :
    (createPort request).Ends s (fun p _ => p.deviceId = none) fun _ _ => True :=
  ends_call (fun _ _ _ _ _ => trivial) fun t _ _ => ends_newPort_unplugged request t

end Substrate

namespace Delta

open Substrate

theorem ends_createMemberPort_unplugged (amphora : Amphora) (nic : Interface)
    (run : Run Deployment) :
    Action.Ends (createMemberPort amphora nic) run (fun p _ => p.deviceId = none)
      fun _ _ => True :=
  Flow.ends_outcome
    (ends_onSubstrate (ends_createPort_unplugged (portRequest amphora nic) _))
    (fun _ _ h => ends_pure h.1) fun _ _ _ => ends_throw trivial

/-- A new interface is counted with its port as it was made, and that is plugged in since. -/
theorem ends_addNic_details (amphora : Amphora) (changed : ChangedPorts) (nic : Interface)
    (run : Run Deployment) : Action.Ends (addNic amphora changed nic) run
      (fun changed' run' => ∃ c p q,
        run.state.substrate.Adopts run'.state.substrate (portRequest amphora nic) c p ∧
        p.deviceId = none ∧ run'.state.substrate.Details p q ∧
        changed' = changed.insert nic.networkId q)
      fun _ _ => True := by
  refine ((ends_createMemberPort amphora nic run).and
    (ends_createMemberPort_unplugged amphora nic run)).bind ?_ (fun _ _ _ => trivial)
  intro p run₁ hend
  obtain ⟨⟨⟨u, hserving, hcreated, hadded⟩, -⟩, hnone⟩ := hend
  refine (ends_plugNewPort amphora p nic.networkId run₁).bind ?_ (fun _ _ _ => trivial)
  intro a run₂ hend
  obtain ⟨⟨c, -, -, hattached⟩, -⟩ := hend
  have hadopts : run.state.substrate.Adopts run₂.state.substrate (portRequest amphora nic) c p :=
    ⟨hcreated, u, hserving, (hadded.attach c p.id).trans hattached⟩
  apply ends_record
  refine (ends_onRepository (Repository.ends_createMemberPort _ _)).bind ?_ (fun _ _ _ => trivial)
  intro a run₃ hend
  obtain ⟨-, hsubstrate, -⟩ := hend
  apply ends_record
  refine (ends_fillPort_details p _).bind ?_ (fun _ _ _ => trivial)
  intro q run₄ hend
  obtain ⟨⟨hheard, -⟩, hdetails⟩ := hend
  have hadopts₃ : run.state.substrate.Adopts run₃.state.substrate (portRequest amphora nic) c p :=
    hsubstrate ▸ hadopts
  refine ends_pure ⟨c, p, q, hadopts₃.heard hheard, hnone, hdetails, ?_⟩
  rw [hdetails.networkId, hcreated.network]
  rfl

/-- A subnet is counted with its port as the addition left it, unless that was there already. -/
theorem ends_addSubnet_details (changed : ChangedPorts) (change : SubnetChange)
    (run : Run Deployment) : Action.Ends (addSubnet changed change) run
      (fun changed' run' =>
        (∃ q, changed.get? change.networkId = some q ∧ q.hasSubnet change.subnetId ∧
          changed' = changed ∧ run'.state = run.state) ∨
        ∃ id p ips q, change.target changed = some id ∧
          run.state.substrate.Gains run'.state.substrate id change.subnetId p ips ∧
          run'.state.substrate.Details (p.addIps ips) q ∧
          changed' = changed.insert change.networkId q ∧
          ∀ q, changed.get? change.networkId = some q → ¬ q.hasSubnet change.subnetId)
      fun _ _ => True := by
  refine (ends_orFail _ (change.target changed) run).bind ?_ (fun _ _ _ => trivial)
  intro id run' hend
  obtain ⟨rfl, htarget⟩ := hend
  cases hpresent : (changed.get? change.networkId).any fun p => p.hasSubnet change.subnetId with
  | true =>
    obtain ⟨q, hq, hsubnet⟩ := Option.any_eq_true _ _ |>.mp hpresent
    simp only [if_true]
    exact ends_pure (.inl ⟨q, hq, hsubnet, rfl, rfl⟩)
  | false =>
    have habsent : ∀ q, changed.get? change.networkId = some q →
        ¬ q.hasSubnet change.subnetId := by
      intro q hq hsubnet
      simp [hq, hsubnet] at hpresent
    simp only [Bool.false_eq_true, if_false]
    refine (ends_onSubstrate (Substrate.ends_plugFixedIp id change.subnetId _)).bind ?_
      (fun _ _ _ => trivial)
    intro q t hend
    obtain ⟨⟨p, ips, hgains, rfl⟩, -⟩ := hend
    refine (ends_fillPort_details (p.addIps ips) t).bind ?_ (fun _ _ _ => trivial)
    intro q u hend
    obtain ⟨⟨hheard, -⟩, hdetails⟩ := hend
    exact ends_pure (.inr ⟨id, p, ips, q, htarget, hgains.heard hheard, hdetails, rfl, habsent⟩)

/-- A removed subnet is counted with its port as the removal left it, unless the port keeps it. -/
theorem ends_deleteSubnet_details (changed : ChangedPorts) (change : SubnetChange) {id : String}
    (hport : change.portId = some id) (run : Run Deployment) :
    Action.Ends (deleteSubnet changed change) run
      (fun changed' run' => ∃ p q,
        run.state.substrate.Loses run'.state.substrate id change.subnetId p ∧
        run'.state.substrate.Details
          (p.release change.subnetId (run.state.substrate.keepsAddresses change.subnetId)) q ∧
        changed' = if q.hasSubnet change.subnetId then changed
          else changed.insert change.networkId q)
      fun _ _ => True := by
  unfold deleteSubnet
  rw [hport]
  refine (ends_onSubstrate (Substrate.ends_unplugFixedIp id change.subnetId _)).bind ?_
    (fun _ _ _ => trivial)
  intro q t hend
  obtain ⟨⟨p, hloses, rfl⟩, -⟩ := hend
  refine (ends_fillPort_details _ t).bind ?_ (fun _ _ _ => trivial)
  intro q u hend
  obtain ⟨⟨hheard, -⟩, hdetails⟩ := hend
  exact ends_pure ⟨p, q, hloses.heard hheard, hdetails, rfl⟩

end Delta

end AmphoraWiring
