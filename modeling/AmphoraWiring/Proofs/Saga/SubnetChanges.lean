import AmphoraWiring.Proofs.Bookkeeping
import AmphoraWiring.Proofs.Substrate.Addresses
import AmphoraWiring.Saga.Convergence

/-!
How filling in the details of a port ends, and how adding or removing a subnet ends, whatever
failures are scripted: what it leaves in the substrate, and what it counts as changed. A change
that fails fails only if something that it needs is not there.
-/
namespace AmphoraWiring

open Action Deployment

/-- The records speak of the same subnets on the same port. -/
structure Port.Matches (p q : Port) : Prop where
  id : q.id = p.id
  networkId : q.networkId = p.networkId
  subnets : q.fixedIps.map (·.subnetId) = p.fixedIps.map (·.subnetId)

/-- Ports that match are on the same subnets. -/
theorem Port.Matches.hasSubnet {p q : Port} (h : p.Matches q) (subnetId : String) :
    q.hasSubnet subnetId ↔ p.hasSubnet subnetId := by
  have hmem : ∀ p : Port, p.hasSubnet subnetId ↔ subnetId ∈ p.fixedIps.map (·.subnetId) := by
    intro p
    simp [Port.hasSubnet_iff]
  rw [hmem, hmem, h.subnets]

namespace Deployment

variable {d d' d'' : Deployment}

/-- Repository and audit trail are as they were. -/
def SameRecords (d d' : Deployment) : Prop :=
  d'.repository = d.repository ∧ d'.audit = d.audit

theorem SameRecords.trans (h : d.SameRecords d') (h' : d'.SameRecords d'') : d.SameRecords d'' :=
  ⟨h'.1.trans h.1, h'.2.trans h.2⟩

/-- The substrate has heard calls, and nothing else has changed. -/
def Heard (d d' : Deployment) : Prop := d.substrate.Heard d'.substrate ∧ d.SameRecords d'

theorem Heard.trans (h : d.Heard d') (h' : d'.Heard d'') : d.Heard d'' :=
  ⟨h.1.trans h'.1, h.2.trans h'.2⟩

/-- The details of the port can be filled in, unless a failure is scripted. -/
structure Fillable (s : Substrate) (p : Port) : Prop where
  network : ∃ network, s.networks.get? p.networkId = some network
  subnets : ∀ ip ∈ p.fixedIps, ∃ networkId, s.Registered ip.subnetId networkId

/-- Whether details can be filled in depends on the networks and subnets alone. -/
theorem Fillable.later {s t : Substrate} {p : Port} (hp : Fillable s p)
    (h : s.SameNetworks t) : Fillable t p := by
  constructor
  · rw [h.networks]
    exact hp.network
  · intro ip hip
    obtain ⟨n, hn⟩ := hp.subnets ip hip
    exact ⟨n, h.registered.mpr hn⟩

/-- A port that gains a subnet can still be filled in. -/
theorem Fillable.gained {s t : Substrate} {id subnetId : String} {p : Port} {ips : List FixedIp}
    (hp : Fillable s p) (h : s.Gains t id subnetId p ips) : Fillable t (p.addIps ips) := by
  apply Fillable.later _ h.sameNetworks
  refine ⟨hp.network, fun ip hip => ?_⟩
  rcases List.mem_append.mp hip with hip | hip
  · exact hp.subnets ip hip
  · obtain ⟨rfl, hnet⟩ := h.registered ip hip
    exact ⟨p.networkId, hnet⟩

/-- A port that loses a subnet can still be filled in. -/
theorem Fillable.released {s t : Substrate} {id subnetId : String} {p : Port}
    (hp : Fillable s p) (h : s.Loses t id subnetId p) :
    Fillable t (p.release subnetId (s.keepsAddresses subnetId)) := by
  apply Fillable.later _ h.sameNetworks
  refine ⟨?_, fun ip hip => hp.subnets ip (Port.mem_release hip)⟩
  rw [Port.release_networkId]
  exact hp.network

/-- Without faults the subnet of an address is read, unless it is not known. -/
theorem ends_fillFixedIp (ip : FixedIp) (run : Run Deployment) :
    Action.Ends (fillFixedIp ip) run
      (fun q run' => run.state.Heard run'.state ∧ q.subnetId = ip.subnetId)
      fun _ run' => run.state.Heard run'.state ∧ (run.state.substrate.faults = [] →
        ¬ ∃ networkId, run.state.substrate.Registered ip.subnetId networkId) := by
  refine (ends_onSubstrate (Substrate.ends_getSubnet ip.subnetId _)).bind ?_ ?_
  · intro subnet run' hend
    obtain ⟨⟨h, -⟩, hrest⟩ := hend
    exact ends_pure ⟨⟨h, hrest⟩, rfl⟩
  · intro e run' hend
    obtain ⟨⟨h, hwhy⟩, hrest⟩ := hend
    refine ⟨⟨h, hrest⟩, fun hnil hex => ?_⟩
    obtain ⟨n, subnet, hsubnet, -⟩ := hex
    simp [hwhy hnil] at hsubnet

theorem ends_fillFixedIps (ips : List FixedIp) (run : Run Deployment) :
    Action.Ends (ips.mapM fillFixedIp) run
      (fun qs run' => run.state.Heard run'.state ∧
        qs.map (·.subnetId) = ips.map (·.subnetId))
      fun _ run' => run.state.Heard run'.state ∧ (run.state.substrate.faults = [] →
        ¬ ∀ ip ∈ ips, ∃ networkId, run.state.substrate.Registered ip.subnetId networkId) := by
  induction ips generalizing run with
  | nil => exact ends_pure ⟨⟨.refl _, rfl, rfl⟩, rfl⟩
  | cons ip ips ih =>
    rw [List.mapM_cons]
    refine (ends_fillFixedIp ip run).bind ?_ ?_
    · intro q run' hend
      obtain ⟨h, hq⟩ := hend
      refine (ih run').bind ?_ ?_
      · intro qs run'' hend
        obtain ⟨h', hqs⟩ := hend
        exact ends_pure ⟨h.trans h', by simp [hq, hqs]⟩
      · intro e run'' hend
        obtain ⟨h', hwhy⟩ := hend
        refine ⟨h.trans h', fun hnil hall => hwhy (h.1.faults_nil hnil) fun ip' hip' => ?_⟩
        obtain ⟨n, subnet, hsubnet, hn⟩ := hall ip' (List.mem_cons_of_mem _ hip')
        exact ⟨n, subnet, h.1.subnets.symm ▸ hsubnet, hn⟩
    · intro e run' hend
      obtain ⟨h, hwhy⟩ := hend
      exact ⟨h, fun hnil hall => hwhy hnil (hall ip List.mem_cons_self)⟩

/-- Without faults the details of a port are filled in, unless its network or a subnet is
unknown. -/
theorem ends_fillPort (p : Port) (run : Run Deployment) :
    Action.Ends (fillPort p) run
      (fun q run' => run.state.Heard run'.state ∧ p.Matches q)
      fun _ run' => run.state.Heard run'.state ∧
        (run.state.substrate.faults = [] → ¬ Fillable run.state.substrate p) := by
  refine (ends_onSubstrate (Substrate.ends_getNetwork p.networkId _)).bind ?_ ?_
  · intro network run' hend
    obtain ⟨⟨h, -⟩, hrest⟩ := hend
    refine (ends_fillFixedIps p.fixedIps run').bind ?_ ?_
    · intro ips run'' hend
      obtain ⟨h', hips⟩ := hend
      exact ends_pure ⟨.trans ⟨h, hrest⟩ h', rfl, rfl, hips⟩
    · intro e run'' hend
      obtain ⟨h', hwhy⟩ := hend
      refine ⟨.trans ⟨h, hrest⟩ h', fun hnil hp => hwhy (h.faults_nil hnil) fun ip hip => ?_⟩
      obtain ⟨n, subnet, hsubnet, hn⟩ := hp.subnets ip hip
      exact ⟨n, subnet, h.subnets.symm ▸ hsubnet, hn⟩
  · intro e run' hend
    obtain ⟨⟨h, hwhy⟩, hrest⟩ := hend
    refine ⟨⟨h, hrest⟩, fun hnil hp => ?_⟩
    obtain ⟨network, hnetwork⟩ := hp.network
    simp [hwhy hnil] at hnetwork

end Deployment

/-- The port that gains an address: the one that the change names, or else the one that has been
changed on its network before. -/
def SubnetChange.target (change : SubnetChange) (changed : ChangedPorts) : Option String :=
  change.portId.or ((changed.get? change.networkId).map (·.id))

namespace Delta

/-- A subnet was added: its port had been created with it, or it has gained an address there. -/
inductive SubnetAdded (changed : ChangedPorts) (change : SubnetChange) (d : Deployment)
    (changed' : ChangedPorts) (d' : Deployment) : Prop where
  | present (q : Port) (hport : changed.get? change.networkId = some q)
      (hsubnet : q.hasSubnet change.subnetId) (hchanged : changed' = changed) (hstate : d' = d)
  | gained (id : String) (p : Port) (ips : List FixedIp) (q : Port)
      (htarget : change.target changed = some id)
      (hgains : d.substrate.Gains d'.substrate id change.subnetId p ips)
      (hmatches : (p.addIps ips).Matches q)
      (hchanged : changed' = changed.insert change.networkId q)
      (hrecords : d.SameRecords d')
      (habsent : ∀ q, changed.get? change.networkId = some q → ¬ q.hasSubnet change.subnetId)

/-- What is left when a subnet could not be added. -/
inductive SubnetNotAdded (changed : ChangedPorts) (change : SubnetChange) (d d' : Deployment) :
    Prop where
  | refused (u : Substrate) (hallocating : d.substrate.Allocating u [change.subnetId])
      (hheard : u.Heard d'.substrate) (hrecords : d.SameRecords d')
  | gained (id : String) (p : Port) (ips : List FixedIp)
      (htarget : change.target changed = some id)
      (hgains : d.substrate.Gains d'.substrate id change.subnetId p ips)
      (hrecords : d.SameRecords d')

/-- All that it takes to add a subnet, unless its port was created with it. -/
structure SubnetAddable (changed : ChangedPorts) (change : SubnetChange) (d : Deployment) :
    Prop where
  faults : d.substrate.faults = []
  target : ∃ id, change.target changed = some id
  port : (∀ q, changed.get? change.networkId = some q → ¬ q.hasSubnet change.subnetId) →
    ∀ id, change.target changed = some id → ∃ p, d.substrate.ports.get? id = some p ∧
      d.substrate.Available p.networkId change.subnetId 1 ∧ Fillable d.substrate p

/-- A port gains the subnet, or what is left is described and something was missing. -/
theorem ends_addSubnet (changed : ChangedPorts) (change : SubnetChange) (run : Run Deployment) :
    Action.Ends (addSubnet changed change) run
      (fun changed' run' => SubnetAdded changed change run.state changed' run'.state)
      fun _ run' => SubnetNotAdded changed change run.state run'.state ∧
        ¬ SubnetAddable changed change run.state := by
  refine (ends_orFail _ (change.target changed) run).bind ?_ ?_
  · intro id run' hend
    obtain ⟨rfl, htarget⟩ := hend
    cases hpresent : (changed.get? change.networkId).any fun p => p.hasSubnet change.subnetId with
    | true =>
      obtain ⟨q, hq, hsubnet⟩ := Option.any_eq_true _ _ |>.mp hpresent
      simp only [if_true]
      exact ends_pure (.present q hq hsubnet rfl rfl)
    | false =>
      have habsent : ∀ q, changed.get? change.networkId = some q →
          ¬ q.hasSubnet change.subnetId := by
        intro q hq hsubnet
        simp [hq, hsubnet] at hpresent
      simp only [Bool.false_eq_true, if_false]
      refine (ends_onSubstrate (Substrate.ends_plugFixedIp id change.subnetId _)).bind ?_ ?_
      · intro q t hend
        obtain ⟨⟨p, ips, hgains, rfl⟩, hrest⟩ := hend
        refine (ends_fillPort (p.addIps ips) t).bind ?_ ?_
        · intro q u hend
          obtain ⟨h, hmatches⟩ := hend
          exact ends_pure (.gained id p ips q htarget (hgains.heard h.1) hmatches rfl
            (.trans hrest h.2) habsent)
        · intro e u hend
          obtain ⟨h, hwhy⟩ := hend
          refine ⟨.gained id p ips htarget (hgains.heard h.1) (.trans hrest h.2),
            fun haddable => ?_⟩
          obtain ⟨p', hget, -, hfillable⟩ := haddable.port habsent id htarget
          rw [hgains.port] at hget
          cases hget
          exact hwhy (hgains.sameNetworks.faults_nil haddable.faults) (hfillable.gained hgains)
      · intro e t hend
        obtain ⟨⟨u, hallocating, hheard, hwhy⟩, hrest⟩ := hend
        refine ⟨.refused u hallocating hheard hrest, fun haddable => ?_⟩
        obtain ⟨p, hget, havailable, -⟩ := haddable.port habsent id htarget
        exact hwhy haddable.faults p hget havailable
  · intro e run' hend
    obtain ⟨rfl, hnone⟩ := hend
    refine ⟨.refused _ (.refl _ _) (.refl _) ⟨rfl, rfl⟩, fun haddable => ?_⟩
    obtain ⟨id, htarget⟩ := haddable.target
    simp [hnone] at htarget

/-- A subnet was removed: no port is named, or its port has lost the addresses there unless they
are kept. Only a port that has lost them counts as changed. -/
inductive SubnetDeleted (changed : ChangedPorts) (change : SubnetChange) (d : Deployment)
    (changed' : ChangedPorts) (d' : Deployment) : Prop where
  | unnamed (hport : change.portId = none) (hchanged : changed' = changed) (hstate : d' = d)
  | lost (id : String) (p q : Port) (hport : change.portId = some id)
      (hloses : d.substrate.Loses d'.substrate id change.subnetId p)
      (hmatches :
        (p.release change.subnetId (d.substrate.keepsAddresses change.subnetId)).Matches q)
      (hchanged : changed' = if q.hasSubnet change.subnetId then changed
        else changed.insert change.networkId q)
      (hrecords : d.SameRecords d')

/-- What is left when a subnet could not be removed. -/
inductive SubnetNotDeleted (change : SubnetChange) (d d' : Deployment) : Prop where
  | refused (hheard : d.Heard d')
  | lost (id : String) (p : Port) (hport : change.portId = some id)
      (hloses : d.substrate.Loses d'.substrate id change.subnetId p) (hrecords : d.SameRecords d')

/-- All that it takes to remove a subnet. -/
structure SubnetDeletable (change : SubnetChange) (d : Deployment) : Prop where
  faults : d.substrate.faults = []
  port : ∀ id, change.portId = some id →
    ∃ p, d.substrate.ports.get? id = some p ∧ Fillable d.substrate p

/-- A port loses the subnet, or what is left is described and something was missing. -/
theorem ends_deleteSubnet (changed : ChangedPorts) (change : SubnetChange) (run : Run Deployment) :
    Action.Ends (deleteSubnet changed change) run
      (fun changed' run' => SubnetDeleted changed change run.state changed' run'.state)
      fun _ run' => SubnetNotDeleted change run.state run'.state ∧
        ¬ SubnetDeletable change run.state := by
  unfold deleteSubnet
  cases hport : change.portId with
  | none => exact ends_pure (.unnamed hport rfl rfl)
  | some id =>
    refine (ends_onSubstrate (Substrate.ends_unplugFixedIp id change.subnetId _)).bind ?_ ?_
    · intro q t hend
      obtain ⟨⟨p, hloses, rfl⟩, hrest⟩ := hend
      refine (ends_fillPort _ t).bind ?_ ?_
      · intro q u hend
        obtain ⟨h, hmatches⟩ := hend
        exact ends_pure (.lost id p q hport (hloses.heard h.1) hmatches rfl (.trans hrest h.2))
      · intro e u hend
        obtain ⟨h, hwhy⟩ := hend
        refine ⟨.lost id p hport (hloses.heard h.1) (.trans hrest h.2), fun hdeletable => ?_⟩
        obtain ⟨p', hget, hfillable⟩ := hdeletable.port id hport
        rw [hloses.port] at hget
        cases hget
        exact hwhy (hloses.sameNetworks.faults_nil hdeletable.faults) (hfillable.released hloses)
    · intro e t hend
      obtain ⟨⟨h, hwhy⟩, hrest⟩ := hend
      refine ⟨.refused ⟨h, hrest⟩, fun hdeletable => ?_⟩
      obtain ⟨p, hget, -⟩ := hdeletable.port id hport
      simp [hwhy hdeletable.faults] at hget

end Delta

end AmphoraWiring
