import AmphoraWiring.Proofs.Delta.Entries
import AmphoraWiring.Proofs.Saga.NicChanges
import AmphoraWiring.Proofs.Seeding
import AmphoraWiring.Proofs.Substrate.Sparing

/-!
Which networks a delta is about, and what applying and reverting it spares. What is attached by the
management networks never enters a delta, but what is wanted does: a delta names a management
network exactly if the load balancer wants a subnet by it. Where it wants none, no instance gains
or loses a port on a management network, neither when the delta is applied nor when it is reverted.
-/
namespace AmphoraWiring

open Action Substrate

namespace Delta

variable {delta : Delta} {networks : List String} {s : Substrate} {changed : ChangedPorts}

/-- Some entry of the delta is about the network. -/
def Names (delta : Delta) (networkId : String) : Prop :=
  (∃ nic ∈ delta.addNics ++ delta.deleteNics, nic.networkId = networkId) ∨
    ∃ change ∈ delta.addSubnets ++ delta.deleteSubnets, change.networkId = networkId

instance (delta : Delta) (networkId : String) : Decidable (delta.Names networkId) :=
  inferInstanceAs (Decidable (_ ∨ _))

/-- New interfaces name no port, and every other entry names one on its own network if any. -/
structure Placed (delta : Delta) (s : Substrate) : Prop where
  added : ∀ nic ∈ delta.addNics, nic.portId = none
  deleted : ∀ nic ∈ delta.deleteNics, ∀ id, nic.portId = some id → s.OnlyOn id nic.networkId
  changed : ∀ change ∈ delta.addSubnets ++ delta.deleteSubnets, ∀ id, change.portId = some id →
    s.OnlyOn id change.networkId

theorem Placed.later {t : Substrate} (h : delta.Placed s) (hlater : s.Later t) :
    delta.Placed t :=
  ⟨h.added, fun nic hnic id hid => hlater.onlyOn (h.deleted nic hnic id hid),
    fun change hchange id hid => hlater.onlyOn (h.changed change hchange id hid)⟩

/-! Applying -/

/-- The networks have been spared since `s`, and changed ports are counted by their networks. -/
def SparingRun (networks : List String) (s : Substrate) (changed : ChangedPorts)
    (run : Run Deployment) : Prop :=
  Sparing networks s run.state.substrate ∧ ∀ networkId q, changed.get? networkId = some q →
    q.networkId = networkId ∧ run.state.substrate.OnlyOn q.id networkId

/-- A change that spares the networks keeps the run on its way. -/
theorem SparingRun.next {run run' : Run Deployment} (h : SparingRun networks s changed run)
    (hnext : Sparing networks run.state.substrate run'.state.substrate) :
    SparingRun networks s changed run' :=
  ⟨h.1.trans hnext, fun n q hq =>
    (h.2 n q hq).imp_right fun hon => hnext.later.onlyOn hon⟩

theorem SparingRun.insert {run : Run Deployment} (h : SparingRun networks s changed run)
    {networkId : String} {q : Port} (hnet : q.networkId = networkId)
    (hon : run.state.substrate.OnlyOn q.id networkId) :
    SparingRun networks s (changed.insert networkId q) run := by
  refine ⟨h.1, fun n q' hq' => ?_⟩
  rw [IdMap.get?_insert] at hq'
  split at hq'
  next heq =>
    cases hq'
    exact ⟨hnet.trans heq.symm, heq ▸ hon⟩
  next => exact h.2 n q' hq'

theorem SparingRun.erase {run : Run Deployment} (h : SparingRun networks s changed run)
    (networkId : String) : SparingRun networks s (changed.erase networkId) run := by
  refine ⟨h.1, fun n q' hq' => ?_⟩
  rw [IdMap.get?_erase] at hq'
  split at hq'
  next => cases hq'
  next => exact h.2 n q' hq'

section

variable {run : Run Deployment} {amphora : Amphora}

theorem ends_addNic_sparing {nic : Interface} (hnic : nic.networkId ∉ networks)
    (h : SparingRun networks s changed run) :
    Action.Ends (addNic amphora changed nic) run (SparingRun networks s)
      fun _ run' => Sparing networks s run'.state.substrate := by
  have hs := h.1.sound
  have hx := h.1.exclusive
  apply (ends_addNic amphora changed nic run).mono
  · intro changed' run' hend
    obtain ⟨c, p, q, hend⟩ := hend
    have hnext : Sparing networks run.state.substrate run'.state.substrate :=
      .of_adopts hs hx hend.adopts hnic
    have hget : run'.state.substrate.ports.get? p.id = some { p with deviceId := some c } := by
      rw [hend.adopts.get?, if_pos rfl]
    have hon := hnext.sound.onlyOn hget
    rw [hend.counted]
    refine (h.next hnext).insert rfl ?_
    rwa [hend.filled.id, hend.filled.networkId]
  · intro e run' hend
    obtain ⟨hend, -⟩ := hend
    refine h.1.trans ?_
    cases hend with
    | refused u hserving hheard hrecords =>
      have hu : Sparing networks run.state.substrate u := .of_serving hs hx hserving
      exact hu.trans (.of_samePorts hu.sound hu.exclusive hheard.samePorts)
    | discarded u p hserving hcreated hheard hrecords =>
      have hu : Sparing networks run.state.substrate ((u.addPort p).removePort p.id) :=
        .of_discarded hs hx hserving hcreated
      exact hu.trans (.of_samePorts hu.sound hu.exclusive hheard.samePorts)
    | leaked u p reason hserving hcreated hheard hrepository haudit =>
      have hu : Sparing networks run.state.substrate (u.addPort p) :=
        .of_created hs hx hserving hcreated
      exact hu.trans (.of_samePorts hu.sound hu.exclusive hheard.samePorts)
    | unrecorded c p hcompute hadopts hrepository hbound haudit =>
      exact .of_adopts hs hx hadopts hnic
    | unfilled c p hcompute hadopts hrepository haudit => exact .of_adopts hs hx hadopts hnic

theorem SparingRun.gained {t : Substrate} {id subnetId networkId : String} {p : Port}
    {ips : List FixedIp} (h : SparingRun networks s changed run)
    (hgains : run.state.substrate.Gains t id subnetId p ips)
    (hon : run.state.substrate.OnlyOn id networkId) (hspared : networkId ∉ networks) :
    Sparing networks run.state.substrate t :=
  .of_amended h.1.sound h.1.exclusive hgains.amended (hgains.sound h.1.sound) (fun _ => rfl) hon
    hspared

theorem ends_addSubnet_sparing {change : SubnetChange} (hchange : change.networkId ∉ networks)
    (hplaced : ∀ id, change.portId = some id → run.state.substrate.OnlyOn id change.networkId)
    (h : SparingRun networks s changed run) :
    Action.Ends (addSubnet changed change) run (SparingRun networks s)
      fun _ run' => Sparing networks s run'.state.substrate := by
  have htarget : ∀ id, change.target changed = some id →
      run.state.substrate.OnlyOn id change.networkId := by
    intro id hid
    rw [SubnetChange.target, Option.or_eq_some_iff] at hid
    rcases hid with hid | ⟨-, hid⟩
    · exact hplaced id hid
    · obtain ⟨q, hq, rfl⟩ := Option.map_eq_some_iff.mp hid
      exact (h.2 _ q hq).2
  apply (ends_addSubnet changed change run).mono
  · intro changed' run' hend
    cases hend with
    | present q hport hsubnet hchanged hstate =>
      have hnext : Sparing networks run.state.substrate run'.state.substrate := by
        rw [hstate]
        exact .refl h.1.sound h.1.exclusive
      rw [hchanged]
      exact h.next hnext
    | gained id p ips q hid hgains hmatches hchanged hrecords habsent =>
      have hon := htarget id hid
      have hnext := h.gained hgains hon hchange
      have hnet : p.networkId = change.networkId := hon.network hgains.port
      have hown : p.id = id := h.1.sound.own_id hgains.port
      rw [hchanged]
      refine (h.next hnext).insert (hmatches.networkId.trans hnet) ?_
      have hid' : q.id = id := hmatches.id.trans hown
      rw [hid']
      exact hnext.later.onlyOn hon
  · intro e run' hend
    obtain ⟨hend, -⟩ := hend
    refine h.1.trans ?_
    cases hend with
    | refused u hallocating hheard hrecords =>
      exact .of_samePorts h.1.sound h.1.exclusive (hallocating.samePorts.trans hheard.samePorts)
    | gained id p ips hid hgains hrecords => exact h.gained hgains (htarget id hid) hchange

theorem SparingRun.lost {t : Substrate} {id subnetId networkId : String} {p : Port}
    (h : SparingRun networks s changed run)
    (hloses : run.state.substrate.Loses t id subnetId p)
    (hon : run.state.substrate.OnlyOn id networkId) (hspared : networkId ∉ networks) :
    Sparing networks run.state.substrate t :=
  .of_amended h.1.sound h.1.exclusive hloses.amended (hloses.sound h.1.sound)
    (fun _ => Port.release_networkId _ _ _) hon hspared

theorem ends_deleteSubnet_sparing {change : SubnetChange} (hchange : change.networkId ∉ networks)
    (hplaced : ∀ id, change.portId = some id → run.state.substrate.OnlyOn id change.networkId)
    (h : SparingRun networks s changed run) :
    Action.Ends (deleteSubnet changed change) run (SparingRun networks s)
      fun _ run' => Sparing networks s run'.state.substrate := by
  apply (ends_deleteSubnet changed change run).mono
  · intro changed' run' hend
    cases hend with
    | unnamed hport hchanged hstate =>
      have hnext : Sparing networks run.state.substrate run'.state.substrate := by
        rw [hstate]
        exact .refl h.1.sound h.1.exclusive
      rw [hchanged]
      exact h.next hnext
    | lost id p q hid hloses hmatches hchanged hrecords =>
      have hon := hplaced id hid
      have hnext := h.lost hloses hon hchange
      rw [hchanged]
      split
      next => exact h.next hnext
      next =>
        refine (h.next hnext).insert ?_ ?_
        · rw [hmatches.networkId, Port.release_networkId]
          exact hon.network hloses.port
        · rw [hmatches.id, Port.release_id, h.1.sound.own_id hloses.port]
          exact hnext.later.onlyOn hon
  · intro e run' hend
    obtain ⟨hend, -⟩ := hend
    refine h.1.trans ?_
    cases hend with
    | refused hheard => exact .of_samePorts h.1.sound h.1.exclusive hheard.1.samePorts
    | lost id p hid hloses hrecords => exact h.lost hloses (hplaced id hid) hchange

theorem ends_deleteNic_sparing {nic : Interface} (hnic : nic.networkId ∉ networks)
    (hplaced : ∀ id, nic.portId = some id → run.state.substrate.OnlyOn id nic.networkId)
    (h : SparingRun networks s changed run) :
    Action.Ends (deleteNic amphora changed nic) run (SparingRun networks s)
      fun _ run' => Sparing networks s run'.state.substrate := by
  have hnext : ∀ d, NicDeleted amphora.instanceId nic run.state d →
      Sparing networks run.state.substrate d.substrate :=
    fun d hend => .of_removal h.1.sound h.1.exclusive hend.removal hplaced hnic
  apply (ends_deleteNic amphora changed nic run).mono
  · intro changed' run' hend
    obtain ⟨rfl, hend⟩ := hend
    exact (h.next (hnext _ hend)).erase nic.networkId
  · intro e run' hend
    obtain ⟨hend, -⟩ := hend
    exact h.1.trans (hnext _ hend)

/-- A delta that names none of the networks spares them, and the ports that it gives back are on the
networks that they name. -/
theorem ends_apply_sparing (hspared : ∀ networkId ∈ networks, ¬ delta.Names networkId)
    (hplaced : delta.Placed s) (hs : s.Sound) (hx : s.Exclusive)
    (hstart : run.state.substrate = s) :
    Action.Ends (delta.apply amphora) run
      (fun ports run' => Sparing networks s run'.state.substrate ∧
        ∀ q ∈ ports, run'.state.substrate.OnlyOn q.id q.networkId)
      fun _ run' => Sparing networks s run'.state.substrate := by
  have hnics : ∀ nic ∈ delta.addNics ++ delta.deleteNics, nic.networkId ∉ networks :=
    fun nic hnic hmem => hspared _ hmem (.inl ⟨nic, hnic, rfl⟩)
  have hsubnets : ∀ change ∈ delta.addSubnets ++ delta.deleteSubnets,
      change.networkId ∉ networks :=
    fun change hchange hmem => hspared _ hmem (.inr ⟨change, hchange, rfl⟩)
  have hbegin : SparingRun networks s .empty run := by
    subst hstart
    refine ⟨.refl hs hx, fun n q hq => ?_⟩
    cases hq
  refine (Ends.foldlM_mem ?_ hbegin).bind ?_ (fun e t h => h)
  · intro nic hnic changed run h
    exact ends_addNic_sparing (hnics nic (List.mem_append_left _ hnic)) h
  intro changed₁ run₁ h₁
  refine (Ends.foldlM_mem ?_ h₁).bind ?_ (fun e t h => h)
  · intro change hchange changed run h
    have hmem := List.mem_append_left delta.deleteSubnets hchange
    exact ends_addSubnet_sparing (hsubnets change hmem)
      (fun id hid => h.1.later.onlyOn (hplaced.changed change hmem id hid)) h
  intro changed₂ run₂ h₂
  refine (Ends.foldlM_mem ?_ h₂).bind ?_ (fun e t h => h)
  · intro change hchange changed run h
    have hmem := List.mem_append_right delta.addSubnets hchange
    exact ends_deleteSubnet_sparing (hsubnets change hmem)
      (fun id hid => h.1.later.onlyOn (hplaced.changed change hmem id hid)) h
  intro changed₃ run₃ h₃
  refine (Ends.foldlM_mem ?_ h₃).bind ?_ (fun e t h => h)
  · intro nic hnic changed run h
    exact ends_deleteNic_sparing (hnics nic (List.mem_append_right _ hnic))
      (fun id hid => h.1.later.onlyOn (hplaced.deleted nic hnic id hid)) h
  intro changed₄ run₄ h₄
  refine ends_pure ⟨h₄.1, fun q hq => ?_⟩
  obtain ⟨networkId, hget⟩ := IdMap.mem_values_iff.mp hq
  obtain ⟨hnet, hon⟩ := h₄.2 networkId q hget
  exact hnet ▸ hon

end

/-! Reverting -/

/-- Of the port of a new interface is known at most that it was changed on the same network. -/
theorem Placed.portOf (h : delta.Placed s) {ports : List Port}
    (hports : ∀ q ∈ ports, s.OnlyOn q.id q.networkId) {nic : Interface}
    (hnic : nic ∈ delta.addNics) {id : String} (hid : portOf ports nic = some id) :
    s.OnlyOn id nic.networkId := by
  rw [Delta.portOf, h.added nic hnic, Option.none_or] at hid
  obtain ⟨q, hq, rfl⟩ := Option.map_eq_some_iff.mp hid
  have hnet : q.networkId = nic.networkId := by simpa using List.find?_some hq
  exact hnet ▸ hports q (List.mem_of_find?_eq_some hq)

/-- Such a delta spares the networks also when it is taken back. -/
theorem ends_unwind_sparing (hspared : ∀ networkId ∈ networks, ¬ delta.Names networkId)
    (hplaced : delta.Placed s) (hs : s.Sound) (hx : s.Exclusive) {ports : List Port}
    (hports : ∀ q ∈ ports, s.OnlyOn q.id q.networkId) {run : Run Deployment}
    (hstart : run.state.substrate = s) :
    Effect.Ends (delta.unwind ports) run
      fun _ run' => Sparing networks s run'.state.substrate := by
  have hbegin : Sparing networks s run.state.substrate := by
    subst hstart
    exact .refl hs hx
  refine Effect.Ends.forM_mem ?_ hbegin
  intro nic hnic run h
  apply (ends_removeAddedNic delta ports nic run).mono
  intro a run' hend
  refine h.trans (.of_removal h.sound h.exclusive hend.removal ?_ ?_)
  · exact fun id hid => h.later.onlyOn (hplaced.portOf hports hnic hid)
  · exact fun hmem => hspared _ hmem (.inl ⟨nic, List.mem_append_left _ hnic, rfl⟩)

/-! Computed deltas -/

section

variable {management : List String} {c : String} {amphora : Amphora} {wanted : Topology}

theorem wanted_of_mem_addSubnets {plugged : IdMap Interface} {change : SubnetChange}
    (h : change ∈ (between amphora wanted plugged).addSubnets) :
    wanted.subnets.get? change.subnetId = some change.networkId := by
  simp only [between, List.mem_map, List.mem_filter, Prod.exists, IdMap.mem_entries_iff] at h
  obtain ⟨subnetId, networkId, ⟨hget, -⟩, rfl⟩ := h
  exact hget

/-- A subnet is removed only from a network that is attached and no management network. -/
theorem attached_of_mem_deleteSubnets {change : SubnetChange}
    (h : change ∈ (between amphora wanted (s.attached management c)).deleteSubnets) :
    change.networkId ∉ management := by
  simp only [between, List.mem_map, List.mem_filter, Prod.exists, IdMap.mem_entries_iff] at h
  obtain ⟨subnetId, networkId, ⟨hget, -⟩, rfl⟩ := h
  have hmem := IdMap.mem_of_get?_ofList hget
  simp only [List.mem_flatMap, IdMap.mem_values_iff, get?_attached_eq_some, List.mem_map,
    Prod.mk.injEq] at hmem
  obtain ⟨i, ⟨k, hk, p, hp, rfl⟩, ip, -, -, rfl⟩ := hmem
  change p.networkId ∉ management
  rwa [carrier_networkId hp]

/-- A computed delta names a management network where it is wanted, and only there. -/
theorem names_between_iff {networkId : String} (hmanagement : networkId ∈ management) :
    (between amphora wanted (s.attached management c)).Names networkId ↔
      networkId ∈ wanted.networks := by
  constructor
  · intro h
    rcases h with ⟨nic, hnic, rfl⟩ | ⟨change, hchange, rfl⟩
    · rcases List.mem_append.mp hnic with hnic | hnic
      · obtain ⟨n, hn, -, rfl⟩ := mem_addNics.mp hnic
        exact hn
      · obtain ⟨n, p, hn, -, hp, rfl⟩ := mem_deleteNics.mp hnic
        change p.networkId ∈ management at hmanagement
        rw [carrier_networkId hp] at hmanagement
        exact absurd hmanagement hn
    · rcases List.mem_append.mp hchange with hchange | hchange
      · exact Topology.mem_networks.mpr ⟨_, wanted_of_mem_addSubnets hchange⟩
      · exact absurd hmanagement (attached_of_mem_deleteSubnets hchange)
  · intro hwanted
    have hnic : newNic wanted networkId ∈
        (between amphora wanted (s.attached management c)).addNics :=
      mem_addNics.mpr ⟨networkId, hwanted, .inl hmanagement, rfl⟩
    exact .inl ⟨_, List.mem_append_left _ hnic, rfl⟩

/-- A computed delta names ports on the networks where they are. -/
theorem placed_between (hs : s.Sound) :
    (between amphora wanted (s.attached management c)).Placed s := by
  have hcarrier : ∀ {networkId p}, s.carrier c networkId = some p → s.OnlyOn p.id networkId := by
    intro networkId p hp
    have hon := hs.onlyOn (hs.carrier_get? hp).2
    rwa [carrier_networkId hp] at hon
  constructor
  · intro nic hnic
    obtain ⟨n, -, -, rfl⟩ := mem_addNics.mp hnic
    rfl
  · intro nic hnic id hid
    obtain ⟨n, p, -, -, hp, rfl⟩ := mem_deleteNics.mp hnic
    cases hid
    change s.OnlyOn p.id p.networkId
    rw [carrier_networkId hp]
    exact hcarrier hp
  · intro change hchange id hid
    rcases List.mem_append.mp hchange with hchange | hchange
    · obtain ⟨subnetId, n, -, -, rfl⟩ := mem_addSubnets.mp hchange
      obtain ⟨-, p, hp, rfl⟩ := namedPort_eq_some.mp hid
      exact hcarrier hp
    · obtain ⟨subnetId, n, p, -, hp, -, -, rfl⟩ := (mem_deleteSubnets hs).mp hchange
      cases hid
      exact hcarrier hp

end

end Delta

namespace Step

/-- From `s` on, executing the step and then reverting it spares the networks, whatever happens
before, in between and on the way. -/
def Spares {ο : Type} (step : Step ο) (networks : List String) (s : Substrate) : Prop :=
  ∀ run : Run Deployment, run.state.substrate.Sound → run.state.substrate.Exclusive →
    s.Later run.state.substrate →
    Sparing networks run.state.substrate (step.execute.runOn run).2.state.substrate ∧
    ∀ out, (step.execute.runOn run).1 = .ok out → ∀ run' : Run Deployment,
      run'.state.substrate.Sound → run'.state.substrate.Exclusive →
      (step.execute.runOn run).2.state.substrate.Later run'.state.substrate →
      Sparing networks run'.state.substrate ((step.revert out).run run').2.state.substrate

theorem ends_applyDelta_sparing {delta : Delta} {networks : List String} {s : Substrate}
    (hspared : ∀ networkId ∈ networks, ¬ delta.Names networkId) (hplaced : delta.Placed s)
    (hs : s.Sound) (hx : s.Exclusive) (amphoraId : String) {run : Run Deployment}
    (hstart : run.state.substrate = s) :
    Action.Ends (applyDelta amphoraId delta).execute run
      (fun out run' => Sparing networks s run'.state.substrate ∧
        ∀ q ∈ (out.get? amphoraId).getD [], run'.state.substrate.OnlyOn q.id q.networkId)
      fun _ run' => Sparing networks s run'.state.substrate := by
  refine (Deployment.ends_onRepository (Repository.ends_getAmphora amphoraId _)).bind ?_ ?_
  · intro amphora run₁ hend
    obtain ⟨-, hsubstrate, -⟩ := hend
    refine (Delta.ends_apply_sparing hspared hplaced hs hx (hsubstrate.trans hstart)).bind ?_
      (fun e run₂ h => h)
    intro ports run₂ hend
    obtain ⟨h, hports⟩ := hend
    refine ends_pure ⟨h, ?_⟩
    rwa [IdMap.get?_insert_self, Option.getD_some]
  · intro e run₁ hend
    obtain ⟨-, hsubstrate, -⟩ := hend
    rw [hsubstrate, hstart]
    exact .refl hs hx

theorem spares_applyDelta {delta : Delta} {networks : List String} {s : Substrate}
    (hspared : ∀ networkId ∈ networks, ¬ delta.Names networkId) (hplaced : delta.Placed s)
    (amphoraId : String) : (applyDelta amphoraId delta).Spares networks s := by
  intro run hs hx hlater
  have hplaced₁ := hplaced.later hlater
  have hend := ends_applyDelta_sparing hspared hplaced₁ hs hx amphoraId rfl
  constructor
  · exact (hend.mono (fun _ _ h => h.1) fun _ _ h => h).state
  · intro out hout run' hs' hx' hlater'
    obtain ⟨hdone, hports⟩ := hend.of_ok (Prod.ext hout rfl)
    exact (Delta.ends_unwind_sparing hspared ((hplaced₁.later hdone.later).later hlater') hs' hx'
      (fun q hq => hlater'.onlyOn (hports q hq)) rfl).state

/-- A computed delta names a management network exactly if the load balancer wants a subnet by it,
and if it wants none, the delta spares the management networks. -/
theorem management_networks_named_iff_wanted {s s₁ : Substrate} {bootNetworks : List String}
    {zone : Option AvailabilityZone} {lb : LoadBalancer} {amphora : Amphora} {delta : Delta}
    (hcompute : (computeDelta (managementNetworks bootNetworks zone) lb amphora).runOn s =
      (.ok delta, s₁)) :
    (∀ networkId ∈ managementNetworks bootNetworks zone,
      delta.Names networkId ↔ ∃ subnetId, s.Wanted lb subnetId networkId) ∧
    (s.Sound → (∀ networkId ∈ managementNetworks bootNetworks zone,
        ¬ ∃ subnetId, s.Wanted lb subnetId networkId) →
      ∀ amphoraId, (applyDelta amphoraId delta).Spares
        (managementNetworks bootNetworks zone) s₁) := by
  obtain ⟨hheard, rfl, hanswered⟩ :=
    (ends_computeDelta (managementNetworks bootNetworks zone) lb amphora s).of_ok hcompute
  have hnames : ∀ networkId ∈ managementNetworks bootNetworks zone,
      (s.delta (managementNetworks bootNetworks zone) lb amphora).Names networkId ↔
        ∃ subnetId, s.Wanted lb subnetId networkId := by
    intro networkId hmanagement
    rw [Substrate.delta, Delta.names_between_iff hmanagement, Topology.mem_networks]
    simp only [get?_subnets_desired hanswered]
  refine ⟨hnames, fun hs hunwanted amphoraId => spares_applyDelta ?_ ?_ amphoraId⟩
  · exact fun networkId hmanagement hnamed =>
      hunwanted networkId hmanagement ((hnames networkId hmanagement).mp hnamed)
  · exact (Delta.placed_between hs).later hheard.samePorts.later

/-- The sample load balancer wants no subnet on its management network, which its delta spares. -/
theorem management_networks_named_iff_wanted_wired : ∃ delta s₁,
    (computeDelta (managementNetworks ["mgmt-net"] none) (Sample.loadBalancer [])
      (Sample.amphora "amp-1" "vm-1")).runOn Sample.wired = (.ok delta, s₁) ∧
    ¬ delta.Names "mgmt-net" ∧ (applyDelta "amp-1" delta).Spares ["mgmt-net"] s₁ := by
  obtain ⟨delta, s₁, hcompute⟩ := exists_of_isSome
    (computeDelta (managementNetworks ["mgmt-net"] none) (Sample.loadBalancer [])
      (Sample.amphora "amp-1" "vm-1")) Sample.wired (by decide +kernel)
  obtain ⟨hnames, hspares⟩ := management_networks_named_iff_wanted hcompute
  have hunwanted : ¬ ∃ subnetId, Sample.wired.Wanted (Sample.loadBalancer []) subnetId
      "mgmt-net" := by
    intro h
    rcases h with ⟨subnetId, ⟨⟨m, hm, -, hsubnet⟩, subnet, hget, hnet⟩ | ⟨-, -, hvip⟩⟩
    · have hsubnetId : subnetId = "subnet-b" := by
        simp [LoadBalancer.members, Sample.loadBalancer] at hm
        subst hm
        exact (Option.some.inj hsubnet).symm
      have hother : (Sample.wired.subnets.get? "subnet-b").map (·.networkId) = some "net-b" := by
        decide +kernel
      subst hsubnetId
      simp [hget, hnet] at hother
    · simp [Sample.loadBalancer] at hvip
  refine ⟨delta, s₁, hcompute, ?_, ?_⟩
  · exact fun hnamed => hunwanted ((hnames "mgmt-net" List.mem_cons_self).mp hnamed)
  · refine hspares Sample.wired_fit.1 ?_ "amp-1"
    intro networkId hmanagement
    rw [List.mem_singleton.mp hmanagement]
    exact hunwanted

/-- With its virtual address on the management network, an instance is given a second interface
there, and reverting that takes the first one away as well. -/
theorem vip_on_management_network_named :
    ∃ delta ∈ ((computeDelta (managementNetworks ["mgmt-net"] none)
        { Sample.loadBalancer [] with
          vip := { subnetId := "mgmt-subnet", networkId := "mgmt-net" } }
        (Sample.amphora "amp-1" "vm-1")).runOn Sample.substrate).1.toOption,
      delta.Names "mgmt-net" ∧ Sample.substrate.portsOn "vm-1" "mgmt-net" ≠ [] ∧
      ∃ changed ∈
        ((applyDelta "amp-1" delta).execute.runOn (Sample.start Sample.substrate)).1.toOption,
        (((applyDelta "amp-1" delta).revert changed).run
          ((applyDelta "amp-1" delta).execute.runOn
            (Sample.start Sample.substrate)).2).2.state.substrate.portsOn
          "vm-1" "mgmt-net" = [] := by
  decide +kernel

end Step

end AmphoraWiring
