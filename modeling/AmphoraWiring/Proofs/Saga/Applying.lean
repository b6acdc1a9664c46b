import AmphoraWiring.Proofs.Saga.Underway

/-!
Applying a delta keeps to its plan, change by change and phase by phase, whether it comes to its
end or stops on the way. What a step counts as changed are the carriers of the networks.
-/
namespace AmphoraWiring

open Action Substrate

namespace Substrate

theorem carrier_congr {s t : Substrate} {c networkId : String}
    (h : t.portsOn c networkId = s.portsOn c networkId) :
    t.carrier c networkId = s.carrier c networkId := by
  unfold carrier
  rw [h]

/-- The carrier of a network is on it, and no other instance has it. -/
theorem Sound.carrier_apart {s : Substrate} (hs : s.Sound) (hx : s.Exclusive)
    {c networkId : String} {p : Port} (hp : s.carrier c networkId = some p) :
    (∀ q, s.ports.get? p.id = some q → q.networkId = networkId) ∧
      ∀ c' ≠ c, p.id ∉ s.pluggedPortIds c' := by
  obtain ⟨hid, hget⟩ := hs.carrier_get? hp
  constructor
  · intro q hq
    rw [hget] at hq
    cases hq
    exact carrier_networkId hp
  · intro c' hc hid'
    exact hc (hx hid' hid)

theorem Amended.carrier {s t : Substrate} {id : String} {f : Port → Port} (h : s.Amended t id f)
    (hs : s.Sound) (hnet : ∀ p, (f p).networkId = p.networkId) (c networkId : String) :
    t.carrier c networkId = (s.carrier c networkId).map (onPort id f) := by
  unfold Substrate.carrier
  rw [h.portsOn hs hnet, List.getLast?_map]

theorem Adopts.carrier {s t : Substrate} {request : PortRequest} {c : String} {p : Port}
    (h : s.Adopts t request c p) (hs : s.Sound) (networkId : String) : t.carrier c networkId =
      if networkId = request.networkId then some { p with deviceId := some c }
      else s.carrier c networkId := by
  unfold Substrate.carrier
  rw [h.portsOn hs]
  by_cases hnet : networkId = request.networkId
  · simp [hnet]
  · simp [hnet]

end Substrate

namespace Plan

variable {plan : Plan} {gone : List String} {s t : Substrate} {changed : ChangedPorts}
  {amphora : Amphora}

/-- As long as a network is not given up, its carrier is the one it had. -/
theorem Underway.carrier (h : plan.Underway gone s) {networkId : String} {p : Port}
    (hmanagement : networkId ∉ plan.management) (hgone : networkId ∉ gone)
    (hp : plan.start.carrier plan.computeId networkId = some p) :
    ∃ q, s.carrier plan.computeId networkId = some q ∧ plan.Readdressed networkId p q := by
  have hports : plan.start.portsOn plan.computeId networkId ≠ [] :=
    List.ne_nil_of_mem (carrier_mem hp)
  exact forall₂_getLast? (h.kept networkId hmanagement hgone hports) hp

/-! What is counted as changed -/

theorem Counted.of_carriers (h : plan.Counted s changed)
    (hcarrier : ∀ networkId q, changed.get? networkId = some q →
      t.carrier plan.computeId networkId = s.carrier plan.computeId networkId) :
    plan.Counted t changed := by
  intro networkId q hq
  obtain ⟨hnet, ⟨p, hp, hid, hsubnets⟩, hnew⟩ := h networkId q hq
  exact ⟨hnet, ⟨p, (hcarrier networkId q hq).trans hp, hid, hsubnets⟩, hnew⟩

/-- A port that was changed takes the place of what was counted for its network before. -/
theorem Counted.insert (h : plan.Counted s changed) {networkId : String} {p q : Port}
    (hother : ∀ n, n ≠ networkId → t.carrier plan.computeId n = s.carrier plan.computeId n)
    (hp : t.carrier plan.computeId networkId = some p) (hmatches : p.Matches q)
    (hnew : networkId ∈ plan.management → plan.start.ports.get? p.id = none) :
    plan.Counted t (changed.insert networkId q) := by
  intro n q' hq'
  rw [IdMap.get?_insert] at hq'
  split at hq'
  next heq =>
    cases hq'
    subst heq
    have hnet := hmatches.networkId.trans (carrier_networkId hp)
    exact ⟨hnet, ⟨p, hp, hmatches.id, hmatches.hasSubnet⟩, fun hn => hmatches.id ▸ hnew hn⟩
  next hne =>
    obtain ⟨hnet, ⟨p', hp', hid, hsubnets⟩, hnew'⟩ := h n q' hq'
    exact ⟨hnet, ⟨p', (hother n hne).trans hp', hid, hsubnets⟩, hnew'⟩

theorem Counted.erase (h : plan.Counted s changed) {networkId : String}
    (hother : ∀ n, n ≠ networkId → t.carrier plan.computeId n = s.carrier plan.computeId n) :
    plan.Counted t (changed.erase networkId) := by
  intro n q hq
  rw [IdMap.get?_erase] at hq
  split at hq
  next => cases hq
  next hne =>
    obtain ⟨hnet, ⟨p, hp, hid, hsubnets⟩, hnew⟩ := h n q hq
    exact ⟨hnet, ⟨p, (hother n hne).trans hp, hid, hsubnets⟩, hnew⟩

/-! New interfaces -/

/-- A port that was made for a new interface reaches only subnets that are to be reached. -/
theorem wanted_of_created {nic : Interface} {networkId : String} {p : Port}
    (hwanted : networkId ∈ plan.wanted.networks) (hnic : nic = Delta.newNic plan.wanted networkId)
    (hcreated : s.Created (Delta.portRequest amphora nic) p) {subnetId : String}
    (hsubnet : p.hasSubnet subnetId) : plan.wanted.subnets.get? subnetId = some networkId := by
  subst hnic
  have hne : (Delta.portRequest amphora (Delta.newNic plan.wanted networkId)).fixedIps ≠ [] := by
    simpa [Delta.portRequest, Delta.newNic] using Topology.subnetsOn_ne_nil hwanted
  have hmem : subnetId ∈ p.fixedIps.map (·.subnetId) := by
    obtain ⟨ip, hip, rfl⟩ := Port.hasSubnet_iff.mp hsubnet
    exact List.mem_map_of_mem hip
  rw [hcreated.subnets hne] at hmem
  have hsubnets : subnetId ∈ plan.wanted.subnetsOn networkId := by
    simp only [Delta.portRequest, Delta.newNic, ← List.map_take, List.map_map] at hmem
    obtain ⟨id, hid, rfl⟩ := List.mem_map.mp hmem
    exact List.mem_of_mem_take hid
  exact Topology.mem_subnetsOn.mp hsubnets

theorem Underway.nicAdopted (h : plan.Underway [] s) {nic : Interface} {c : String} {p : Port}
    (hnic : nic ∈ (plan.delta amphora).addNics) {amphora' : Amphora}
    (hc : amphora'.computeId = some c) (hinstance : amphora'.instanceId = plan.computeId)
    (hadopts : s.Adopts t (Delta.portRequest amphora' nic) c p) : plan.Underway [] t := by
  obtain ⟨networkId, hwanted, hfree, rfl⟩ := Delta.mem_addNics.mp hnic
  have heq : c = plan.computeId := (Amphora.instanceId_eq hc).symm.trans hinstance
  subst heq
  exact h.adopts hadopts hwanted hfree fun subnetId => wanted_of_created hwanted rfl hadopts.created

theorem Underway.nicNotAdded {d d' : Deployment} (h : plan.Underway [] d.substrate)
    {nic : Interface} (hnic : nic ∈ (plan.delta amphora).addNics) {amphora' : Amphora}
    (hinstance : amphora'.instanceId = plan.computeId)
    (hend : Delta.NicNotAdded amphora' nic d d') : plan.Underway [] d'.substrate := by
  cases hend with
  | refused u hserving hheard hrecords =>
    obtain ⟨ids, hallocating, -⟩ := hserving
    exact (h.samePorts hallocating.samePorts).samePorts hheard.samePorts
  | discarded u p hserving hcreated hheard hrecords =>
    exact (h.created hserving hcreated).2.samePorts hheard.samePorts
  | leaked u p reason hserving hcreated hheard hrepository haudit =>
    exact (h.created hserving hcreated).1.samePorts hheard.samePorts
  | unrecorded c p hcompute hadopts hrepository hbound haudit =>
    exact h.nicAdopted hnic hcompute hinstance hadopts
  | unfilled c p hcompute hadopts hrepository haudit =>
    exact h.nicAdopted hnic hcompute hinstance hadopts

theorem Counted.nicAdded {d d' : Deployment} {changed' : ChangedPorts}
    (h : plan.Underway [] d.substrate) (hcounted : plan.Counted d.substrate changed)
    {nic : Interface} {amphora' : Amphora} (hinstance : amphora'.instanceId = plan.computeId)
    {c : String} {p q : Port}
    (hend : Delta.NicAdded amphora' nic changed d changed' d' c p q) :
    plan.Counted d'.substrate changed' := by
  have heq : c = plan.computeId := (Amphora.instanceId_eq hend.computeId).symm.trans hinstance
  subst heq
  have hnet : q.networkId = (Delta.portRequest amphora' nic).networkId :=
    hend.filled.networkId.trans hend.adopts.created.network
  have hcarrier := hend.adopts.carrier h.sound
  rw [hend.counted]
  have hmatches : Port.Matches { p with deviceId := some plan.computeId } q :=
    ⟨hend.filled.id, hend.filled.networkId, hend.filled.subnets⟩
  have hnew := h.created_new hend.adopts.created
  refine hcounted.insert ?_ ?_ hmatches fun _ => hnew
  · intro n hn
    rw [hcarrier, if_neg (hnet ▸ hn)]
  · rw [hcarrier, if_pos hnet]

/-! Subnets -/

/-- A subnet is added if it is wanted and not reached on any network. -/
theorem mem_addSubnets {change : SubnetChange} :
    change ∈ (plan.delta amphora).addSubnets ↔
      ∃ subnetId networkId, plan.wanted.subnets.get? subnetId = some networkId ∧
        (∀ n, ¬ plan.start.Reached plan.management plan.computeId subnetId n) ∧ change =
          ⟨subnetId, networkId,
            Delta.namedPort plan.start plan.management plan.computeId networkId⟩ :=
  Delta.mem_addSubnets

theorem Counted.amended (hcounted : plan.Counted s changed) (h : plan.Underway gone s)
    {networkId : String} {f : Port → Port} {p q : Port} (hamended : s.Amended t p.id f)
    (hnet : ∀ p, (f p).networkId = p.networkId)
    (hp : s.carrier plan.computeId networkId = some p) (hmatches : (f p).Matches q)
    (hnew : networkId ∈ plan.management → plan.start.ports.get? (f p).id = none) :
    plan.Counted t (changed.insert networkId q) := by
  obtain ⟨hon, -⟩ := h.sound.carrier_apart h.exclusive hp
  refine hcounted.insert ?_ ?_ hmatches hnew
  · intro n hn
    refine carrier_congr (hamended.portsOn_eq_self h.sound hnet ?_)
    intro r hr heq
    obtain ⟨-, hget, hnet⟩ := h.sound.mem_portsOn.mp hr
    exact hn (hnet.symm.trans (hon r (heq ▸ hget)))
  · rw [hamended.carrier h.sound hnet, hp, Option.map_some, onPort, if_pos rfl]

/-- A subnet is added to the carrier of its network. On a management network that is a new port. -/
theorem Underway.target (h : plan.Underway [] s) (hcounted : plan.Counted s changed)
    {change : SubnetChange} (hchange : change ∈ (plan.delta amphora).addSubnets) {id : String}
    (htarget : change.target changed = some id) :
    ∃ p, s.carrier plan.computeId change.networkId = some p ∧ p.id = id ∧
      (change.networkId ∈ plan.management → plan.start.ports.get? id = none) := by
  obtain ⟨subnetId, networkId, -, -, rfl⟩ := mem_addSubnets.mp hchange
  rw [SubnetChange.target, Option.or_eq_some_iff] at htarget
  rcases htarget with hnamed | ⟨-, hcount⟩
  · obtain ⟨hmanagement, p, hp, rfl⟩ := Delta.namedPort_eq_some.mp hnamed
    obtain ⟨q, hq, hpq⟩ := h.carrier hmanagement List.not_mem_nil hp
    exact ⟨q, hq, hpq.id, fun hn => absurd hn hmanagement⟩
  · obtain ⟨q, hq, rfl⟩ := Option.map_eq_some_iff.mp hcount
    obtain ⟨-, ⟨p, hp, hid, -⟩, hnew⟩ := hcounted networkId q hq
    exact ⟨p, hp, hid.symm, hnew⟩

/-- A wanted subnet that a port gains keeps to the plan. -/
theorem Underway.subnetGained (h : plan.Underway [] s) (hcounted : plan.Counted s changed)
    {change : SubnetChange} (hchange : change ∈ (plan.delta amphora).addSubnets) {id : String}
    (htarget : change.target changed = some id) {p : Port} {ips : List FixedIp}
    (hgains : s.Gains t id change.subnetId p ips) : plan.Underway [] t := by
  obtain ⟨q, hq, rfl, hnew⟩ := h.target hcounted hchange htarget
  obtain ⟨hon, happart⟩ := h.sound.carrier_apart h.exclusive hq
  obtain ⟨subnetId, networkId, hwanted, -, rfl⟩ := mem_addSubnets.mp hchange
  refine h.amended hgains.amended (hgains.sound h.sound) hgains.sameNetworks (fun _ => rfl) hon
    happart (fun hn => ⟨Topology.mem_networks.mpr ⟨subnetId, hwanted⟩, hnew hn⟩) fun r => ?_
  constructor
  case id => rfl
  case kept =>
    intro other hr _
    exact (r.hasSubnet_addIps ips other).mpr (.inl hr)
  case gained =>
    intro other hr
    rcases (r.hasSubnet_addIps ips other).mp hr with hr | ⟨ip, hip, rfl⟩
    · exact .inl hr
    · rw [(hgains.registered ip hip).1]
      exact .inr hwanted

theorem Underway.subnetNotAdded {d d' : Deployment} (h : plan.Underway [] d.substrate)
    (hcounted : plan.Counted d.substrate changed) {change : SubnetChange}
    (hchange : change ∈ (plan.delta amphora).addSubnets)
    (hend : Delta.SubnetNotAdded changed change d d') : plan.Underway [] d'.substrate := by
  cases hend with
  | refused u hallocating hheard hrecords =>
    exact (h.samePorts hallocating.samePorts).samePorts hheard.samePorts
  | gained id p ips htarget hgains hrecords =>
    exact h.subnetGained hcounted hchange htarget hgains

theorem Underway.subnetAdded {d d' : Deployment} {changed' : ChangedPorts}
    (h : plan.Underway [] d.substrate) (hcounted : plan.Counted d.substrate changed)
    {change : SubnetChange} (hchange : change ∈ (plan.delta amphora).addSubnets)
    (hend : Delta.SubnetAdded changed change d changed' d') :
    plan.Underway [] d'.substrate ∧ plan.Counted d'.substrate changed' := by
  cases hend with
  | present q hport hsubnet hchanged hstate =>
    subst hchanged hstate
    exact ⟨h, hcounted⟩
  | gained id p ips q htarget hgains hmatches hchanged hrecords habsent =>
    refine ⟨h.subnetGained hcounted hchange htarget hgains, ?_⟩
    obtain ⟨p', hp', rfl, hnew⟩ := h.target hcounted hchange htarget
    have hsame : p' = p := by
      have hget := (h.sound.carrier_get? hp').2
      rw [hgains.port] at hget
      exact (Option.some.inj hget).symm
    subst hsame
    rw [hchanged]
    exact hcounted.amended h hgains.amended (fun _ => rfl) hp' hmatches hnew

/-- A subnet is removed if a port outside the management networks has it and it is not wanted. -/
theorem mem_deleteSubnets {change : SubnetChange} :
    change ∈ (plan.delta amphora).deleteSubnets ↔
      ∃ subnetId networkId p, networkId ∉ plan.management ∧
        plan.start.carrier plan.computeId networkId = some p ∧ p.hasSubnet subnetId ∧
        plan.wanted.subnets.get? subnetId = none ∧ change = ⟨subnetId, networkId, some p.id⟩ :=
  Delta.mem_deleteSubnets plan.sound

/-- An unwanted subnet that a port loses keeps to the plan. -/
theorem Underway.subnetLost (h : plan.Underway [] s) {change : SubnetChange}
    (hchange : change ∈ (plan.delta amphora).deleteSubnets) {id : String}
    (hport : change.portId = some id) {p : Port}
    (hloses : s.Loses t id change.subnetId p) : plan.Underway [] t := by
  obtain ⟨subnetId, networkId, p₀, hmanagement, hp₀, -, hunwanted, rfl⟩ :=
    mem_deleteSubnets.mp hchange
  obtain ⟨q, hq, hpq⟩ := h.carrier hmanagement List.not_mem_nil hp₀
  obtain ⟨hon, happart⟩ := h.sound.carrier_apart h.exclusive hq
  have hid : id = q.id := (Option.some.inj hport).symm.trans hpq.id.symm
  subst hid
  refine h.amended hloses.amended (hloses.sound h.sound) hloses.sameNetworks
    (fun _ => Port.release_networkId _ _ _) hon happart
    (fun hn => absurd hn hmanagement) fun r => ?_
  constructor
  case id => exact Port.release_id _ _ _
  case kept =>
    intro other hr hneeded
    refine (r.hasSubnet_release _ other _).mpr ⟨hr, ?_⟩
    by_cases heq : other = subnetId
    · subst heq
      have hkeeps : plan.start.keepsAddresses other := by
        apply hneeded.resolve_left
        simp [IdMap.contains, hunwanted]
      exact .inl ((h.sameNetworks.keepsAddresses other).trans hkeeps)
    · exact .inr heq
  case gained => exact fun other hr => .inl ((r.hasSubnet_release _ other _).mp hr).1

theorem Underway.subnetNotDeleted {d d' : Deployment} (h : plan.Underway [] d.substrate)
    {change : SubnetChange} (hchange : change ∈ (plan.delta amphora).deleteSubnets)
    (hend : Delta.SubnetNotDeleted change d d') : plan.Underway [] d'.substrate := by
  cases hend with
  | refused hheard => exact h.samePorts hheard.1.samePorts
  | lost id p hport hloses hrecords => exact h.subnetLost hchange hport hloses

theorem Underway.subnetDeleted {d d' : Deployment} {changed' : ChangedPorts}
    (h : plan.Underway [] d.substrate) (hcounted : plan.Counted d.substrate changed)
    {change : SubnetChange} (hchange : change ∈ (plan.delta amphora).deleteSubnets)
    (hend : Delta.SubnetDeleted changed change d changed' d') :
    plan.Underway [] d'.substrate ∧ plan.Counted d'.substrate changed' := by
  cases hend with
  | unnamed hport hchanged hstate =>
    subst hchanged hstate
    exact ⟨h, hcounted⟩
  | lost id p q hport hloses hmatches hchanged hrecords =>
    refine ⟨h.subnetLost hchange hport hloses, ?_⟩
    obtain ⟨subnetId, networkId, p₀, hmanagement, hp₀, -, -, rfl⟩ := mem_deleteSubnets.mp hchange
    obtain ⟨p', hp', hpp'⟩ := h.carrier hmanagement List.not_mem_nil hp₀
    have hid : id = p'.id := (Option.some.inj hport).symm.trans hpp'.id.symm
    subst hid
    have hsame : p' = p := by
      have hget := (h.sound.carrier_get? hp').2
      rw [hloses.port] at hget
      exact (Option.some.inj hget).symm
    subst hsame
    rw [hchanged]
    split
    next hstays =>
      -- the addresses were kept, so nothing has changed
      have hkeeps : d.substrate.keepsAddresses subnetId := by
        have hpresent := (hmatches.hasSubnet subnetId).mp hstays
        exact ((p'.hasSubnet_release _ _ _).mp hpresent).2.resolve_right fun hne => hne rfl
      refine hcounted.of_carriers fun n r _ => ?_
      rw [hloses.amended.carrier h.sound (fun _ => Port.release_networkId _ _ _)]
      cases d.substrate.carrier plan.computeId n with
      | none => rfl
      | some r => simp [onPort, Port.release, hkeeps]
    next =>
      exact hcounted.amended h hloses.amended (fun _ => Port.release_networkId _ _ _) hp' hmatches
        fun hn => absurd hn hmanagement

/-! Networks that are given up -/

/-- An interface is removed if its network is neither a management network nor wanted. -/
theorem mem_deleteNics {nic : Interface} :
    nic ∈ (plan.delta amphora).deleteNics ↔
      ∃ networkId p, networkId ∉ plan.management ∧ networkId ∉ plan.wanted.networks ∧
        plan.start.carrier plan.computeId networkId = some p ∧ nic = Delta.staleNic p.toInterface :=
  Delta.mem_deleteNics

theorem Underway.nicDeleted {d d' : Deployment} (h : plan.Underway gone d.substrate)
    {nic : Interface} (hnic : nic ∈ (plan.delta amphora).deleteNics)
    (hgone : nic.networkId ∉ gone) (hend : Delta.NicDeleted plan.computeId nic d d') :
    plan.Underway (nic.networkId :: gone) d'.substrate ∧
      ∀ changed, plan.Counted d.substrate changed →
        plan.Counted d'.substrate (changed.erase nic.networkId) := by
  obtain ⟨networkId, p₀, hmanagement, -, hp₀, rfl⟩ := mem_deleteNics.mp hnic
  have hnet : p₀.networkId = networkId := carrier_networkId hp₀
  subst hnet
  obtain ⟨p, hp, hpp⟩ := h.carrier hmanagement hgone hp₀
  obtain ⟨hon, happart⟩ := h.sound.carrier_apart h.exclusive hp
  rw [hpp.id] at hon happart
  have hon' : ∀ id, some p₀.id = some id → ∀ q, d.substrate.ports.get? id = some q →
      q.networkId = p₀.networkId := by
    intro id h
    cases h
    exact hon
  constructor
  · refine h.removal hend.removal hmanagement hon' ?_ (List.ne_nil_of_mem (carrier_mem hp₀))
    intro id h
    cases h
    exact happart
  · intro changed hcounted
    refine hcounted.erase fun n hn => carrier_congr ?_
    exact hend.removal.portsOn_of_ne h.sound h.exclusive hn hon'

/-! The whole delta -/

/-- The networks that are given up are not to be reached, and nothing is left to do on them. -/
structure GivenUp (plan : Plan) (gone : List String) (rest : List Interface) : Prop where
  unwanted : ∀ networkId ∈ gone, networkId ∉ plan.wanted.networks
  done : ∀ nic ∈ rest, nic.networkId ∉ gone

theorem GivenUp.step {nic : Interface} {rest : List Interface}
    (h : plan.GivenUp gone (nic :: rest)) (hnic : nic ∈ (plan.delta amphora).deleteNics)
    (hnodup : ((nic :: rest).map (·.networkId)).Nodup) :
    plan.GivenUp (nic.networkId :: gone) rest := by
  constructor
  · intro networkId hmem
    rcases List.mem_cons.mp hmem with rfl | hmem
    · obtain ⟨networkId, p, -, hunwanted, hp, rfl⟩ := mem_deleteNics.mp hnic
      rwa [Delta.staleNic, Port.toInterface, carrier_networkId hp]
    · exact h.unwanted networkId hmem
  · intro nic' hnic' hmem
    rcases List.mem_cons.mp hmem with heq | hmem
    · rw [List.map_cons, List.nodup_cons] at hnodup
      exact hnodup.1 (heq ▸ List.mem_map_of_mem hnic')
    · exact h.done nic' (List.mem_cons_of_mem _ hnic') hmem

theorem GivenUp.nil {rest : List Interface} : plan.GivenUp [] rest := by
  constructor
  · intro networkId hmem
    cases hmem
  · intro nic _ hmem
    cases hmem

/-- The plan was kept to, whatever networks have been given up. -/
def Followed (plan : Plan) (s : Substrate) : Prop :=
  ∃ gone, plan.GivenUp gone [] ∧ plan.Underway gone s

theorem Underway.followed (h : plan.Underway [] s) : plan.Followed s := ⟨[], .nil, h⟩

/-- No network has been given up yet, and the changed ports are counted by their networks. -/
def OnTrack (plan : Plan) (changed : ChangedPorts) (run : Run Deployment) : Prop :=
  plan.Underway [] run.state.substrate ∧ plan.Counted run.state.substrate changed

/-- Some networks have been given up; the interfaces in `rest` are still to be removed. -/
def GivingUp (plan : Plan) (amphora : Amphora) (rest : List Interface) (changed : ChangedPorts)
    (run : Run Deployment) : Prop :=
  (∀ nic ∈ rest, nic ∈ (plan.delta amphora).deleteNics) ∧ (rest.map (·.networkId)).Nodup ∧
    ∃ gone, plan.GivenUp gone rest ∧ plan.Underway gone run.state.substrate ∧
      plan.Counted run.state.substrate changed

section

variable {run : Run Deployment} (amphora' : Amphora)

/-- The new interfaces are added according to the plan, or the rest is left undone. -/
theorem ends_addNics (hinstance : amphora.instanceId = plan.computeId)
    (h : plan.OnTrack changed run) :
    Action.Ends ((plan.delta amphora').addNics.foldlM (Delta.addNic amphora) changed) run
      plan.OnTrack fun _ run' => plan.Followed run'.state.substrate := by
  refine Ends.foldlM_mem ?_ h
  intro nic hnic changed run hend
  obtain ⟨h, hcounted⟩ := hend
  apply (Delta.ends_addNic amphora changed nic run).mono
  · intro changed' run' hend
    obtain ⟨c, p, q, hend⟩ := hend
    exact ⟨h.nicAdopted hnic hend.computeId hinstance hend.adopts,
      hcounted.nicAdded h hinstance hend⟩
  · intro e run' hend
    obtain ⟨hend, -⟩ := hend
    exact (h.nicNotAdded hnic hinstance hend).followed

/-- The new subnets are added according to the plan, or the rest is left undone. -/
theorem ends_addSubnets (h : plan.OnTrack changed run) :
    Action.Ends ((plan.delta amphora').addSubnets.foldlM Delta.addSubnet changed) run
      plan.OnTrack fun _ run' => plan.Followed run'.state.substrate := by
  refine Ends.foldlM_mem ?_ h
  intro change hchange changed run hend
  obtain ⟨h, hcounted⟩ := hend
  apply (Delta.ends_addSubnet changed change run).mono
  · intro changed' run' hend
    exact h.subnetAdded hcounted hchange hend
  · intro e run' hend
    obtain ⟨hend, -⟩ := hend
    exact (h.subnetNotAdded hcounted hchange hend).followed

/-- The old subnets are removed according to the plan, or the rest is left undone. -/
theorem ends_deleteSubnets (h : plan.OnTrack changed run) :
    Action.Ends ((plan.delta amphora').deleteSubnets.foldlM Delta.deleteSubnet changed) run
      plan.OnTrack fun _ run' => plan.Followed run'.state.substrate := by
  refine Ends.foldlM_mem ?_ h
  intro change hchange changed run hend
  obtain ⟨h, hcounted⟩ := hend
  apply (Delta.ends_deleteSubnet changed change run).mono
  · intro changed' run' hend
    exact h.subnetDeleted hcounted hchange hend
  · intro e run' hend
    obtain ⟨hend, -⟩ := hend
    exact (h.subnetNotDeleted hchange hend).followed

/-- The old interfaces are removed according to the plan, or the rest is left undone. -/
theorem ends_deleteNics (hinstance : amphora.instanceId = plan.computeId)
    (h : plan.OnTrack changed run) :
    Action.Ends ((plan.delta amphora').deleteNics.foldlM (Delta.deleteNic amphora) changed) run
      (fun changed' run' => plan.Followed run'.state.substrate ∧
        plan.Counted run'.state.substrate changed')
      fun _ run' => plan.Followed run'.state.substrate := by
  have hbegin : plan.GivingUp amphora' (plan.delta amphora').deleteNics changed run :=
    ⟨fun _ h => h, Delta.deleteNics_nodup, [], .nil, h⟩
  refine (Ends.foldlM ?_ _ _ _ hbegin).imp_ok ?_
  · intro nic rest changed run hend
    obtain ⟨hmem, hnodup, gone, hgone, h, hcounted⟩ := hend
    have hnic := hmem nic List.mem_cons_self
    have hnew := hgone.done nic List.mem_cons_self
    have hgone' := hgone.step hnic hnodup
    apply (Delta.ends_deleteNic amphora changed nic run).mono
    · intro changed' run' hend
      obtain ⟨rfl, hend⟩ := hend
      obtain ⟨h', hcounted'⟩ := h.nicDeleted hnic hnew (hinstance ▸ hend)
      refine ⟨fun n hn => hmem n (List.mem_cons_of_mem _ hn), ?_, _, hgone', h',
        hcounted' changed hcounted⟩
      exact (List.nodup_cons.mp hnodup).2
    · intro e run' hend
      obtain ⟨hend, -⟩ := hend
      obtain ⟨h', -⟩ := h.nicDeleted hnic hnew (hinstance ▸ hend)
      exact ⟨_, ⟨hgone'.unwanted, fun _ hn => by cases hn⟩, h'⟩
  · intro changed' run' hend
    obtain ⟨-, -, gone, hgone, h, hcounted⟩ := hend
    exact ⟨⟨gone, hgone, h⟩, hcounted⟩

end

/-- Applying the delta keeps to the plan wherever it stops, and what it gives back are the carriers
of networks. -/
theorem ends_apply (hinstance : amphora.instanceId = plan.computeId) (amphora' : Amphora)
    {run : Run Deployment} (hstart : run.state.substrate = plan.start) :
    Action.Ends ((plan.delta amphora').apply amphora) run
      (fun ports run' => plan.Followed run'.state.substrate ∧
        ∃ changed, plan.Counted run'.state.substrate changed ∧ ports = changed.values)
      fun _ run' => plan.Followed run'.state.substrate := by
  have hbegin : plan.OnTrack .empty run := ⟨hstart ▸ plan.underway_start, plan.counted_empty _⟩
  refine (ends_addNics amphora' hinstance hbegin).bind ?_ (fun e t h => h)
  intro changed₁ run₁ h₁
  refine (ends_addSubnets amphora' h₁).bind ?_ (fun e t h => h)
  intro changed₂ run₂ h₂
  refine (ends_deleteSubnets amphora' h₂).bind ?_ (fun e t h => h)
  intro changed₃ run₃ h₃
  refine (ends_deleteNics amphora' hinstance h₃).bind ?_ (fun e t h => h)
  intro changed₄ run₄ hend
  obtain ⟨hfollowed, hcounted⟩ := hend
  exact ends_pure ⟨hfollowed, changed₄, hcounted, rfl⟩

end Plan

end AmphoraWiring
