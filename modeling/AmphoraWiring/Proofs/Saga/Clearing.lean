import AmphoraWiring.Proofs.Saga.Completion

/-!
When nothing stands in the way, the removals of a delta come to their end as well. The ports on the
networks to be reached lose the subnets that are not to be reached, apart from those whose addresses
are kept, and the other networks are given up. What is to be reached stays reached.
-/
namespace AmphoraWiring

open Action Substrate Deployment

namespace Plan

variable {plan : Plan} {s t : Substrate} {changed : ChangedPorts} {amphora : Amphora}
  {run run' : Run Deployment}

/-- On the networks to be reached only subnets to be reached are left, those whose addresses are
kept, and those with an entry in `rest`. -/
def Cleared (plan : Plan) (s : Substrate) (rest : List SubnetChange) : Prop :=
  ∀ networkId ∈ plan.wanted.networks, ∀ p, s.carrier plan.computeId networkId = some p →
    ∀ subnetId, p.hasSubnet subnetId →
      plan.wanted.subnets.contains subnetId ∨ plan.start.keepsAddresses subnetId ∨
        ∃ change ∈ rest, change.subnetId = subnetId

/-! Subnets -/

/-- The subnets in `rest` are still to be removed. -/
structure DeletingSubnets (plan : Plan) (amphora : Amphora) (rest : List SubnetChange)
    (changed : ChangedPorts) (run : Run Deployment) : Prop where
  advancing : plan.Advancing changed run
  entries : ∀ change ∈ rest, change ∈ (plan.delta amphora).deleteSubnets
  reached : plan.Reached run.state.substrate
  cleared : plan.Cleared run.state.substrate rest

namespace DeletingSubnets

variable {change : SubnetChange} {rest : List SubnetChange}

/-- The port that the next entry names is the carrier of its network. -/
theorem carrier (h : plan.DeletingSubnets amphora (change :: rest) changed run) {id : String}
    (hid : change.portId = some id) :
    ∃ p, run.state.substrate.carrier plan.computeId change.networkId = some p ∧ p.id = id ∧
      plan.start.Registered change.subnetId change.networkId := by
  obtain ⟨subnetId, networkId, p₀, hmanagement, hp₀, hsubnet, -, rfl⟩ :=
    mem_deleteSubnets.mp (h.entries change List.mem_cons_self)
  cases hid
  obtain ⟨p, hp, hpp⟩ := h.advancing.underway.carrier hmanagement List.not_mem_nil hp₀
  exact ⟨p, hp, hpp.id, plan.sound.registered (carrier_mem hp₀) hsubnet⟩

theorem deletable (h : plan.DeletingSubnets amphora (change :: rest) changed run) :
    Delta.SubnetDeletable change run.state := by
  refine ⟨h.advancing.capable.faults, fun id hid => ?_⟩
  obtain ⟨p, hp, rfl, -⟩ := h.carrier hid
  have hport := (h.advancing.underway.sound.carrier_get? hp).2
  exact ⟨p, hport, h.advancing.fillable hport⟩

theorem not_wanted (h : plan.DeletingSubnets amphora (change :: rest) changed run) :
    ¬ plan.wanted.subnets.contains change.subnetId := by
  obtain ⟨subnetId, networkId, p₀, -, -, -, hnone, rfl⟩ :=
    mem_deleteSubnets.mp (h.entries change List.mem_cons_self)
  simp [IdMap.contains, hnone]

/-- What is to be reached stays reached when the subnet of the next entry is removed. -/
theorem reaches_of_loses (h : plan.DeletingSubnets amphora (change :: rest) changed run)
    {id : String} {p : Port} (hloses : run.state.substrate.Loses t id change.subnetId p)
    {other : String} (hother : plan.wanted.subnets.contains other)
    (hreaches : plan.Reaches run.state.substrate other) : plan.Reaches t other := by
  refine hreaches.amended h.advancing.underway.sound hloses.amended
    (fun _ => Port.release_networkId _ _ _) fun q hq => ?_
  refine (q.hasSubnet_release _ other _).mpr ⟨hq, .inr ?_⟩
  intro heq
  exact h.not_wanted (heq ▸ hother)

/-- A subnet is still there because its addresses are kept, if the port lost it and it was to be
removed. -/
theorem cleared_of_loses (h : plan.DeletingSubnets amphora (change :: rest) changed run)
    {id : String} (hid : change.portId = some id) {p : Port}
    (hloses : run.state.substrate.Loses t id change.subnetId p) : plan.Cleared t rest := by
  obtain ⟨r, hr, hrid, hregistered⟩ := h.carrier hid
  have hsound := h.advancing.underway.sound
  have hsame := h.advancing.underway.sameNetworks
  intro n hn q hq other hother
  rw [hloses.amended.carrier hsound (fun _ => Port.release_networkId _ _ _)] at hq
  obtain ⟨q₀, hq₀, rfl⟩ := Option.map_eq_some_iff.mp hq
  have hbefore : q₀.hasSubnet other := by
    unfold onPort at hother
    split at hother
    · exact ((q₀.hasSubnet_release _ _ _).mp hother).1
    · exact hother
  rcases h.cleared n hn q₀ hq₀ other hbefore with hwanted | hkeeps | ⟨entry, hentry, heq⟩
  · exact .inl hwanted
  · exact .inr (.inl hkeeps)
  · rcases List.mem_cons.mp hentry with rfl | hentry
    · -- the port is the one that the entry names, so it has kept the addresses
      have hon := hsame.registered.mp (hsound.registered (carrier_mem hq₀) hbefore)
      rw [← heq] at hon
      rw [hon.unique hregistered, hr] at hq₀
      cases hq₀
      rw [onPort, if_pos hrid] at hother
      have hstays := ((r.hasSubnet_release _ _ _).mp hother).2
      have hkeeps := hstays.resolve_right fun hne => hne heq.symm
      rw [hsame.keepsAddresses, heq] at hkeeps
      exact .inr (.inl hkeeps)
    · exact .inr (.inr ⟨entry, hentry, heq⟩)

theorem deleted (h : plan.DeletingSubnets amphora (change :: rest) changed run)
    {changed' : ChangedPorts}
    (hend : Delta.SubnetDeleted changed change run.state changed' run'.state) :
    plan.DeletingSubnets amphora rest changed' run' := by
  have hentry := h.entries change List.mem_cons_self
  have hadd := h.advancing
  obtain ⟨hunderway, hcounted⟩ := hadd.underway.subnetDeleted hadd.counted hentry hend
  cases hend with
  | unnamed hport hchanged hstate =>
    obtain ⟨subnetId, networkId, p₀, -, -, -, -, rfl⟩ := mem_deleteSubnets.mp hentry
    cases hport
  | lost id p q hid hloses hmatches hchanged hrecords =>
    have hthrifty : plan.Thrifty run'.state.substrate := by
      refine hadd.thrifty.same hloses.spends fun other hreaches => ?_
      have hwanted : plan.wanted.subnets.contains other := by
        obtain ⟨n, -, hget, -⟩ := hreaches
        exact IdMap.contains_iff.mpr ⟨n, hget⟩
      exact h.reaches_of_loses hloses hwanted hreaches
    constructor
    · exact hadd.amended hloses.amended (fun _ => Port.release_networkId _ _ _) hrecords
        hloses.sameNetworks hunderway hcounted hthrifty
    · exact fun other hother => h.entries other (List.mem_cons_of_mem _ hother)
    · exact fun other hother => h.reaches_of_loses hloses hother (h.reached other hother)
    · exact h.cleared_of_loses hid hloses

end DeletingSubnets

/-- A subnet that is not to be reached was carried in the beginning already, by the same port. -/
theorem Underway.unwanted_carried {gone : List String} (h : plan.Underway gone s)
    {networkId subnetId : String} (hmanagement : networkId ∉ plan.management)
    (hgone : networkId ∉ gone) {p : Port} (hp : s.carrier plan.computeId networkId = some p)
    (hsubnet : p.hasSubnet subnetId) (hnone : plan.wanted.subnets.get? subnetId = none) :
    ∃ p₀, plan.start.carrier plan.computeId networkId = some p₀ ∧ p₀.id = p.id ∧
      p₀.hasSubnet subnetId := by
  have hunwanted : plan.wanted.subnets.get? subnetId ≠ some networkId := by simp [hnone]
  cases hp₀ : plan.start.carrier plan.computeId networkId with
  | none =>
    exact absurd (h.added networkId hmanagement (carrier_eq_none.mp hp₀) p (carrier_mem hp)
      subnetId hsubnet) hunwanted
  | some p₀ =>
    obtain ⟨q, hq, hpq⟩ := h.carrier hmanagement hgone hp₀
    rw [hp] at hq
    cases hq
    exact ⟨p₀, rfl, hpq.id.symm, (hpq.gained subnetId hsubnet).resolve_right hunwanted⟩

theorem ends_deleteSubnets_complete (hplan : plan.Attainable) (h : plan.Advancing changed run)
    (hreached : plan.Reached run.state.substrate) :
    Action.Ends ((plan.delta amphora).deleteSubnets.foldlM Delta.deleteSubnet changed) run
      (fun changed' run' => plan.Advancing changed' run' ∧
        plan.Reached run'.state.substrate ∧ plan.Cleared run'.state.substrate [])
      fun _ _ => False := by
  have hbegin : plan.DeletingSubnets amphora (plan.delta amphora).deleteSubnets changed run := by
    refine ⟨h, fun change hchange => hchange, hreached, ?_⟩
    intro n hn p hp subnetId hsubnet
    by_cases hwanted : plan.wanted.subnets.contains subnetId
    · exact .inl hwanted
    have hmanagement := hplan.unmanaged n hn
    have hnone : plan.wanted.subnets.get? subnetId = none := by
      rwa [← IdMap.contains_eq_false_iff, ← Bool.not_eq_true]
    obtain ⟨p₀, hp₀, -, hold⟩ := h.underway.unwanted_carried hmanagement List.not_mem_nil hp
      hsubnet hnone
    exact .inr (.inr ⟨_, mem_deleteSubnets.mpr ⟨subnetId, n, p₀, hmanagement, hp₀, hold, hnone,
      rfl⟩, rfl⟩)
  refine (Ends.foldlM ?_ _ _ _ hbegin).imp_ok ?_
  · intro change rest changed run h
    apply (Delta.ends_deleteSubnet changed change run).mono
    · exact fun changed' run' hend => h.deleted hend
    · exact fun e run' hend => hend.2 h.deletable
  · exact fun changed run h => ⟨h.advancing, h.reached, h.cleared⟩

/-! Networks that are given up -/

/-- The interfaces in `rest` are still to be removed, whatever is counted as changed. -/
structure DeletingNics (plan : Plan) (amphora : Amphora) (rest : List Interface)
    (_ : ChangedPorts) (run : Run Deployment) : Prop where
  entries : ∀ nic ∈ rest, nic ∈ (plan.delta amphora).deleteNics
  nodup : (rest.map (·.networkId)).Nodup
  underway : ∃ gone, plan.GivenUp gone rest ∧ plan.Underway gone run.state.substrate
  capable : run.state.Capable
  instances : plan.start.KeepsInstances run.state.substrate
  thrifty : plan.Thrifty run.state.substrate
  reached : plan.Reached run.state.substrate
  cleared : plan.Cleared run.state.substrate []
  given_up : ∀ networkId, networkId ∉ plan.management → networkId ∉ plan.wanted.networks →
    run.state.substrate.portsOn plan.computeId networkId = [] ∨
      ∃ nic ∈ rest, nic.networkId = networkId

/-- The port that an entry names is on the network that is to be given up, and is still there. -/
theorem Underway.port_of_deleteNic {gone : List String} {nic : Interface}
    (h : plan.Underway gone s) (hnic : nic ∈ (plan.delta amphora).deleteNics)
    (hgone : nic.networkId ∉ gone) {id : String} (hid : nic.portId = some id) {p : Port}
    (hp : s.ports.get? id = some p) : p.networkId = nic.networkId := by
  obtain ⟨networkId, p₀, hmanagement, -, hp₀, rfl⟩ := mem_deleteNics.mp hnic
  have hnet : p₀.networkId = networkId := carrier_networkId hp₀
  subst hnet
  cases hid
  obtain ⟨q, hq, hpq⟩ := h.carrier hmanagement hgone hp₀
  obtain ⟨hon, -⟩ := h.sound.carrier_apart h.exclusive hq
  rw [hpq.id] at hon
  exact hon p hp

theorem not_wanted_of_mem_deleteNics {nic : Interface}
    (hnic : nic ∈ (plan.delta amphora).deleteNics) : nic.networkId ∉ plan.wanted.networks := by
  obtain ⟨networkId, p, -, hunwanted, hp, rfl⟩ := mem_deleteNics.mp hnic
  rwa [Delta.staleNic, Port.toInterface, carrier_networkId hp]

theorem DeletingNics.deleted {nic : Interface} {rest : List Interface} (hplan : plan.Attainable)
    (h : plan.DeletingNics amphora (nic :: rest) changed run) (changed' : ChangedPorts)
    (hend : Delta.NicDeleted plan.computeId nic run.state run'.state) :
    plan.DeletingNics amphora rest changed' run' := by
  obtain ⟨gone, hgone, hunderway⟩ := h.underway
  have hnic := h.entries nic List.mem_cons_self
  have hnew := hgone.done nic List.mem_cons_self
  have hunwanted := not_wanted_of_mem_deleteNics hnic
  have hnodup := h.nodup
  rw [List.map_cons, List.nodup_cons] at hnodup
  have hother : ∀ n, n ≠ nic.networkId → run'.state.substrate.portsOn plan.computeId n =
      run.state.substrate.portsOn plan.computeId n := by
    intro n hn
    exact hend.removal.portsOn_of_ne hunderway.sound hunderway.exclusive hn
      fun id hid p hp => hunderway.port_of_deleteNic hnic hnew hid hp
  have hcarrier : ∀ n ∈ plan.wanted.networks, run'.state.substrate.carrier plan.computeId n =
      run.state.substrate.carrier plan.computeId n := by
    intro n hn
    refine carrier_congr (hother n ?_)
    intro h
    subst h
    exact hunwanted hn
  have hkept : ∀ id, plan.Reaches run.state.substrate id →
      plan.Reaches run'.state.substrate id := by
    intro id hreaches
    obtain ⟨n, p, hget, hp, hsubnet⟩ := hreaches
    have hwanted := Topology.mem_networks.mpr ⟨id, hget⟩
    exact ⟨n, p, hget, (hcarrier n hwanted).trans hp, hsubnet⟩
  constructor
  case entries => exact fun n hn => h.entries n (List.mem_cons_of_mem _ hn)
  case nodup => exact hnodup.2
  case underway => exact ⟨_, hgone.step hnic h.nodup, (hunderway.nicDeleted hnic hnew hend).1⟩
  case capable => exact h.capable.nicDeleted hend
  case instances => exact fun c hc => hend.removal.keepsInstances c (h.instances c hc)
  case thrifty => exact h.thrifty.same hend.removal.spends hkept
  case reached => exact fun id hid => hkept id (h.reached id hid)
  case cleared =>
    intro n hn p hp
    rw [hcarrier n hn] at hp
    exact h.cleared n hn p hp
  case given_up =>
    intro n hmanagement hn
    by_cases hne : n = nic.networkId
    · subst hne
      refine .inl (hend.removal.portsOn_eq_nil hunderway.sound h.capable.faults ?_)
      exact h.instances _ hplan.plugged
    · rw [hother n hne]
      refine (h.given_up n hmanagement hn).imp_right fun hleft => ?_
      obtain ⟨nic', hnic', heq⟩ := hleft
      rcases List.mem_cons.mp hnic' with rfl | hnic'
      · exact absurd heq.symm hne
      · exact ⟨nic', hnic', heq⟩

/-! The whole delta -/

/-- The delta was applied to its end. -/
structure Completed (plan : Plan) (run : Run Deployment) : Prop where
  followed : plan.Followed run.state.substrate
  capable : run.state.Capable
  instances : plan.start.KeepsInstances run.state.substrate
  thrifty : plan.Thrifty run.state.substrate
  reached : plan.Reached run.state.substrate
  cleared : plan.Cleared run.state.substrate []
  given_up : ∀ networkId, networkId ∉ plan.management → networkId ∉ plan.wanted.networks →
    run.state.substrate.portsOn plan.computeId networkId = []

theorem ends_deleteNics_complete (hplan : plan.Attainable)
    (hinstance : amphora.instanceId = plan.computeId) (h : plan.Advancing changed run)
    (hreached : plan.Reached run.state.substrate)
    (hcleared : plan.Cleared run.state.substrate []) :
    Action.Ends ((plan.delta amphora).deleteNics.foldlM (Delta.deleteNic amphora) changed) run
      (fun _ run' => plan.Completed run') fun _ _ => False := by
  have hbegin : plan.DeletingNics amphora (plan.delta amphora).deleteNics changed run := by
    refine ⟨fun nic hnic => hnic, Delta.deleteNics_nodup, ⟨[], .nil, h.underway⟩, h.capable,
      h.instances, h.thrifty, hreached, hcleared, ?_⟩
    intro n hmanagement hn
    cases hp : plan.start.carrier plan.computeId n with
    | none => exact .inl (h.absent n hn (carrier_eq_none.mp hp))
    | some p => exact .inr ⟨_, mem_deleteNics.mpr ⟨n, p, hmanagement, hn, hp, rfl⟩,
        carrier_networkId hp⟩
  refine (Ends.foldlM ?_ _ _ _ hbegin).imp_ok ?_
  · intro nic rest changed run h
    apply (Delta.ends_deleteNic amphora changed nic run).mono
    · intro changed' run' hend
      exact h.deleted hplan changed' (hinstance ▸ hend.2)
    · exact fun e run' hend => hend.2 h.capable.harmless
  · intro changed run h
    obtain ⟨gone, hgone, hunderway⟩ := h.underway
    refine ⟨⟨gone, hgone, hunderway⟩, h.capable, h.instances, h.thrifty, h.reached, h.cleared, ?_⟩
    intro n hmanagement hn
    refine (h.given_up n hmanagement hn).resolve_right ?_
    intro hleft
    obtain ⟨nic, hnic, -⟩ := hleft
    cases hnic

/-- With nothing in the way, applying the delta of a plan succeeds and completes the plan. -/
theorem ends_apply_complete (hplan : plan.Attainable)
    (hc : amphora.computeId = some plan.computeId) (hstart : run.state.substrate = plan.start)
    (hcapable : run.state.Capable) :
    Action.Ends ((plan.delta amphora).apply amphora) run (fun _ run' => plan.Completed run')
      fun _ _ => False := by
  have hinstance := Amphora.instanceId_eq hc
  refine (ends_addNics_complete hplan hc hstart hcapable).bind ?_ (fun e t h => h)
  intro changed₁ run₁ hend
  obtain ⟨h₁, huncounted, hcarried⟩ := hend
  refine (ends_addSubnets_complete hplan h₁ huncounted hcarried).bind ?_ (fun e t h => h)
  intro changed₂ run₂ hend
  obtain ⟨h₂, hreached⟩ := hend
  refine (ends_deleteSubnets_complete hplan h₂ hreached).bind ?_ (fun e t h => h)
  intro changed₃ run₃ hend
  obtain ⟨h₃, hreached₃, hcleared⟩ := hend
  refine (ends_deleteNics_complete hplan hinstance h₃ hreached₃ hcleared).bind ?_
    (fun e t h => h)
  exact fun changed₄ run₄ h₄ => ends_pure h₄

end Plan

end AmphoraWiring
