import AmphoraWiring.Proofs.Saga.Applying
import AmphoraWiring.Proofs.Saga.Capability

/-!
When nothing stands in the way, the additions of a delta come to their end. Through each of the two
phases the invariant says what is left to be done by the entries that are left: first every network
to be reached gets a port, then every subnet to be reached an address there. At most one address is
handed out on a subnet, and only if it was missing.
-/
namespace AmphoraWiring

open Action Substrate Deployment

namespace Plan

/-- The subnet is to be reached, and no port reaches it yet. -/
def Missing (plan : Plan) (subnetId : String) : Prop :=
  (∃ networkId, plan.wanted.subnets.get? subnetId = some networkId) ∧
    ∀ n, ¬ plan.start.Reached plan.management plan.computeId subnetId n

/-- The subnet is to be reached by a network, and it is. -/
def Reaches (plan : Plan) (s : Substrate) (subnetId : String) : Prop :=
  ∃ networkId p, plan.wanted.subnets.get? subnetId = some networkId ∧
    s.carrier plan.computeId networkId = some p ∧ p.hasSubnet subnetId

/-- Nothing stands in the way of the plan. -/
structure Attainable (plan : Plan) : Prop where
  unmanaged : ∀ networkId ∈ plan.wanted.networks, networkId ∉ plan.management
  registered : ∀ {subnetId networkId}, plan.wanted.subnets.get? subnetId = some networkId →
    plan.start.Registered subnetId networkId
  networked : ∀ networkId ∈ plan.wanted.networks,
    ∃ network, plan.start.networks.get? networkId = some network
  plugged : plan.start.plugged.contains plan.computeId
  room : ∀ subnetId, plan.Missing subnetId → plan.start.Room subnetId 1

/-- One address was handed out at most, on a subnet that was missing and is reached now. -/
def Thrifty (plan : Plan) (s : Substrate) : Prop :=
  ∀ subnetId, plan.start.allocated subnetId ≤ s.allocated subnetId ∧
    (s.allocated subnetId ≤ plan.start.allocated subnetId ∨
      plan.Missing subnetId ∧ plan.Reaches s subnetId ∧
        s.allocated subnetId ≤ plan.start.allocated subnetId + 1)

variable {plan : Plan} {s t : Substrate} {changed : ChangedPorts} {amphora : Amphora}
  {run run' : Run Deployment}

theorem thrifty_start (plan : Plan) : plan.Thrifty plan.start :=
  fun _ => ⟨Nat.le_refl _, .inl (Nat.le_refl _)⟩

/-- Handing out no address is thrifty as long as what is reached stays reached. -/
theorem Thrifty.same (h : plan.Thrifty s) (hspends : s.Spends t [])
    (hkept : ∀ id, plan.Reaches s id → plan.Reaches t id) : plan.Thrifty t := by
  intro id
  obtain ⟨hlow, hhigh⟩ := h id
  obtain ⟨hmore, hless⟩ := hspends id
  rw [List.count_nil] at hless
  refine ⟨by omega, ?_⟩
  rcases hhigh with hhigh | ⟨hmissing, hreaches, hhigh⟩
  · exact .inl (by omega)
  · exact .inr ⟨hmissing, hkept id hreaches, by omega⟩

/-- So is handing out one where it was missing. -/
theorem Thrifty.one (h : plan.Thrifty s) {subnetId : String} (hspends : s.Spends t [subnetId])
    (hkept : ∀ id, plan.Reaches s id → plan.Reaches t id) (hmissing : plan.Missing subnetId)
    (hbefore : ¬ plan.Reaches s subnetId) (hafter : plan.Reaches t subnetId) :
    plan.Thrifty t := by
  intro id
  obtain ⟨hlow, hhigh⟩ := h id
  obtain ⟨hmore, hless⟩ := hspends id
  rw [List.count_singleton] at hless
  refine ⟨by omega, ?_⟩
  by_cases hid : id = subnetId
  · subst hid
    have hfew := hhigh.resolve_right fun h => hbefore h.2.1
    refine .inr ⟨hmissing, hafter, ?_⟩
    simp only [beq_self_eq_true, if_true] at hless
    omega
  · have hne : (subnetId == id) = false := by simpa using Ne.symm hid
    simp only [hne, Bool.false_eq_true, if_false] at hless
    rcases hhigh with hhigh | ⟨hmissing', hreaches, hhigh⟩
    · exact .inl (by omega)
    · exact .inr ⟨hmissing', hkept id hreaches, by omega⟩

/-- A subnet that is missing and not reached yet has room for one address. -/
theorem Thrifty.room (h : plan.Thrifty s) (hplan : plan.Attainable)
    (hsubnets : s.subnets = plan.start.subnets) {subnetId : String}
    (hmissing : plan.Missing subnetId) (hbefore : ¬ plan.Reaches s subnetId) :
    s.Room subnetId 1 := by
  obtain ⟨hlow, hhigh⟩ := h subnetId
  have hfew := hhigh.resolve_right fun h => hbefore h.2.1
  exact (hplan.room subnetId hmissing).later hsubnets hlow (by omega)

/-- The delta is being applied and nothing has stood in the way. -/
structure Advancing (plan : Plan) (changed : ChangedPorts) (run : Run Deployment) : Prop where
  underway : plan.Underway [] run.state.substrate
  counted : plan.Counted run.state.substrate changed
  capable : run.state.Capable
  instances : plan.start.KeepsInstances run.state.substrate
  absent : ∀ networkId ∉ plan.wanted.networks, plan.start.portsOn plan.computeId networkId = [] →
    run.state.substrate.portsOn plan.computeId networkId = []
  thrifty : plan.Thrifty run.state.substrate

/-- What is not counted as changed has not changed. -/
def Uncounted (plan : Plan) (s : Substrate) (changed : ChangedPorts) : Prop :=
  ∀ networkId, changed.get? networkId = none →
    s.portsOn plan.computeId networkId = plan.start.portsOn plan.computeId networkId

/-- Every network to be reached has a port from the start or one that is counted. -/
def Carried (plan : Plan) (changed : ChangedPorts) : Prop :=
  ∀ networkId ∈ plan.wanted.networks, (∃ p, plan.start.carrier plan.computeId networkId = some p) ∨
    ∃ q, changed.get? networkId = some q

/-! New interfaces -/

/-- The interfaces in `rest` are still to be added. -/
structure AddingNics (plan : Plan) (amphora : Amphora) (rest : List Interface)
    (changed : ChangedPorts) (run : Run Deployment) : Prop where
  advancing : plan.Advancing changed run
  uncounted : plan.Uncounted run.state.substrate changed
  entries : ∀ nic ∈ rest, nic ∈ (plan.delta amphora).addNics ∧ changed.get? nic.networkId = none
  nodup : (rest.map (·.networkId)).Nodup
  carried : ∀ networkId ∈ plan.wanted.networks,
    (∃ p, plan.start.carrier plan.computeId networkId = some p) ∨
      (∃ q, changed.get? networkId = some q) ∨ ∃ nic ∈ rest, nic.networkId = networkId

/-- The first of the subnets of a new interface is missing, and no other is asked for yet. -/
theorem portRequest_newNic (amphora : Amphora) {networkId : String}
    (hwanted : networkId ∈ plan.wanted.networks) :
    ∃ subnetId, plan.wanted.subnets.get? subnetId = some networkId ∧
      (Delta.portRequest amphora (Delta.newNic plan.wanted networkId)).fixedIps =
        [{ subnetId }] := by
  rcases hsubnets : plan.wanted.subnetsOn networkId with _ | ⟨subnetId, rest⟩
  · exact absurd hsubnets (Topology.subnetsOn_ne_nil hwanted)
  · have hmem : subnetId ∈ plan.wanted.subnetsOn networkId := by simp [hsubnets]
    refine ⟨subnetId, Topology.mem_subnetsOn.mp hmem, ?_⟩
    simp [Delta.portRequest, Delta.newNic, hsubnets]

/-- A network that is not attached reaches no subnet. -/
theorem missing_of_unattached (hplan : plan.Attainable) {subnetId networkId : String}
    (hwanted : plan.wanted.subnets.get? subnetId = some networkId)
    (hnil : plan.start.portsOn plan.computeId networkId = []) : plan.Missing subnetId := by
  refine ⟨⟨networkId, hwanted⟩, ?_⟩
  intro n hreached
  obtain ⟨-, p, hp, hsubnet⟩ := hreached
  have hon := (plan.sound.registered (carrier_mem hp) hsubnet).unique (hplan.registered hwanted)
  subst hon
  rw [carrier_eq_none.mpr hnil] at hp
  cases hp

/-- A subnet is not reached as long as its network carries no port. -/
theorem not_reaches_of_carrier {subnetId networkId : String}
    (hget : plan.wanted.subnets.get? subnetId = some networkId)
    (hcarrier : s.carrier plan.computeId networkId = none) : ¬ plan.Reaches s subnetId := by
  intro hreaches
  obtain ⟨n, p, hn, hp, -⟩ := hreaches
  rw [hget] at hn
  cases hn
  rw [hcarrier] at hp
  cases hp

/-- A new port takes the one address that it begins with. -/
theorem Thrifty.adopted (h : plan.Thrifty s) (hs : s.Sound) {request : PortRequest}
    {subnetId : String} {p : Port} (hadopts : s.Adopts t request plan.computeId p)
    (hips : request.fixedIps = [{ subnetId }])
    (hget : plan.wanted.subnets.get? subnetId = some request.networkId)
    (hmissing : plan.Missing subnetId)
    (hcarrier : s.carrier plan.computeId request.networkId = none) : plan.Thrifty t := by
  have hasked : request.fixedIps ≠ [] := by
    rw [hips]
    exact List.cons_ne_nil _ _
  have hspends := hadopts.spends hasked
  have hsubnets := hadopts.created.subnets hasked
  rw [hips, List.map_singleton] at hspends hsubnets
  refine h.one hspends ?_ hmissing (not_reaches_of_carrier hget hcarrier) ?_
  · intro id hreaches
    obtain ⟨n, r, hn, hr, hsubnet⟩ := hreaches
    have hne : n ≠ request.networkId := by
      intro heq
      rw [heq, hcarrier] at hr
      cases hr
    refine ⟨n, r, hn, ?_, hsubnet⟩
    rw [hadopts.carrier hs, if_neg hne, hr]
  · have hmem : subnetId ∈ p.fixedIps.map (·.subnetId) := by
      rw [hsubnets]
      exact List.mem_singleton_self _
    obtain ⟨ip, hip, heq⟩ := List.mem_map.mp hmem
    refine ⟨request.networkId, { p with deviceId := some plan.computeId }, hget, ?_,
      Port.hasSubnet_iff.mpr ⟨ip, hip, heq⟩⟩
    rw [hadopts.carrier hs, if_pos rfl]

/-- An interface on a network to be reached was added. -/
theorem Advancing.nicAdded (hplan : plan.Attainable) (h : plan.Advancing changed run)
    {nic : Interface} (hnic : nic ∈ (plan.delta amphora).addNics)
    (hinstance : amphora.instanceId = plan.computeId) {changed' : ChangedPorts} {p q : Port}
    (hend : Delta.NicAdded amphora nic changed run.state changed' run'.state plan.computeId p q)
    (hthrifty : plan.Thrifty run'.state.substrate) : plan.Advancing changed' run' := by
  have hwanted : nic.networkId ∈ plan.wanted.networks := by
    obtain ⟨networkId, hwanted, -, rfl⟩ := Delta.mem_addNics.mp hnic
    exact hwanted
  constructor
  case underway => exact h.underway.nicAdopted hnic hend.computeId hinstance hend.adopts
  case counted => exact h.counted.nicAdded h.underway hinstance hend
  case capable =>
    refine h.capable.nicAdded hend ?_
    rw [h.underway.sameNetworks.networks]
    exact hplan.networked nic.networkId hwanted
  case instances => exact fun c hc => hend.adopts.keepsInstances c (h.instances c hc)
  case absent =>
    intro n hn hnil
    have hne : n ≠ nic.networkId := fun heq => hn (heq ▸ hwanted)
    rw [hend.adopts.portsOn h.underway.sound, if_neg fun hboth => hne hboth.2]
    exact h.absent n hn hnil
  case thrifty => exact hthrifty

namespace AddingNics

variable {nic : Interface} {rest : List Interface}

/-- The next interface is one on a network that is not attached, with one subnet to begin with. -/
theorem next (hplan : plan.Attainable) (h : plan.AddingNics amphora (nic :: rest) changed run) :
    nic.networkId ∈ plan.wanted.networks ∧
      run.state.substrate.carrier plan.computeId nic.networkId = none ∧
      ∃ subnetId, plan.wanted.subnets.get? subnetId = some nic.networkId ∧
        (Delta.portRequest amphora nic).fixedIps = [{ subnetId }] ∧ plan.Missing subnetId := by
  obtain ⟨hnic, hcount⟩ := h.entries nic List.mem_cons_self
  obtain ⟨networkId, hwanted, hfree, rfl⟩ := Delta.mem_addNics.mp hnic
  have hnil := hfree.resolve_left (hplan.unmanaged networkId hwanted)
  obtain ⟨subnetId, hget, hips⟩ := portRequest_newNic amphora hwanted
  have hports := h.uncounted networkId hcount
  exact ⟨hwanted, carrier_eq_none.mpr (hports.trans hnil), subnetId, hget, hips,
    missing_of_unattached hplan hget hnil⟩

theorem addable (hplan : plan.Attainable) (hc : amphora.computeId = some plan.computeId)
    (h : plan.AddingNics amphora (nic :: rest) changed run) :
    Delta.NicAddable amphora nic run.state := by
  obtain ⟨hwanted, hcarrier, subnetId, hget, hips, hmissing⟩ := h.next hplan
  have hsame := h.advancing.underway.sameNetworks
  have hroom := h.advancing.thrifty.room hplan hsame.subnets hmissing
    (not_reaches_of_carrier hget hcarrier)
  constructor
  · exact h.advancing.capable.faults
  · exact h.advancing.capable.harmless
  · constructor
    · rw [hsame.networks]
      exact hplan.networked nic.networkId hwanted
    · rw [hips]
      exact List.cons_ne_nil _ _
    · intro wish hwish
      rw [hips] at hwish ⊢
      rw [List.mem_singleton.mp hwish]
      exact ⟨hsame.registered.mpr (hplan.registered hget), hroom⟩
  · exact ⟨plan.computeId, hc, h.advancing.instances _ hplan.plugged⟩
  · exact h.advancing.capable.unbound _ (Nat.lt_succ_self _)

theorem added (hplan : plan.Attainable) (hinstance : amphora.instanceId = plan.computeId)
    (h : plan.AddingNics amphora (nic :: rest) changed run) {changed' : ChangedPorts}
    {c : String} {p q : Port}
    (hend : Delta.NicAdded amphora nic changed run.state changed' run'.state c p q) :
    plan.AddingNics amphora rest changed' run' := by
  have hc : c = plan.computeId := (Amphora.instanceId_eq hend.computeId).symm.trans hinstance
  subst hc
  obtain ⟨hwanted, hcarrier, subnetId, hget, hips, hmissing⟩ := h.next hplan
  have hsound := h.advancing.underway.sound
  have hthrifty := h.advancing.thrifty.adopted hsound hend.adopts hips hget hmissing hcarrier
  have hcounted : changed' = changed.insert nic.networkId q := by
    rw [hend.counted, hend.filled.networkId, hend.adopts.created.network]
    rfl
  have hnodup := h.nodup
  rw [List.map_cons, List.nodup_cons] at hnodup
  constructor
  case advancing =>
    exact h.advancing.nicAdded hplan (h.entries nic List.mem_cons_self).1 hinstance hend hthrifty
  case uncounted =>
    intro n hn
    rw [hcounted, IdMap.get?_insert] at hn
    split at hn
    · cases hn
    next hne =>
      rw [hend.adopts.portsOn hsound, if_neg fun hboth => hne hboth.2]
      exact h.uncounted n hn
  case entries =>
    intro nic' hnic'
    obtain ⟨hmem, hnone⟩ := h.entries nic' (List.mem_cons_of_mem _ hnic')
    have hne : nic'.networkId ≠ nic.networkId :=
      fun heq => hnodup.1 (List.mem_map.mpr ⟨nic', hnic', heq⟩)
    refine ⟨hmem, ?_⟩
    rw [hcounted, IdMap.get?_insert, if_neg hne, hnone]
  case nodup => exact hnodup.2
  case carried =>
    intro n hn
    rw [hcounted, IdMap.get?_insert]
    by_cases hne : n = nic.networkId
    · rw [if_pos hne]
      exact .inr (.inl ⟨q, rfl⟩)
    · rw [if_neg hne]
      rcases h.carried n hn with hstart | hcount | ⟨nic', hnic', heq⟩
      · exact .inl hstart
      · exact .inr (.inl hcount)
      · rcases List.mem_cons.mp hnic' with rfl | hnic'
        · exact absurd heq.symm hne
        · exact .inr (.inr ⟨nic', hnic', heq⟩)

end AddingNics

theorem advancing_start (hstart : run.state.substrate = plan.start)
    (hcapable : run.state.Capable) : plan.Advancing .empty run := by
  constructor
  case underway => exact hstart ▸ plan.underway_start
  case counted => exact plan.counted_empty _
  case capable => exact hcapable
  case instances =>
    rw [hstart]
    exact fun _ hc => hc
  case absent =>
    intro n _ hnil
    rw [hstart]
    exact hnil
  case thrifty => exact hstart ▸ plan.thrifty_start

theorem ends_addNics_complete (hplan : plan.Attainable)
    (hc : amphora.computeId = some plan.computeId) (hstart : run.state.substrate = plan.start)
    (hcapable : run.state.Capable) :
    Action.Ends ((plan.delta amphora).addNics.foldlM (Delta.addNic amphora) .empty) run
      (fun changed run' => plan.Advancing changed run' ∧
        plan.Uncounted run'.state.substrate changed ∧ plan.Carried changed)
      fun _ _ => False := by
  have hinstance := Amphora.instanceId_eq hc
  have hbegin : plan.AddingNics amphora (plan.delta amphora).addNics .empty run := by
    refine ⟨advancing_start hstart hcapable, ?_, fun nic hnic => ⟨hnic, rfl⟩,
      Delta.addNics_nodup _, ?_⟩
    · intro n _
      rw [hstart]
    · intro n hn
      cases hcarrier : plan.start.carrier plan.computeId n with
      | some p => exact .inl ⟨p, rfl⟩
      | none =>
        have hnic : Delta.newNic plan.wanted n ∈ (plan.delta amphora).addNics :=
          Delta.mem_addNics.mpr ⟨n, hn, .inr (carrier_eq_none.mp hcarrier), rfl⟩
        exact .inr (.inr ⟨_, hnic, rfl⟩)
  refine (Ends.foldlM ?_ _ _ _ hbegin).imp_ok ?_
  · intro nic rest changed run h
    apply (Delta.ends_addNic amphora changed nic run).mono
    · intro changed' run' hend
      obtain ⟨c, p, q, hend⟩ := hend
      exact h.added hplan hinstance hend
    · intro e run' hend
      exact hend.2 (h.addable hplan hc)
  · intro changed run' h
    refine ⟨h.advancing, h.uncounted, fun n hn => ?_⟩
    rcases h.carried n hn with hstart | hcount | ⟨nic, hnic, -⟩
    · exact .inl hstart
    · exact .inr hcount
    · cases hnic

/-! Subnets -/

/-- What is reached stays reached when a port changes in place and keeps such subnets. -/
theorem Reaches.amended {subnetId id : String} {f : Port → Port} (h : plan.Reaches s subnetId)
    (hs : s.Sound) (hamended : s.Amended t id f) (hnet : ∀ p, (f p).networkId = p.networkId)
    (hkept : ∀ q, q.hasSubnet subnetId → (f q).hasSubnet subnetId) :
    plan.Reaches t subnetId := by
  obtain ⟨networkId, p, hget, hp, hsubnet⟩ := h
  refine ⟨networkId, onPort id f p, hget, ?_, ?_⟩
  · rw [hamended.carrier hs hnet, hp, Option.map_some]
  · unfold onPort
    split
    · exact hkept p hsubnet
    · exact hsubnet

theorem portsOn_eq_nil_of_amended {id : String} {f : Port → Port} (hs : s.Sound)
    (hamended : s.Amended t id f) (hnet : ∀ p, (f p).networkId = p.networkId)
    {networkId : String} (h : s.portsOn plan.computeId networkId = []) :
    t.portsOn plan.computeId networkId = [] := by
  rw [hamended.portsOn hs hnet, h, List.map_nil]

/-- The details of a port that is there can be filled in. -/
theorem Advancing.fillable (h : plan.Advancing changed run) {p : Port}
    (hp : run.state.substrate.ports.get? p.id = some p) :
    Fillable run.state.substrate p := by
  constructor
  · exact h.capable.networked hp
  · exact fun ip hip => ⟨p.networkId, h.underway.sound.on_network hp hip⟩

theorem Advancing.amended {changed' : ChangedPorts} {id : String} {f : Port → Port}
    (h : plan.Advancing changed run)
    (hamended : run.state.substrate.Amended run'.state.substrate id f)
    (hnet : ∀ p, (f p).networkId = p.networkId) (hrecords : run.state.SameRecords run'.state)
    (hsame : run.state.substrate.SameNetworks run'.state.substrate)
    (hunderway : plan.Underway [] run'.state.substrate)
    (hcounted : plan.Counted run'.state.substrate changed')
    (hthrifty : plan.Thrifty run'.state.substrate) : plan.Advancing changed' run' := by
  constructor
  case underway => exact hunderway
  case counted => exact hcounted
  case capable => exact h.capable.amended hamended hsame hnet hrecords
  case instances => exact fun c hc => hamended.keepsInstances c (h.instances c hc)
  case absent =>
    intro n hn hnil
    exact portsOn_eq_nil_of_amended h.underway.sound hamended hnet (h.absent n hn hnil)
  case thrifty => exact hthrifty

/-- Counting a network in once its carrier changed leaves the others uncounted as they were. -/
theorem Uncounted.amended {networkId : String} {f : Port → Port} {r q : Port}
    (h : plan.Uncounted s changed) (hs : s.Sound) (hx : s.Exclusive)
    (hr : s.carrier plan.computeId networkId = some r) (hamended : s.Amended t r.id f)
    (hnet : ∀ p, (f p).networkId = p.networkId) :
    plan.Uncounted t (changed.insert networkId q) := by
  intro n hn
  rw [IdMap.get?_insert] at hn
  split at hn
  · cases hn
  next hne =>
    refine (hamended.portsOn_eq_self hs hnet fun p hp heq => ?_).trans (h n hn)
    obtain ⟨hon, -⟩ := hs.carrier_apart hx hr
    obtain ⟨-, hget, hpnet⟩ := hs.mem_portsOn.mp hp
    rw [heq] at hget
    exact hne (hpnet.symm.trans (hon p hget))

theorem Carried.insert (h : plan.Carried changed) (networkId : String) (q : Port) :
    plan.Carried (changed.insert networkId q) := by
  intro n hn
  refine (h n hn).imp_right fun hcount => ?_
  rw [IdMap.get?_insert]
  split
  · exact ⟨q, rfl⟩
  · exact hcount

/-- The subnets in `rest` are still to be added. -/
structure AddingSubnets (plan : Plan) (amphora : Amphora) (rest : List SubnetChange)
    (changed : ChangedPorts) (run : Run Deployment) : Prop where
  advancing : plan.Advancing changed run
  uncounted : plan.Uncounted run.state.substrate changed
  carried : plan.Carried changed
  entries : ∀ change ∈ rest, change ∈ (plan.delta amphora).addSubnets
  reached : ∀ subnetId, plan.wanted.subnets.contains subnetId →
    plan.Reaches run.state.substrate subnetId ∨ ∃ change ∈ rest, change.subnetId = subnetId

namespace AddingSubnets

variable {change : SubnetChange} {rest : List SubnetChange}

/-- A subnet that is not counted yet is not reached, so there is an address for it. -/
theorem not_reaches (hplan : plan.Attainable)
    (h : plan.AddingSubnets amphora (change :: rest) changed run)
    (habsent : ∀ q, changed.get? change.networkId = some q → ¬ q.hasSubnet change.subnetId) :
    plan.Missing change.subnetId ∧ ¬ plan.Reaches run.state.substrate change.subnetId := by
  obtain ⟨subnetId, networkId, hget, hmissing, rfl⟩ :=
    mem_addSubnets.mp (h.entries change List.mem_cons_self)
  refine ⟨⟨⟨networkId, hget⟩, hmissing⟩, ?_⟩
  intro hreaches
  obtain ⟨n, p, hn, hp, hsubnet⟩ := hreaches
  rw [hget] at hn
  cases hn
  cases hcount : changed.get? networkId with
  | some q =>
    obtain ⟨-, ⟨r, hr, -, hsame⟩, -⟩ := h.advancing.counted networkId q hcount
    rw [hp] at hr
    cases hr
    exact habsent q hcount ((hsame subnetId).mpr hsubnet)
  | none =>
    have hmanagement := hplan.unmanaged networkId (Topology.mem_networks.mpr ⟨subnetId, hget⟩)
    have hold := carrier_congr (h.uncounted networkId hcount)
    exact hmissing networkId ⟨hmanagement, p, hold.symm.trans hp, hsubnet⟩

theorem addable (hplan : plan.Attainable)
    (h : plan.AddingSubnets amphora (change :: rest) changed run) :
    Delta.SubnetAddable changed change run.state := by
  have hentry := h.entries change List.mem_cons_self
  have hunderway := h.advancing.underway
  constructor
  · exact h.advancing.capable.faults
  · obtain ⟨subnetId, networkId, hget, -, rfl⟩ := mem_addSubnets.mp hentry
    have hwanted := Topology.mem_networks.mpr ⟨subnetId, hget⟩
    have hmanagement := hplan.unmanaged networkId hwanted
    unfold SubnetChange.target Delta.namedPort
    rw [if_neg hmanagement]
    rcases h.carried networkId hwanted with ⟨p, hp⟩ | ⟨q, hq⟩
    · exact ⟨p.id, by simp [hp]⟩
    · cases plan.start.carrier plan.computeId networkId with
      | some p => exact ⟨p.id, rfl⟩
      | none => exact ⟨q.id, by simp [hq]⟩
  · intro habsent id htarget
    obtain ⟨p, hp, rfl, -⟩ := hunderway.target h.advancing.counted hentry htarget
    obtain ⟨hmissing, hbefore⟩ := h.not_reaches hplan habsent
    have hport := (hunderway.sound.carrier_get? hp).2
    refine ⟨p, hport, ⟨?_, ?_⟩, h.advancing.fillable hport⟩
    · obtain ⟨subnetId, networkId, hget, -, rfl⟩ := mem_addSubnets.mp hentry
      rw [carrier_networkId hp]
      exact hunderway.sameNetworks.registered.mpr (hplan.registered hget)
    · exact h.advancing.thrifty.room hplan hunderway.sameNetworks.subnets hmissing hbefore

/-- Once the subnet of the next entry is reached, what is not reached yet is left to the others. -/
theorem reached_next (h : plan.AddingSubnets amphora (change :: rest) changed run)
    (hkept : ∀ subnetId, plan.Reaches run.state.substrate subnetId → plan.Reaches t subnetId)
    (hafter : plan.Reaches t change.subnetId) (subnetId : String)
    (hwanted : plan.wanted.subnets.contains subnetId) :
    plan.Reaches t subnetId ∨ ∃ other ∈ rest, other.subnetId = subnetId := by
  rcases h.reached subnetId hwanted with hreached | ⟨other, hother, rfl⟩
  · exact .inl (hkept subnetId hreached)
  · rcases List.mem_cons.mp hother with rfl | hother
    · exact .inl hafter
    · exact .inr ⟨other, hother, rfl⟩

/-- The port that gained the subnet of the next entry is the carrier of its network. -/
theorem reaches_of_gains (h : plan.AddingSubnets amphora (change :: rest) changed run) {id : String}
    {p : Port} {ips : List FixedIp} (htarget : change.target changed = some id)
    (hgains : run.state.substrate.Gains t id change.subnetId p ips) :
    plan.Reaches t change.subnetId := by
  have hentry := h.entries change List.mem_cons_self
  have hunderway := h.advancing.underway
  obtain ⟨r, hr, hrid, -⟩ := hunderway.target h.advancing.counted hentry htarget
  have hport := (hunderway.sound.carrier_get? hr).2
  rw [hrid, hgains.port] at hport
  cases hport
  obtain ⟨subnetId, networkId, hget, -, rfl⟩ := mem_addSubnets.mp hentry
  refine ⟨networkId, p.addIps ips, hget, ?_, hgains.present⟩
  rw [hgains.amended.carrier hunderway.sound (fun _ => rfl), hr, Option.map_some, onPort,
    if_pos hrid]

theorem added (hplan : plan.Attainable)
    (h : plan.AddingSubnets amphora (change :: rest) changed run) {changed' : ChangedPorts}
    (hend : Delta.SubnetAdded changed change run.state changed' run'.state) :
    plan.AddingSubnets amphora rest changed' run' := by
  have hentry := h.entries change List.mem_cons_self
  have hadd := h.advancing
  obtain ⟨hunderway, hcounted⟩ := hadd.underway.subnetAdded hadd.counted hentry hend
  have hrest : ∀ other ∈ rest, other ∈ (plan.delta amphora).addSubnets :=
    fun other hother => h.entries other (List.mem_cons_of_mem _ hother)
  cases hend with
  | present q hport hsubnet hchanged hstate =>
    have hrun : run'.state.substrate = run.state.substrate := by rw [hstate]
    subst hchanged
    have hafter : plan.Reaches run.state.substrate change.subnetId := by
      obtain ⟨-, ⟨p, hp, -, hsame⟩, -⟩ := hadd.counted change.networkId q hport
      obtain ⟨subnetId, networkId, hget, -, rfl⟩ := mem_addSubnets.mp hentry
      exact ⟨networkId, p, hget, hp, (hsame subnetId).mp hsubnet⟩
    constructor
    case advancing =>
      exact ⟨hunderway, hcounted, hstate ▸ hadd.capable, hrun ▸ hadd.instances,
        hrun ▸ hadd.absent, hrun ▸ hadd.thrifty⟩
    case uncounted => exact hrun ▸ h.uncounted
    case carried => exact h.carried
    case entries => exact hrest
    case reached => exact hrun ▸ h.reached_next (fun _ h => h) hafter
  | gained id p ips q htarget hgains hmatches hchanged hrecords habsent =>
    obtain ⟨hmissing, hbefore⟩ := h.not_reaches hplan habsent
    obtain ⟨r, hr, rfl, -⟩ := hadd.underway.target hadd.counted hentry htarget
    have hamended := hgains.amended
    have hnet : ∀ p : Port, (p.addIps ips).networkId = p.networkId := fun _ => rfl
    have hkept : ∀ other, plan.Reaches run.state.substrate other →
        plan.Reaches run'.state.substrate other := by
      intro other hreaches
      refine hreaches.amended hadd.underway.sound hamended hnet fun q hq => ?_
      exact (q.hasSubnet_addIps ips other).mpr (.inl hq)
    have hafter := h.reaches_of_gains htarget hgains
    have hthrifty := hadd.thrifty.one hgains.spends hkept hmissing hbefore hafter
    subst hchanged
    constructor
    case advancing =>
      exact hadd.amended hamended hnet hrecords hgains.sameNetworks hunderway hcounted hthrifty
    case uncounted =>
      exact h.uncounted.amended hadd.underway.sound hadd.underway.exclusive hr hamended hnet
    case carried => exact h.carried.insert change.networkId q
    case entries => exact hrest
    case reached => exact h.reached_next hkept hafter

end AddingSubnets

/-- All that is to be reached is reached. -/
def Reached (plan : Plan) (s : Substrate) : Prop :=
  ∀ subnetId, plan.wanted.subnets.contains subnetId → plan.Reaches s subnetId

theorem ends_addSubnets_complete (hplan : plan.Attainable) (h : plan.Advancing changed run)
    (huncounted : plan.Uncounted run.state.substrate changed) (hcarried : plan.Carried changed) :
    Action.Ends ((plan.delta amphora).addSubnets.foldlM Delta.addSubnet changed) run
      (fun changed' run' => plan.Advancing changed' run' ∧ plan.Reached run'.state.substrate)
      fun _ _ => False := by
  have hbegin : plan.AddingSubnets amphora (plan.delta amphora).addSubnets changed run := by
    refine ⟨h, huncounted, hcarried, fun change hchange => hchange, ?_⟩
    intro subnetId hwanted
    obtain ⟨networkId, hget⟩ := IdMap.contains_iff.mp hwanted
    by_cases hmissing : ∀ n, ¬ plan.start.Reached plan.management plan.computeId subnetId n
    · exact .inr ⟨_, mem_addSubnets.mpr ⟨subnetId, networkId, hget, hmissing, rfl⟩, rfl⟩
    · rw [not_forall] at hmissing
      obtain ⟨n, hreached⟩ := hmissing
      rw [not_not] at hreached
      obtain ⟨hmanagement, p, hp, hsubnet⟩ := hreached
      have hon : n = networkId := (plan.sound.registered (carrier_mem hp) hsubnet).unique
        (hplan.registered hget)
      subst hon
      obtain ⟨q, hq, hpq⟩ := h.underway.carrier hmanagement List.not_mem_nil hp
      exact .inl ⟨n, q, hget, hq, hpq.kept subnetId hsubnet (.inl hwanted)⟩
  refine (Ends.foldlM ?_ _ _ _ hbegin).imp_ok ?_
  · intro change rest changed run h
    apply (Delta.ends_addSubnet changed change run).mono
    · exact fun changed' run' hend => h.added hplan hend
    · exact fun e run' hend => hend.2 (h.addable hplan)
  · intro changed run h
    refine ⟨h.advancing, fun subnetId hwanted => ?_⟩
    refine (h.reached subnetId hwanted).resolve_right ?_
    intro hleft
    obtain ⟨change, hchange, -⟩ := hleft
    cases hchange

end Plan

end AmphoraWiring
