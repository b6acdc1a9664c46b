import AmphoraWiring.Proofs.Parallel.Guarantees
import AmphoraWiring.Proofs.Parallel.Links

/-!
Adding an interface beside another thread. The port is made, plugged in and recorded by calls of
their own, and in between it belongs to the share of its side although the instance does not list
it yet.
-/
namespace AmphoraWiring

open Action Substrate Deployment

namespace Substrate

variable {s t : Substrate} {request : PortRequest} {p : Port}

/-- `t` is `s` after a port was made on request; it is plugged in nowhere. -/
structure Makes (s t : Substrate) (request : PortRequest) (p : Port) : Prop where
  created : s.Created request p
  result : ∃ u, s.Serving u request ∧ (u.addPort p).Heard t

namespace Makes

theorem samePorts (h : s.Makes t request p) : ∃ u, s.SamePorts u ∧ (u.addPort p).SamePorts t := by
  obtain ⟨u, ⟨ids, hallocating, -⟩, hheard⟩ := h.result
  exact ⟨u, hallocating.samePorts, hheard.samePorts⟩

theorem sameNetworks (h : s.Makes t request p) : s.SameNetworks t := by
  obtain ⟨u, ⟨ids, hallocating, -⟩, hheard⟩ := h.result
  exact hallocating.sameNetworks.trans (.trans (.addPort u p) hheard.sameNetworks)

theorem drawn (h : s.Makes t request p) : t.drawn = s.drawn + 1 := by
  obtain ⟨u, hu, ht⟩ := h.samePorts
  rw [ht.drawn, ← hu.drawn]
  rfl

theorem plugged (h : s.Makes t request p) : t.plugged = s.plugged := by
  obtain ⟨u, hu, ht⟩ := h.samePorts
  exact ht.plugged.trans hu.plugged

theorem get? (h : s.Makes t request p) (id : String) :
    t.ports.get? id = if id = p.id then some p else s.ports.get? id := by
  obtain ⟨u, hu, ht⟩ := h.samePorts
  rw [ht.ports, ← hu.ports]
  exact IdMap.get?_insert _ _ _ _

theorem sound (h : s.Makes t request p) (hs : s.Sound) : t.Sound := by
  obtain ⟨u, hu, ht⟩ := h.samePorts
  refine ht.sound ((hu.sound hs).addPort ?_ fun ip hip => ?_)
  · rw [hu.drawn, h.created.id]
  · exact hu.toSameNetworks.registered.mpr (h.created.registered ip hip)

theorem spends (h : s.Makes t request p) (hasked : request.fixedIps ≠ []) :
    s.Spends t (request.fixedIps.map (·.subnetId)) := by
  obtain ⟨u, ⟨ids, hallocating, hids⟩, hheard⟩ := h.result
  rw [← hids hasked]
  exact hallocating.spends.of_allocations hheard.allocations

theorem touches {own : String → Prop} {c : String} (h : s.Makes t request p) (hid : own p.id) :
    Touches own c s t := by
  obtain ⟨u, hu, ht⟩ := h.samePorts
  exact ((Touches.of_samePorts hu).trans (.of_addPort hid)).trans (.of_samePorts ht)

end Makes

/-- A port is made as the kind that was asked for. -/
theorem ends_createPort_vnicType (request : PortRequest) (s : Substrate) :
    (createPort request).Ends s (fun p _ => p.vnicType = request.vnicType) fun _ _ => True := by
  refine ends_call (fun _ _ _ _ _ => trivial) fun t _ _ => ?_
  refine ends_get ((ends_orFail _ _ t).bind ?_ fun _ _ _ => trivial)
  intro network t hend
  refine (ends_resolveFixedIps request.networkId _ t).bind ?_ fun _ _ _ => trivial
  intro ips u hend
  refine (ends_drawId u).bind ?_ fun _ _ _ => trivial
  intro id v hend
  exact ends_modify (ends_pure rfl)

end Substrate

namespace Side

variable {x : Side} {share : Share} {d d' : Deployment} {p : Port} {nic : Interface}
  {amphora : Amphora}

/-- The ports that the instance listed in the beginning. -/
def former (x : Side) : List String := x.start.pluggedPortIds x.computeId

/-- A port is made that the instance does not list yet. -/
structure Made (x : Side) (share : Share) (d : Deployment) (p : Port) : Prop where
  mem : p.id ∈ share.ids
  port : d.substrate.ports.get? p.id = some p
  unlisted : p.id ∉ d.substrate.pluggedPortIds x.computeId
  unbound : ¬ d.repository.Bound p.id

theorem Made.later (h : x.Made share d p) (hrely : x.Rely share d d') : x.Made share d' p where
  mem := h.mem
  port := (hrely.steady.ports _ h.mem).trans h.port
  unlisted := hrely.steady.listed ▸ h.unlisted
  unbound := hrely.steady.unbound _ h.mem h.unbound

/-- The port is a new one, as the interface asks for it. -/
structure Answers (x : Side) (nic : Interface) (p : Port) : Prop where
  fresh : p.id ∉ x.former
  made : x.start.ports.get? p.id = none
  strange : p.id ∉ x.others
  networkId : p.networkId = nic.networkId
  subnets : p.fixedIps.map (·.subnetId) = (nic.fixedIps.take 1).map (·.subnetId)
  vnicType : p.vnicType = nic.vnicType
  fillable : Fillable x.start p

theorem Answers.link (h : x.Answers nic p) : p.link x.former = .ofNic nic := by
  simp only [Port.link, if_neg h.fresh, h.networkId, h.subnets, h.vnicType, Link.ofNic]

/-- All that it takes to make a port, for as long as the side has an address left. -/
structure Providable (x : Side) (nic : Interface) (subnetId : String) : Prop where
  network : ∃ network, x.start.networks.get? nic.networkId = some network
  asked : nic.fixedIps.take 1 = [{ subnetId }]
  registered : x.start.Registered subnetId nic.networkId

/-- Where there is room in the share, the port of an interface can be made. -/
theorem Holds.creatable {subnetId : String} (h : x.Holds share d)
    (hnic : x.Providable nic subnetId) (hbudget : 1 ≤ share.budget subnetId) (amphora : Amphora) :
    d.substrate.Creatable (Delta.portRequest amphora nic) := by
  have hasked : (Delta.portRequest amphora nic).fixedIps = [{ subnetId }] := hnic.asked
  constructor
  · rw [h.sameNetworks.networks]
    exact hnic.network
  · rw [hasked]
    exact List.cons_ne_nil _ _
  · intro wish hwish
    rw [hasked] at hwish ⊢
    cases List.mem_singleton.mp hwish
    exact ⟨h.sameNetworks.registered.mpr hnic.registered, (h.room subnetId).mono hbudget⟩

/-- Making a port takes one address, and the port goes to the share. -/
theorem Holds.made {subnetId : String} {t : Substrate} (h : x.Holds share d)
    (hnic : x.Providable nic subnetId) (hbudget : 1 ≤ share.budget subnetId)
    (hmakes : d.substrate.Makes t (Delta.portRequest amphora nic) p) :
    x.Guarantee share ((share.take p.id).spend subnetId) d { d with substrate := t } := by
  have hasked : (Delta.portRequest amphora nic).fixedIps = [{ subnetId }] := hnic.asked
  have hspends : d.substrate.Spends t [subnetId] := by
    have hcount := hmakes.spends (by rw [hasked]; exact List.cons_ne_nil _ _)
    rwa [hasked] at hcount
  have hcapable : Capable { d with substrate := t } := by
    refine ⟨hmakes.sameNetworks.faults_nil h.capable.faults, h.capable.harmless, ?_, ?_⟩
    · intro n hn
      change t.drawn < n at hn
      rw [hmakes.drawn] at hn
      exact h.capable.unbound n (by omega)
    · intro id q hq
      change t.ports.get? id = some q at hq
      change ∃ network, t.networks.get? q.networkId = some network
      rw [hmakes.get?] at hq
      rw [hmakes.sameNetworks.networks]
      split at hq
      · cases hq
        rw [hmakes.created.network, h.sameNetworks.networks]
        exact hnic.network
      · exact h.capable.networked hq
  refine h.guarantee (fun _ hid => List.mem_cons_of_mem _ hid)
    (hmakes.touches List.mem_cons_self) ?_ ?_ (fun _ _ => rfl) (fun _ _ hunbound => hunbound) rfl
    (keepsInstances_of_plugged hmakes.plugged) (Share.spend_of_spends hspends hbudget)
    hmakes.sameNetworks (hmakes.sound h.sound) hcapable
  · intro id hid
    rcases List.mem_cons.mp hid with rfl | hid
    · exact .inr ⟨d.substrate.drawn + 1, Nat.lt_succ_self _, Nat.le_of_eq hmakes.drawn.symm,
        hmakes.created.id⟩
    · exact .inl hid
  · change d.substrate.drawn ≤ t.drawn
    rw [hmakes.drawn]
    exact Nat.le_succ _

/-- Plugging a port in changes what the instance lists, and the port itself. -/
theorem Holds.attached {t : Substrate} (h : x.Holds share d) (hp : x.Made share d p)
    (ht : (d.substrate.attach x.computeId p.id).Heard t) :
    x.Guarantee share share d { d with substrate := t } := by
  refine h.changes ((Touches.of_attach hp.mem).trans (.of_samePorts ht.samePorts)) ht.drawn ?_
    (keepsInstances_of_insert ht.plugged)
    (Share.same_of_spends (spends_of_allocations ht.allocations))
    ((SameNetworks.attach _ _ _).trans ht.sameNetworks) (ht.sound (h.sound.attach hp.port))
  intro id q hq
  rw [ht.ports] at hq
  change (d.substrate.ports.modify p.id _).get? id = some q at hq
  rw [IdMap.get?_modify] at hq
  split at hq
  · obtain ⟨r, hr, rfl⟩ := Option.map_eq_some_iff.mp hq
    exact ⟨r, hr, rfl⟩
  · exact ⟨q, hq, rfl⟩

/-- Recording a new port adds its record. -/
theorem Holds.recorded {r : Repository} {b : MemberPortBinding} (h : x.Holds share d)
    (hb : b.amphoraId = x.amphoraId) (hmem : b.portId ∈ share.ids)
    (hr : (d.repository.addBinding b).Heard r) :
    x.Guarantee share share d { d with repository := r } := by
  refine h.notes ?_ ?_ hr.amphorae (hr.harmless h.capable.harmless)
  · intro keep hkeep
    rw [hr.bindings]
    refine Repository.filter_addBinding ?_
    rw [Bool.eq_false_iff]
    exact fun hkept => (hkeep b hkept).1 hb
  · intro id hid hunbound hbound
    rw [hr.bound_iff, Repository.bound_addBinding] at hbound
    rcases hbound with hbound | rfl
    · exact hunbound hbound
    · exact hid hmem

/-- A port was made for the interface, with an address on the subnet. -/
structure Provided (x : Side) (share : Share) (d : Deployment) (nic : Interface)
    (subnetId : String) (p : Port) (share' : Share) (d' : Deployment) : Prop where
  share : share' = (share.take p.id).spend subnetId
  view : x.view d' = x.view d
  made : x.Made share' d' p
  answers : x.Answers nic p

theorem Provided.later {subnetId : String} {d'' : Deployment}
    (h : x.Provided share d nic subnetId p share' d') (hrely : x.Rely share' d' d'') :
    x.Provided share d nic subnetId p share' d'' where
  share := h.share
  view := hrely.view_eq.trans h.view
  made := h.made.later hrely
  answers := h.answers

theorem Holds.provided {subnetId : String} {t : Substrate} (h : x.Holds share d)
    (hnic : x.Providable nic subnetId)
    (hmakes : d.substrate.Makes t (Delta.portRequest amphora nic) p)
    (hvnicType : p.vnicType = nic.vnicType) :
    x.Provided share d nic subnetId p ((share.take p.id).spend subnetId)
      { d with substrate := t } := by
  have hcreated := hmakes.created
  have hnew : d.substrate.ports.get? p.id = none := hcreated.id ▸ h.sound.next_is_new
  have hasked : (Delta.portRequest amphora nic).fixedIps ≠ [] := by
    change nic.fixedIps.take 1 ≠ []
    rw [hnic.asked]
    exact List.cons_ne_nil _ _
  constructor
  case share => rfl
  case view =>
    have hports : t.pluggedPorts x.computeId = d.substrate.pluggedPorts x.computeId := by
      apply pluggedPorts_congr
      · simp only [pluggedPortIds, hmakes.plugged]
      · intro id hid
        have hne : id ≠ p.id := fun heq => h.sound.not_plugged hnew _ (heq ▸ hid)
        rw [hmakes.get?, if_neg hne]
    simp only [Side.view, hports]
  case made =>
    constructor
    case mem => exact List.mem_cons_self
    case port => exact (hmakes.get? p.id).trans (if_pos rfl)
    case unlisted =>
      change p.id ∉ t.pluggedPortIds x.computeId
      simp only [pluggedPortIds, hmakes.plugged]
      exact h.sound.not_plugged hnew _
    case unbound =>
      rw [hcreated.id]
      exact h.capable.unbound _ (Nat.lt_succ_self _)
  case answers =>
    have hnext := Nat.lt_succ_self d.substrate.drawn
    constructor
    case fresh => exact fun hmem => h.drawn _ (h.former _ hmem) _ hnext hcreated.id
    case made => exact hcreated.id ▸ h.fresh _ hnext
    case strange => exact fun hmem => h.strange _ hmem _ hnext hcreated.id
    case networkId => exact hcreated.network
    case subnets => exact hcreated.subnets hasked
    case vnicType => exact hvnicType
    case fillable =>
      constructor
      · rw [hcreated.network]
        exact hnic.network
      · intro ip hip
        exact ⟨_, h.sameNetworks.registered.mp (hcreated.registered ip hip)⟩

end Side

namespace Thread

open Side

variable {x : Side} {share : Share} {d : Deployment} {nic : Interface} {amphora : Amphora}

/-- The port of an interface is made, whatever the other thread does in between. -/
theorem secured_createMemberPort {subnetId : String} (hnic : x.Providable nic subnetId)
    (hbudget : 1 ≤ share.budget subnetId) : (createMemberPort amphora nic).Secured x
      (Done (x.Provided share d nic subnetId)) share d := by
  have hcall : (onSubstrate (Substrate.createPort (Delta.portRequest amphora nic))).Secured x
      (Done (x.Provided share d nic subnetId)) share d := by
    refine secured_onSubstrate fun d' hrely =>
      ((ends_createPort _ _).and (ends_createPort_vnicType _ _)).mono ?_ ?_
    · intro p t hend
      obtain ⟨⟨u, hserving, hcreated, hheard⟩, hvnicType⟩ := hend
      have hmakes : d'.substrate.Makes t (Delta.portRequest amphora nic) p :=
        ⟨hcreated, u, hserving, hheard⟩
      have hprovided := hrely.holds.provided hnic hmakes hvnicType
      refine ⟨_, hrely.holds.made hnic hbudget hmakes, fun d'' hrely' => ⟨p, rfl, ?_⟩⟩
      have hlater := hprovided.later hrely'
      exact ⟨hlater.share, hlater.view.trans hrely.view_eq, hlater.made, hlater.answers⟩
    · intro e t hend
      obtain ⟨⟨u, -, -, hwhy⟩, -⟩ := hend
      exact (hwhy hrely.holds.capable.faults (hrely.holds.creatable hnic hbudget amphora)).elim
  refine hcall.outcome.followed fun result share' d' hdone => ?_
  obtain ⟨p, rfl, hprovided⟩ := hdone
  exact secured_pure fun d'' hrely => ⟨p, rfl, hprovided.later hrely⟩

end Thread

end AmphoraWiring
