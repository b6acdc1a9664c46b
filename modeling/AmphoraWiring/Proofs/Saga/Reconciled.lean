import AmphoraWiring.Proofs.Saga.Remainder
import AmphoraWiring.Proofs.Seeding

/-!
Applying what was computed for all amphorae of a load balancer settles them one after the other,
and what is computed for them afterwards is what was left of their deltas. An amphora that waits
for its turn is as it was, apart from addresses that are not there any more.
-/
namespace AmphoraWiring

open Action Substrate Deployment

namespace Substrate

/-- How many of the amphorae are still to be given an address on the subnet. -/
def lacking (s : Substrate) (management : List String) (lb : LoadBalancer)
    (amphorae : List Amphora) (subnetId : String) : Nat :=
  amphorae.countP fun a => (s.delta management lb a).addSubnets.any fun change =>
    change.subnetId = subnetId

theorem lacking_cons (s : Substrate) (management : List String) (lb : LoadBalancer) (a : Amphora)
    (rest : List Amphora) (subnetId : String) :
    s.lacking management lb (a :: rest) subnetId = s.lacking management lb rest subnetId +
      if (s.delta management lb a).addSubnets.any fun change => change.subnetId = subnetId
      then 1 else 0 := by
  unfold lacking
  rw [List.countP_cons]

theorem remainder_congr {s t : Substrate} (hsubnets : t.subnets = s.subnets) (delta : Delta) :
    delta.remainder t = delta.remainder s := by
  simp only [Delta.remainder, keepsAddresses, hsubnets]

/-- The amphora reaches every subnet that is wanted, by the network it is wanted by, and apart from
the management networks it is attached to no network that is not wanted. -/
structure Settled (s : Substrate) (management : List String) (lb : LoadBalancer) (a : Amphora) :
    Prop where
  reached : ∀ {subnetId networkId}, s.Wanted lb subnetId networkId →
    s.Reached management a.instanceId subnetId networkId
  given_up : ∀ {networkId}, networkId ∉ management →
    (∀ subnetId, ¬ s.Wanted lb subnetId networkId) → s.portsOn a.instanceId networkId = []

/-- An amphora is settled if no subnet is left to be added and no interface to be removed. -/
theorem settled_of_delta {s : Substrate} {management : List String} {lb : LoadBalancer}
    {a : Amphora} (hs : s.Sound) (hanswered : s.Answered lb)
    (hregistered : ∀ {subnetId networkId}, s.Wanted lb subnetId networkId →
      s.Registered subnetId networkId)
    (haddSubnets : (s.delta management lb a).addSubnets = [])
    (hdeleteNics : (s.delta management lb a).deleteNics = []) : s.Settled management lb a := by
  constructor
  · intro subnetId networkId hwanted
    by_contra hunreached
    have hmissing : ∀ n, ¬ s.Reached management a.instanceId subnetId n := by
      intro n hreached
      obtain ⟨hmanagement, p, hp, hsubnet⟩ := hreached
      have hon := (hs.registered (carrier_mem hp) hsubnet).unique (hregistered hwanted)
      subst hon
      exact hunreached ⟨hmanagement, p, hp, hsubnet⟩
    have hentry : ⟨subnetId, networkId, Delta.namedPort s management a.instanceId networkId⟩ ∈
        (s.delta management lb a).addSubnets := Delta.mem_addSubnets.mpr
      ⟨subnetId, networkId, (get?_subnets_desired hanswered).mpr hwanted, hmissing, rfl⟩
    exact List.not_mem_nil (haddSubnets ▸ hentry)
  · intro networkId hmanagement hunwanted
    rw [← carrier_eq_none, Option.eq_none_iff_forall_not_mem]
    intro p hp
    have hn : networkId ∉ (s.desired lb).networks := by
      intro hn
      obtain ⟨subnetId, hget⟩ := Topology.mem_networks.mp hn
      exact hunwanted subnetId ((get?_subnets_desired hanswered).mp hget)
    have hentry : Delta.staleNic p.toInterface ∈ (s.delta management lb a).deleteNics :=
      Delta.mem_deleteNics.mpr ⟨networkId, p, hmanagement, hn, hp, rfl⟩
    exact List.not_mem_nil (hdeleteNics ▸ hentry)

end Substrate

/-- The load balancer is persisted, its amphorae run on instances of their own, all that it wants
exists outside the management networks, and nothing stands in the way. -/
structure Reconcilable (management : List String) (lb : LoadBalancer) (d : Deployment) :
    Prop where
  sound : d.substrate.Sound
  exclusive : d.substrate.Exclusive
  capable : d.Capable
  networked : ∀ {id subnet}, d.substrate.subnets.get? id = some subnet →
    ∃ network, d.substrate.networks.get? subnet.networkId = some network
  persisted : ∃ stored, d.repository.loadBalancers.get? lb.id = some stored ∧
    lb = { stored with amphorae := d.repository.amphoraeOf lb.id }
  own_id : ∀ {id a}, d.repository.amphorae.get? id = some a → a.id = id
  instances : ∀ a ∈ lb.allocatedAmphorae,
    ∃ c, a.computeId = some c ∧ d.substrate.plugged.contains c
  distinct : (lb.allocatedAmphorae.map (·.instanceId)).Nodup
  vip : d.substrate.Registered lb.vip.subnetId lb.vip.networkId
  demanded : d.substrate.Answered lb
  unmanaged : ∀ {subnetId networkId}, d.substrate.Wanted lb subnetId networkId →
    networkId ∉ management
  room : ∀ subnetId, d.substrate.Room subnetId
    (d.substrate.lacking management lb lb.allocatedAmphorae subnetId)

namespace Reconcilable

variable {management : List String} {lb : LoadBalancer} {d : Deployment} {run run' : Run Deployment}

theorem registered (h : Reconcilable management lb d) {subnetId networkId : String}
    (hwanted : d.substrate.Wanted lb subnetId networkId) :
    d.substrate.Registered subnetId networkId := by
  rcases hwanted with ⟨-, hregistered⟩ | ⟨-, rfl, rfl⟩
  · exact hregistered
  · exact h.vip

theorem amphora_unique (h : Reconcilable management lb d) {a a' : Amphora}
    (ha : a ∈ lb.amphorae) (ha' : a' ∈ lb.amphorae) (hid : a.id = a'.id) : a = a' := by
  obtain ⟨stored, -, hlb⟩ := h.persisted
  have hget : ∀ {a}, a ∈ lb.amphorae → d.repository.amphorae.get? a.id = some a := by
    intro a ha
    rw [hlb] at ha
    obtain ⟨id, hid⟩ := IdMap.mem_values_iff.mp (List.mem_of_mem_filter ha)
    rwa [h.own_id hid]
  have heq := hget ha
  rw [hid, hget ha'] at heq
  exact (Option.some.inj heq).symm

theorem find_amphora (h : Reconcilable management lb d) {a : Amphora}
    (ha : a ∈ lb.allocatedAmphorae) : lb.amphorae.find? (fun a' => a'.id = a.id) = some a := by
  have hmem : a ∈ lb.amphorae := List.mem_of_mem_filter ha
  cases hfind : lb.amphorae.find? fun a' => a'.id = a.id with
  | none =>
    have hnone := List.find?_eq_none.mp hfind a hmem
    simp at hnone
  | some a' =>
    have hid : a'.id = a.id := by simpa using List.find?_some hfind
    rw [h.amphora_unique (List.mem_of_find?_eq_some hfind) hmem hid]

/-- What is computed for the allocated amphorae, one entry for each. -/
theorem entries_perm (h : Reconcilable management lb d) (s : Substrate) :
    ∃ amphorae : List Amphora, amphorae.Perm lb.allocatedAmphorae ∧
      (IdMap.ofList (lb.allocatedAmphorae.map fun a =>
        (a.id, s.delta management lb a))).entries =
        amphorae.map fun a => (a.id, s.delta management lb a) := by
  have hids : ((lb.allocatedAmphorae.map fun a =>
      (a.id, s.delta management lb a)).map (·.1)).Nodup := by
    rw [List.map_map]
    refine List.Nodup.map_on ?_ (h.distinct.of_map _)
    intro a ha a' ha' hid
    exact h.amphora_unique (List.mem_of_mem_filter ha) (List.mem_of_mem_filter ha') hid
  have hperm := IdMap.entries_ofList_perm hids
  obtain ⟨amphorae, heq, hperm⟩ :=
    (congrFun (congrFun (List.eq_map_comp_perm _) _) _).mpr hperm
  exact ⟨amphorae, hperm, heq⟩

end Reconcilable

/-- The plan that a computed delta follows. -/
def Plan.toSettle (management : List String) (lb : LoadBalancer) {s : Substrate} (hs : s.Sound)
    (hx : s.Exclusive) (a : Amphora) : Plan where
  management := management
  start := s
  computeId := a.instanceId
  wanted := s.desired lb
  sound := hs
  exclusive := hx

theorem Plan.missing_iff {plan : Plan} (amphora : Amphora) {subnetId : String} :
    plan.Missing subnetId ↔
      (plan.delta amphora).addSubnets.any fun change => change.subnetId = subnetId := by
  simp only [List.any_eq_true, decide_eq_true_eq, Plan.mem_addSubnets]
  constructor
  · intro h
    obtain ⟨⟨networkId, hget⟩, hmissing⟩ := h
    exact ⟨_, ⟨subnetId, networkId, hget, hmissing, rfl⟩, rfl⟩
  · intro h
    obtain ⟨change, ⟨subnetId, networkId, hget, hmissing, rfl⟩, rfl⟩ := h
    exact ⟨⟨networkId, hget⟩, hmissing⟩

/-- The amphorae in `rest` are still as they were, and all others are settled. -/
structure Reconciling (management : List String) (lb : LoadBalancer) (start : Substrate)
    (rest : List Amphora) (_ : IdMap (List Port)) (run : Run Deployment) : Prop where
  sound : run.state.substrate.Sound
  exclusive : run.state.substrate.Exclusive
  capable : run.state.Capable
  sameNetworks : start.SameNetworks run.state.substrate
  instances : start.KeepsInstances run.state.substrate
  allocated : ∀ a ∈ rest, a ∈ lb.allocatedAmphorae
  distinct : (rest.map (·.instanceId)).Nodup
  waiting : ∀ a ∈ rest,
    run.state.substrate.pluggedPorts a.instanceId = start.pluggedPorts a.instanceId
  remainder : ∀ a ∈ lb.allocatedAmphorae, a ∉ rest →
    run.state.substrate.delta management lb a = (start.delta management lb a).remainder start
  room : ∀ subnetId, run.state.substrate.Room subnetId (start.lacking management lb rest subnetId)

namespace Reconciling

variable {management : List String} {lb : LoadBalancer} {d : Deployment} {run run' : Run Deployment}
  {a : Amphora} {rest : List Amphora} {changed : IdMap (List Port)}

theorem delta_eq (h : Reconciling management lb d.substrate (a :: rest) changed run) :
    run.state.substrate.delta management lb a = d.substrate.delta management lb a :=
  delta_congr h.sameNetworks.subnets (h.waiting a List.mem_cons_self) management lb

theorem attainable (h : Reconciling management lb d.substrate (a :: rest) changed run)
    (hd : Reconcilable management lb d) :
    (Plan.toSettle management lb h.sound h.exclusive a).Attainable := by
  have hsubnets := h.sameNetworks.subnets
  have hanswered : run.state.substrate.Answered lb := (answered_congr hsubnets).mpr hd.demanded
  have hwanted : ∀ {subnetId networkId},
      (run.state.substrate.desired lb).subnets.get? subnetId = some networkId →
      d.substrate.Wanted lb subnetId networkId := by
    intro subnetId networkId hget
    rw [get?_subnets_desired hanswered, wanted_congr hsubnets] at hget
    exact hget
  constructor
  case unmanaged =>
    intro n hn
    obtain ⟨subnetId, hget⟩ := Topology.mem_networks.mp hn
    exact hd.unmanaged (hwanted hget)
  case registered =>
    intro subnetId n hget
    exact h.sameNetworks.registered.mpr (hd.registered (hwanted hget))
  case networked =>
    intro n hn
    obtain ⟨subnetId, hget⟩ := Topology.mem_networks.mp hn
    obtain ⟨subnet, hsubnet, rfl⟩ := hd.registered (hwanted hget)
    change ∃ network, run.state.substrate.networks.get? subnet.networkId = some network
    rw [h.sameNetworks.networks]
    exact hd.networked hsubnet
  case plugged =>
    obtain ⟨c, hc, hplugged⟩ := hd.instances a (h.allocated a List.mem_cons_self)
    have hid := Amphora.instanceId_eq hc
    change run.state.substrate.plugged.contains a.instanceId
    rw [hid]
    exact h.instances c hplugged
  case room =>
    intro subnetId hmissing
    have hany := (Plan.missing_iff a).mp hmissing
    change (run.state.substrate.delta management lb a).addSubnets.any _ = true at hany
    rw [h.delta_eq] at hany
    refine (h.room subnetId).mono ?_
    rw [lacking_cons, if_pos hany]
    omega

/-- Of the amphora whose plan is completed the remainder is left. -/
theorem remainder_self (h : Reconciling management lb d.substrate (a :: rest) changed run)
    (hd : Reconcilable management lb d)
    (hdone : (Plan.toSettle management lb h.sound h.exclusive a).Completed run') :
    run'.state.substrate.delta management lb a =
      (d.substrate.delta management lb a).remainder d.substrate := by
  obtain ⟨gone, -, hunderway⟩ := hdone.followed
  have hdesired : run'.state.substrate.desired lb = run.state.substrate.desired lb := by
    simp only [desired, demanded, networkOf, hunderway.sameNetworks.subnets]
    rfl
  calc run'.state.substrate.delta management lb a
      = (Plan.toSettle management lb h.sound h.exclusive a).deltaNow run'.state.substrate a := by
        rw [Substrate.delta, hdesired]
        rfl
    _ = (run.state.substrate.delta management lb a).remainder run.state.substrate :=
        hdone.deltaNow_eq (h.attainable hd) a
    _ = (d.substrate.delta management lb a).remainder d.substrate := by
        rw [h.delta_eq, remainder_congr h.sameNetworks.subnets]

/-- What the plan has handed out was counted for its amphora. -/
theorem room_left (h : Reconciling management lb d.substrate (a :: rest) changed run)
    (hdone : (Plan.toSettle management lb h.sound h.exclusive a).Completed run')
    (subnetId : String) : run'.state.substrate.Room subnetId
      (d.substrate.lacking management lb rest subnetId) := by
  obtain ⟨gone, -, hunderway⟩ := hdone.followed
  obtain ⟨hlow, hhigh⟩ := hdone.thrifty subnetId
  have hstart : (Plan.toSettle management lb h.sound h.exclusive a).start =
      run.state.substrate := rfl
  rw [hstart] at hlow hhigh
  refine (h.room subnetId).later hunderway.sameNetworks.subnets hlow ?_
  rw [lacking_cons]
  rcases hhigh with hhigh | ⟨hmissing, -, hhigh⟩
  · omega
  · have hany := (Plan.missing_iff a).mp hmissing
    change (run.state.substrate.delta management lb a).addSubnets.any _ = true at hany
    rw [h.delta_eq] at hany
    rw [if_pos hany]
    omega

/-- Completing the plan of one amphora settles it, and leaves those that wait as they are. -/
theorem completed (h : Reconciling management lb d.substrate (a :: rest) changed run)
    (hd : Reconcilable management lb d) (changed' : IdMap (List Port))
    (hdone : (Plan.toSettle management lb h.sound h.exclusive a).Completed run') :
    Reconciling management lb d.substrate rest changed' run' := by
  obtain ⟨gone, -, hunderway⟩ := hdone.followed
  have hnodup := h.distinct
  rw [List.map_cons, List.nodup_cons] at hnodup
  have hothers : ∀ a' : Amphora, a'.instanceId ≠ a.instanceId →
      run'.state.substrate.pluggedPorts a'.instanceId =
        run.state.substrate.pluggedPorts a'.instanceId :=
    fun a' hne => hunderway.others a'.instanceId hne
  constructor
  case sound => exact hunderway.sound
  case exclusive => exact hunderway.exclusive
  case capable => exact hdone.capable
  case sameNetworks => exact h.sameNetworks.trans hunderway.sameNetworks
  case instances => exact fun c hc => hdone.instances c (h.instances c hc)
  case allocated => exact fun a' ha' => h.allocated a' (List.mem_cons_of_mem _ ha')
  case distinct => exact hnodup.2
  case waiting =>
    intro a' ha'
    have hne : a'.instanceId ≠ a.instanceId :=
      fun heq => hnodup.1 (List.mem_map.mpr ⟨a', ha', heq⟩)
    rw [hothers a' hne]
    exact h.waiting a' (List.mem_cons_of_mem _ ha')
  case remainder =>
    intro a' ha' hrest
    by_cases heq : a' = a
    · exact heq ▸ h.remainder_self hd hdone
    · have hne : a'.instanceId ≠ a.instanceId := by
        intro hid
        exact heq (List.inj_on_of_nodup_map hd.distinct ha'
          (h.allocated a List.mem_cons_self) hid)
      rw [delta_congr hunderway.sameNetworks.subnets (hothers a' hne)]
      exact h.remainder a' ha' (by simp [heq, hrest])
  case room => exact h.room_left hdone

/-- An amphora of which only the remainder is left is settled. -/
theorem settled {rest : List Amphora} (h : Reconciling management lb d.substrate rest changed run)
    (hd : Reconcilable management lb d) (ha : a ∈ lb.allocatedAmphorae) (hrest : a ∉ rest) :
    run.state.substrate.Settled management lb a := by
  have hsubnets := h.sameNetworks.subnets
  have hdelta := h.remainder a ha hrest
  refine settled_of_delta h.sound ((answered_congr hsubnets).mpr hd.demanded) ?_ ?_ ?_
  · intro subnetId networkId hwanted
    rw [wanted_congr hsubnets] at hwanted
    exact h.sameNetworks.registered.mpr (hd.registered hwanted)
  · rw [hdelta]
    rfl
  · rw [hdelta]
    rfl

/-- Nothing is done in the beginning, whatever was only looked up. -/
theorem start (hd : Reconcilable management lb d)
    (hsubstrate : d.substrate.Heard run.state.substrate)
    (hrepository : d.repository.Heard run.state.repository) {amphorae : List Amphora}
    (hperm : amphorae.Perm lb.allocatedAmphorae) (changed : IdMap (List Port)) :
    Reconciling management lb d.substrate amphorae changed run := by
  constructor
  case sound => exact hsubstrate.sound hd.sound
  case exclusive => exact hsubstrate.exclusive hd.exclusive
  case capable =>
    refine hd.capable.of_removed hsubstrate.sameNetworks hsubstrate.drawn ?_ (.inl hrepository)
    intro id q hq
    rw [hsubstrate.ports] at hq
    exact ⟨q, hq, rfl⟩
  case sameNetworks => exact hsubstrate.sameNetworks
  case instances => exact keepsInstances_of_plugged hsubstrate.plugged
  case allocated => exact fun a ha => hperm.mem_iff.mp ha
  case distinct => exact (hperm.map _).nodup_iff.mpr hd.distinct
  case waiting => exact fun a _ => hsubstrate.samePorts.pluggedPorts a.instanceId
  case remainder => exact fun a ha hrest => absurd (hperm.mem_iff.mpr ha) hrest
  case room =>
    intro subnetId
    have hroom := hd.room subnetId
    have hallocated : run.state.substrate.allocated subnetId = d.substrate.allocated subnetId := by
      rw [Substrate.allocated, hsubstrate.allocations]
      rfl
    refine hroom.later hsubstrate.subnets (Nat.le_of_eq hallocated.symm) ?_
    exact Nat.le_of_eq (by rw [hallocated, lacking, lacking, hperm.countP_eq])

end Reconciling

/-- Applying all computed deltas settles the amphorae one after the other. -/
theorem Reconcilable.ends_applyDeltas {management : List String} {lb : LoadBalancer}
    {d : Deployment} (hd : Reconcilable management lb d) (run : Run Deployment)
    (hsubstrate : d.substrate.Heard run.state.substrate)
    (hrepository : run.state.repository = d.repository) :
    Action.Ends (Step.applyDeltas lb.id (.ofList (lb.allocatedAmphorae.map fun a =>
        (a.id, d.substrate.delta management lb a)))).execute run
      (Reconciling management lb d.substrate []) fun _ _ => False := by
  obtain ⟨stored, hstored, hlb⟩ := hd.persisted
  obtain ⟨amphorae, hperm, hentries⟩ := hd.entries_perm d.substrate
  refine (ends_onRepository (Repository.ends_getLoadBalancer lb.id _)).bind ?_ ?_
  · intro lb' run₁ h₁
    obtain ⟨⟨hheard, stored', hstored', hlb'⟩, hsame, -⟩ := h₁
    rw [hrepository] at hheard hstored' hlb'
    have heq : lb' = lb := by
      rw [hstored] at hstored'
      cases hstored'
      rw [hlb', ← hlb]
    subst heq
    rw [hentries, List.foldlM_map]
    have hbegin := Reconciling.start hd (hsame ▸ hsubstrate) hheard hperm .empty
    refine Ends.foldlM ?_ _ _ _ hbegin
    intro a rest changed run₂ h₂
    refine (ends_orFail _ _ run₂).bind ?_ ?_
    · intro a' run₃ h₃
      obtain ⟨rfl, hfind⟩ := h₃
      rw [hd.find_amphora (h₂.allocated a List.mem_cons_self)] at hfind
      cases hfind
      obtain ⟨c, hc, -⟩ := hd.instances a (h₂.allocated a List.mem_cons_self)
      have hinstance : a.computeId = some a.instanceId := by rw [Amphora.instanceId_eq hc, hc]
      have happly := Plan.ends_apply_complete (h₂.attainable hd) hinstance rfl h₂.capable
      change Action.Ends ((run₃.state.substrate.delta management lb' a).apply a) run₃ _ _ at happly
      rw [h₂.delta_eq] at happly
      refine happly.bind ?_ (fun e t h => h)
      exact fun ports run₄ hdone => ends_pure (h₂.completed hd _ hdone)
    · intro e run₃ h₃
      rw [hd.find_amphora (h₂.allocated a List.mem_cons_self)] at h₃
      cases h₃.2
  · intro e run₁ h₁
    obtain ⟨⟨e', -, -, hmissing⟩, -⟩ := h₁
    rw [hrepository] at hmissing
    rw [hmissing hd.capable.harmless] at hstored
    cases hstored

/-- What is computed for a deployment gives each allocated amphora its own delta. -/
theorem Reconcilable.get?_deltas {management : List String} {lb : LoadBalancer} {d : Deployment}
    (hd : Reconcilable management lb d) (s : Substrate) {a : Amphora}
    (ha : a ∈ lb.allocatedAmphorae) :
    (IdMap.ofList (lb.allocatedAmphorae.map fun a =>
      (a.id, s.delta management lb a))).get? a.id = some (s.delta management lb a) := by
  obtain ⟨amphorae, hperm, hentries⟩ := hd.entries_perm s
  rw [← IdMap.mem_entries_iff, hentries]
  exact List.mem_map.mpr ⟨a, hperm.mem_iff.mpr ha, rfl⟩

namespace Sample

/-- What the sample load balancer needs of a substrate: the networks of all ports and subnets, its
subnets and instances, and enough addresses. -/
def Serves (s : Substrate) : Prop :=
  s.faults = [] ∧
  (∀ e ∈ s.ports.entries, (s.networks.get? e.2.networkId).isSome) ∧
  (∀ e ∈ s.subnets.entries, (s.networks.get? e.2.networkId).isSome) ∧
  s.plugged.contains "vm-1" ∧ s.plugged.contains "vm-2" ∧
  (s.subnets.get? "vip-subnet").map (·.networkId) = some "vip-net" ∧
  (s.subnets.get? "subnet-b").map (·.networkId) = some "net-b" ∧
  ∀ e ∈ s.subnets.entries, ∀ cidr ∈ e.2.cidr, ∀ n ≤ s.allocated e.1 + 2, (cidr.host? n).isSome

instance (s : Substrate) : Decidable (Serves s) := inferInstanceAs (Decidable (_ ∧ _))

theorem reconcilable_persisted {s : Substrate} (hfit : s.Fit) (hserves : Serves s) :
    Reconcilable (managementNetworks ["mgmt-net"] none) pair (persisted s) := by
  obtain ⟨hfaults, hports, hsubnets, hfirst, hsecond, hvip, hmember, hroom⟩ := hserves
  have hdemands : ∀ demand ∈ pair.demands, demand.1 = "subnet-b" := by decide +kernel
  have hstored : (Repository.store {} pair).loadBalancers.get? pair.id = some (loadBalancer []) ∧
      pair = { loadBalancer [] with
        amphorae := (Repository.store {} pair).amphoraeOf pair.id } := by decide +kernel
  have hids : ∀ e ∈ (Repository.store {} pair).amphorae.entries, e.2.id = e.1 := by decide +kernel
  constructor
  case sound => exact hfit.1
  case exclusive => exact hfit.2
  case capable =>
    constructor
    · exact hfaults
    · intro o ho
      cases ho
    · intro n _ hbound
      obtain ⟨b, hb, -⟩ := hbound
      cases hb
    · intro id p hget
      exact Option.isSome_iff_exists.mp (hports _ (IdMap.mem_entries_iff.mpr hget))
  case networked =>
    intro id subnet hget
    exact Option.isSome_iff_exists.mp (hsubnets _ (IdMap.mem_entries_iff.mpr hget))
  case persisted => exact ⟨loadBalancer [], hstored⟩
  case own_id => exact fun hget => hids _ (IdMap.mem_entries_iff.mpr hget)
  case instances =>
    intro a ha
    have hallocated : a = amphora "amp-1" "vm-1" ∨ a = amphora "amp-2" "vm-2" := by
      simpa [pair, loadBalancer] using List.mem_of_mem_filter ha
    rcases hallocated with rfl | rfl
    · exact ⟨"vm-1", rfl, hfirst⟩
    · exact ⟨"vm-2", rfl, hsecond⟩
  case distinct => decide +kernel
  case vip => exact Option.map_eq_some_iff.mp hvip
  case demanded =>
    intro demand hdemand
    rw [hdemands demand hdemand]
    exact ⟨"net-b", Option.map_eq_some_iff.mp hmember⟩
  case unmanaged =>
    intro subnetId networkId hwanted
    have hnetwork : networkId = "net-b" ∨ networkId = "vip-net" := by
      rcases hwanted with ⟨hdemanded, hregistered⟩ | ⟨-, -, rfl⟩
      · obtain ⟨demand, hdemand, rfl⟩ := LoadBalancer.demands_iff.mp hdemanded
        rw [hdemands demand hdemand] at hregistered
        exact .inl (hregistered.unique (Option.map_eq_some_iff.mp hmember))
      · exact .inr rfl
    rcases hnetwork with rfl | rfl <;> decide
  case room =>
    intro subnetId subnet cidr hsubnet hcidr n hlow hhigh
    have hcount : (persisted s).substrate.lacking (managementNetworks ["mgmt-net"] none) pair
        pair.allocatedAmphorae subnetId ≤ pair.allocatedAmphorae.length := List.countP_le_length
    have htwo : pair.allocatedAmphorae.length = 2 := by decide +kernel
    refine hroom (subnetId, subnet) (IdMap.mem_entries_iff.mpr hsubnet) cidr hcidr n ?_
    change n ≤ (persisted s).substrate.allocated subnetId + 2
    omega

/-- The first instance has an address from the router, and is on a network that is not wanted. -/
def routed : Deployment := persisted autoconfigured

theorem reconcilable : Reconcilable (managementNetworks ["mgmt-net"] none) pair routed :=
  reconcilable_persisted autoconfigured_fit (by decide +kernel)

end Sample

namespace Step

/-- Computing and applying the deltas of a load balancer succeeds and settles its amphorae, and
computing them once more leaves nothing to be done but to remove the addresses that are kept. -/
theorem applyDeltas_converges {bootNetworks : List String} {zone : Option AvailabilityZone}
    {lb : LoadBalancer} {d : Deployment}
    (hd : Reconcilable (managementNetworks bootNetworks zone) lb d) (context : Context) :
    ∃ deltas s₁ changed run deltas' s₂,
      (computeDeltas (managementNetworks bootNetworks zone) lb).runOn d.substrate =
        (.ok deltas, s₁) ∧
      (applyDeltas lb.id deltas).execute.runOn
        { context, state := { d with substrate := s₁ } } = (.ok changed, run) ∧
      (computeDeltas (managementNetworks bootNetworks zone) lb).runOn run.state.substrate =
        (.ok deltas', s₂) ∧
      ∀ a ∈ lb.allocatedAmphorae,
        (∃ delta, deltas.get? a.id = some delta ∧
          deltas'.get? a.id = some (delta.remainder d.substrate)) ∧
        run.state.substrate.Settled (managementNetworks bootNetworks zone) lb a := by
  have hcompute : ∀ s : Substrate, s.faults = [] → s.Answered lb →
      (∀ a ∈ lb.allocatedAmphorae, s.plugged.contains a.instanceId) →
      (computeDeltas (managementNetworks bootNetworks zone) lb).Ends s
        (fun deltas t => s.Heard t ∧ deltas = .ofList (lb.allocatedAmphorae.map fun a =>
          (a.id, s.delta (managementNetworks bootNetworks zone) lb a))) fun _ _ => False := by
    intro s hfaults hanswered hinstances
    apply (ends_computeDeltas _ lb s).mono
    · exact fun deltas t h => h
    · exact fun e t h => h.2 hfaults hanswered hinstances
  have hplugged : ∀ a ∈ lb.allocatedAmphorae, d.substrate.plugged.contains a.instanceId := by
    intro a ha
    obtain ⟨c, hc, hcontains⟩ := hd.instances a ha
    rwa [Amphora.instanceId, hc]
  obtain ⟨deltas, s₁, hfirst, hheard, rfl⟩ :=
    (hcompute d.substrate hd.capable.faults hd.demanded hplugged).value
  obtain ⟨changed, run, happly, hdone⟩ := (hd.ends_applyDeltas
    { context, state := { d with substrate := s₁ } } hheard rfl).value
  have hsubnets := hdone.sameNetworks.subnets
  obtain ⟨deltas', s₂, hagain, -, rfl⟩ := (hcompute run.state.substrate hdone.capable.faults
    ((answered_congr hsubnets).mpr hd.demanded)
    fun a ha => hdone.instances _ (hplugged a ha)).value
  refine ⟨_, s₁, changed, run, _, s₂, hfirst, happly, hagain, fun a ha => ⟨?_, ?_⟩⟩
  · refine ⟨_, hd.get?_deltas d.substrate ha, ?_⟩
    rw [hd.get?_deltas run.state.substrate ha, hdone.remainder a ha List.not_mem_nil]
  · exact hdone.settled hd ha List.not_mem_nil

/-- The address from the router is all that is left to be removed. -/
theorem applyDeltas_converges_routed : ∃ deltas s₁ changed run deltas' s₂,
    (computeDeltas (managementNetworks ["mgmt-net"] none) Sample.pair).runOn
      Sample.routed.substrate = (.ok deltas, s₁) ∧
    (applyDeltas Sample.pair.id deltas).execute.runOn
      { context := {}, state := { Sample.routed with substrate := s₁ } } = (.ok changed, run) ∧
    (computeDeltas (managementNetworks ["mgmt-net"] none) Sample.pair).runOn
      run.state.substrate = (.ok deltas', s₂) ∧
    run.state.substrate.Settled (managementNetworks ["mgmt-net"] none) Sample.pair
      (Sample.amphora "amp-1" "vm-1") ∧
    ∃ delta, deltas.get? "amp-1" = some delta ∧
      deltas'.get? "amp-1" = some (delta.remainder Sample.routed.substrate) ∧
      (delta.remainder Sample.routed.substrate).deleteSubnets.map (·.subnetId) =
        ["router-subnet"] := by
  obtain ⟨deltas, s₁, changed, run, deltas', s₂, hfirst, happly, hagain, hsettled⟩ :=
    applyDeltas_converges Sample.reconcilable {}
  obtain ⟨⟨delta, hdelta, hleft⟩, hsettled⟩ :=
    hsettled (Sample.amphora "amp-1" "vm-1") (by decide +kernel)
  refine ⟨deltas, s₁, changed, run, deltas', s₂, hfirst, happly, hagain, hsettled, delta, hdelta,
    hleft, ?_⟩
  have hkept : ∃ deltas ∈ ((computeDeltas (managementNetworks ["mgmt-net"] none)
      Sample.pair).runOn Sample.routed.substrate).1.toOption, ∃ delta ∈ deltas.get? "amp-1",
      (delta.remainder Sample.routed.substrate).deleteSubnets.map (·.subnetId) =
        ["router-subnet"] := by decide +kernel
  rw [hfirst] at hkept
  obtain ⟨deltas₀, hdeltas₀, delta₀, hdelta₀, hkept⟩ := hkept
  cases hdeltas₀
  have heq : delta₀ = delta := Option.some.inj (hdelta₀.symm.trans hdelta)
  rw [heq] at hkept
  exact hkept

end Step

end AmphoraWiring
