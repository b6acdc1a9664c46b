import AmphoraWiring.Delta.Compute
import AmphoraWiring.Proofs.Substrate.Addresses

/-!
What a delta is computed from. A load balancer wants the subnets that its live members ask for,
each by the network it is registered on, and the subnet of its virtual address. An instance is
attached to a network by the last of its ports there. A computed delta leads from the one to the
other, and computing it changes nothing.
-/
namespace AmphoraWiring

open Action

theorem Amphora.instanceId_eq {a : Amphora} {c : String} (h : a.computeId = some c) :
    a.instanceId = c := by
  rw [instanceId, h, Option.getD_some]

/-- A live member asks for the subnet. -/
def LoadBalancer.Demands (lb : LoadBalancer) (subnetId : String) : Prop :=
  ∃ m ∈ lb.members, m.provisioningStatus ≠ .pendingDelete ∧ m.subnetId = some subnetId

theorem LoadBalancer.demands_iff {lb : LoadBalancer} {subnetId : String} :
    lb.Demands subnetId ↔ ∃ d ∈ lb.demands, d.1 = subnetId := by
  unfold Demands demands
  constructor
  · intro h
    obtain ⟨m, hm, hlive, hsubnet⟩ := h
    refine ⟨(subnetId, m.vnicType), List.mem_filterMap.mpr ⟨m, hm, ?_⟩, rfl⟩
    simp [Member.demand, hlive, hsubnet]
  · intro h
    obtain ⟨d, hd, rfl⟩ := h
    obtain ⟨m, hm, hdemand⟩ := List.mem_filterMap.mp hd
    unfold Member.demand at hdemand
    split at hdemand
    · cases hdemand
    · next hlive =>
      obtain ⟨subnetId, hsubnet, rfl⟩ := Option.map_eq_some_iff.mp hdemand
      exact ⟨m, hm, hlive, hsubnet⟩

namespace Topology

/-- A network is in the topology for the subnets on it. -/
theorem mem_networks {t : Topology} {networkId : String} :
    networkId ∈ t.networks ↔ ∃ subnetId, t.subnets.get? subnetId = some networkId := by
  unfold networks
  rw [IdMap.mem_keys_iff, ← Option.isSome_iff_exists, IdMap.get?_ofList_isSome_iff]
  simp only [List.mem_map, Prod.mk.injEq, ← IdMap.mem_values_iff]
  constructor
  · intro h
    obtain ⟨_, n, hn, rfl, -⟩ := h
    exact hn
  · intro h
    exact ⟨(), networkId, h, rfl, trivial⟩

theorem mem_subnetsOn {t : Topology} {subnetId networkId : String} :
    subnetId ∈ t.subnetsOn networkId ↔ t.subnets.get? subnetId = some networkId := by
  simp only [subnetsOn, List.mem_map, List.mem_filter, decide_eq_true_eq, Prod.exists]
  constructor
  · intro h
    obtain ⟨id, n, ⟨hmem, rfl⟩, rfl⟩ := h
    exact IdMap.mem_entries_iff.mp hmem
  · intro h
    exact ⟨subnetId, networkId, ⟨IdMap.mem_entries_iff.mpr h, rfl⟩, rfl⟩

theorem subnetsOn_ne_nil {t : Topology} {networkId : String} (h : networkId ∈ t.networks) :
    t.subnetsOn networkId ≠ [] := by
  obtain ⟨subnetId, hget⟩ := mem_networks.mp h
  exact List.ne_nil_of_mem (mem_subnetsOn.mpr hget)

end Topology

namespace Substrate

variable {s t : Substrate}

/-- A subnet is on one network. -/
theorem Registered.unique {subnetId networkId networkId' : String}
    (h : s.Registered subnetId networkId) (h' : s.Registered subnetId networkId') :
    networkId = networkId' := by
  obtain ⟨subnet, hget, rfl⟩ := h
  obtain ⟨subnet', hget', rfl⟩ := h'
  rw [hget] at hget'
  cases hget'
  rfl

/-- The load balancer wants the subnet to be reached by the network. The network named with the
virtual address counts only if no live member asks for the subnet as well. -/
def Wanted (s : Substrate) (lb : LoadBalancer) (subnetId networkId : String) : Prop :=
  (lb.Demands subnetId ∧ s.Registered subnetId networkId) ∨
    (¬ lb.Demands subnetId ∧ lb.vip.subnetId = subnetId ∧ lb.vip.networkId = networkId)

/-- Every subnet that a live member asks for exists. -/
def Answered (s : Substrate) (lb : LoadBalancer) : Prop :=
  ∀ d ∈ lb.demands, ∃ networkId, s.Registered d.1 networkId

theorem wanted_congr (h : t.subnets = s.subnets) (lb : LoadBalancer) :
    t.Wanted lb = s.Wanted lb := by
  funext subnetId networkId
  unfold Wanted Registered
  rw [h]

theorem answered_congr (h : t.subnets = s.subnets) {lb : LoadBalancer} :
    t.Answered lb ↔ s.Answered lb := by
  unfold Answered Registered
  rw [h]

def networkOf (s : Substrate) (subnetId : String) : String :=
  ((s.subnets.get? subnetId).map (·.networkId)).getD ""

theorem Registered.networkOf_eq {subnetId networkId : String}
    (h : s.Registered subnetId networkId) : s.networkOf subnetId = networkId := by
  obtain ⟨subnet, hget, rfl⟩ := h
  simp [networkOf, hget]

def demanded (s : Substrate) (t : Topology) (demands : List (String × VnicType)) : Topology :=
  demands.foldl (fun t d => t.addMember d.1 (s.networkOf d.1) d.2) t

/-- What is to be reached. -/
def desired (s : Substrate) (lb : LoadBalancer) : Topology := s.demanded (.ofVip lb.vip) lb.demands

/-- A demand puts its subnet on the network where it is registered, whatever was said of it
before. -/
theorem get?_subnets_demanded (s : Substrate) (t : Topology) (demands : List (String × VnicType))
    (subnetId : String) : (s.demanded t demands).subnets.get? subnetId =
      if ∃ d ∈ demands, d.1 = subnetId then some (s.networkOf subnetId)
      else t.subnets.get? subnetId := by
  induction demands generalizing t with
  | nil => simp [demanded]
  | cons d demands ih =>
    have hcons : s.demanded t (d :: demands) =
        s.demanded (t.addMember d.1 (s.networkOf d.1) d.2) demands := rfl
    rw [hcons, ih]
    by_cases hlater : ∃ d' ∈ demands, d'.1 = subnetId
    · simp [hlater]
    · by_cases hhead : d.1 = subnetId
      · subst hhead
        simp [hlater, Topology.addMember]
      · simp [hlater, hhead, Topology.addMember, IdMap.get?_insert, Ne.symm hhead]

/-- What is to be reached is what is wanted. -/
theorem get?_subnets_desired {lb : LoadBalancer} (h : s.Answered lb) {subnetId networkId : String} :
    (s.desired lb).subnets.get? subnetId = some networkId ↔ s.Wanted lb subnetId networkId := by
  unfold desired
  rw [get?_subnets_demanded]
  unfold Wanted
  by_cases hdemands : lb.Demands subnetId
  · obtain ⟨d, hd, rfl⟩ := LoadBalancer.demands_iff.mp hdemands
    obtain ⟨n, hn⟩ := h d hd
    rw [if_pos ⟨d, hd, rfl⟩, hn.networkOf_eq]
    simp only [hdemands, Option.some.injEq, true_and, not_true_eq_false, false_and, or_false]
    constructor
    · intro h
      subst h
      exact hn
    · exact fun hn' => hn.unique hn'
  · rw [if_neg fun h => hdemands (LoadBalancer.demands_iff.mpr h)]
    simp only [hdemands, false_and, not_false_eq_true, true_and, false_or, Topology.ofVip,
      IdMap.get?_insert, IdMap.get?_empty]
    by_cases hvip : subnetId = lb.vip.subnetId
    · simp [hvip]
    · simp [hvip, Ne.symm hvip]

/-- The interfaces of an instance outside the management networks, by their networks. -/
def attached (s : Substrate) (management : List String) (c : String) : IdMap Interface :=
  .ofList ((((s.pluggedPorts c).map Port.toInterface).filter fun i =>
    !management.contains i.networkId).map fun i => (i.networkId, i))

/-- The last port on a network stands for it, and management networks are left out. -/
theorem get?_attached (s : Substrate) (management : List String) (c networkId : String) :
    (s.attached management c).get? networkId =
      if networkId ∈ management then none
      else (s.portsOn c networkId).getLast?.map Port.toInterface := by
  have hkeys : ∀ l : List Interface, ((l.map fun i => (i.networkId, i)).filter fun e =>
      decide (e.1 = networkId)).map (·.2) = l.filter fun i => decide (i.networkId = networkId) := by
    intro l
    simp [List.filter_map, Function.comp_def]
  unfold attached
  rw [IdMap.get?_ofList, ← List.getLast?_map, hkeys, List.filter_filter, List.filter_map]
  split
  next hmanagement =>
    have hnone : (s.pluggedPorts c).filter ((fun i : Interface =>
        decide (i.networkId = networkId) && !management.contains i.networkId) ∘ Port.toInterface) =
        [] := by
      simp only [List.filter_eq_nil_iff, Function.comp_apply, Bool.and_eq_true, decide_eq_true_eq]
      intro p _ h
      obtain ⟨rfl, hnot⟩ := h
      simp [hmanagement] at hnot
    rw [hnone]
    rfl
  next hmanagement =>
    have hports : (s.pluggedPorts c).filter ((fun i : Interface =>
        decide (i.networkId = networkId) && !management.contains i.networkId) ∘ Port.toInterface) =
        s.portsOn c networkId := by
      unfold portsOn
      apply List.filter_congr
      intro p _
      by_cases hnet : p.networkId = networkId
      · subst hnet
        simp [Port.toInterface, hmanagement]
      · simp [Port.toInterface, hnet]
    rw [hports, List.getLast?_map]

/-! Computing -/

/-- Subnets that are known already are known by the networks that they are registered on. -/
def Knows (s : Substrate) (known : KnownSubnets) : Prop :=
  ∀ subnetId networkId, known.get? subnetId = some networkId → s.Registered subnetId networkId

theorem knows_empty (s : Substrate) : s.Knows .empty := by
  intro subnetId networkId h
  cases h

theorem Heard.knows {known : KnownSubnets} (h : s.Heard t) : t.Knows known ↔ s.Knows known := by
  unfold Knows Registered
  rw [h.subnets]

/-- The network of a subnet is looked up if it is not known, and then it is known. -/
theorem ends_networkOfSubnet {known : KnownSubnets} (hknown : s.Knows known) (subnetId : String) :
    (networkOfSubnet known subnetId).Ends s
      (fun r t => s.Heard t ∧ s.Registered subnetId r.1 ∧ s.Knows r.2)
      fun _ t => s.Heard t ∧ (s.faults = [] → ¬ ∃ networkId, s.Registered subnetId networkId) := by
  unfold networkOfSubnet
  cases hget : known.get? subnetId with
  | some networkId => exact ends_pure ⟨.refl s, hknown _ _ hget, hknown⟩
  | none =>
    refine (ends_getSubnet subnetId s).bind ?_ ?_
    · intro subnet t hend
      obtain ⟨h, hsubnet⟩ := hend
      have hregistered : s.Registered subnetId subnet.networkId := ⟨subnet, hsubnet, rfl⟩
      refine ends_pure ⟨h, hregistered, fun id n hn => ?_⟩
      rw [IdMap.get?_insert] at hn
      split at hn
      next heq =>
        cases hn
        exact heq ▸ hregistered
      next => exact hknown id n hn
    · intro e t hend
      obtain ⟨h, hwhy⟩ := hend
      refine ⟨h, fun hnil hex => ?_⟩
      obtain ⟨n, subnet, hsubnet, -⟩ := hex
      simp [hwhy hnil] at hsubnet

/-- All demands are added, or one of them is for a subnet that does not exist. -/
theorem ends_addDemands {known : KnownSubnets} (hknown : s.Knows known) (topology : Topology)
    (demands : List (String × VnicType)) : (addDemands topology known demands).Ends s
      (fun r t => s.Heard t ∧ r.1 = s.demanded topology demands ∧ s.Knows r.2 ∧
        ∀ d ∈ demands, ∃ networkId, s.Registered d.1 networkId)
      fun _ t => s.Heard t ∧
        (s.faults = [] → ¬ ∀ d ∈ demands, ∃ networkId, s.Registered d.1 networkId) := by
  induction demands generalizing s topology known with
  | nil => exact ends_pure ⟨.refl s, rfl, hknown, by simp⟩
  | cons d demands ih =>
    refine (ends_networkOfSubnet hknown d.1).bind ?_ ?_
    · intro hend t hrest
      obtain ⟨networkId, known'⟩ := hend
      obtain ⟨h, hregistered, hknown'⟩ := hrest
      have hsame : t.demanded = s.demanded := by
        unfold demanded networkOf
        rw [h.subnets]
      apply (ih (h.knows.mpr hknown') _).mono
      · intro r u hend
        obtain ⟨h', htopology, hknows, hall⟩ := hend
        refine ⟨h.trans h', ?_, h.knows.mp hknows, ?_⟩
        · rw [htopology, hsame]
          unfold demanded
          rw [List.foldl_cons, hregistered.networkOf_eq]
        · intro d' hd'
          rcases List.mem_cons.mp hd' with rfl | hd'
          · exact ⟨networkId, hregistered⟩
          · obtain ⟨n, hn⟩ := hall d' hd'
            exact ⟨n, h.sameNetworks.registered.mp hn⟩
      · intro e u hend
        obtain ⟨h', hwhy⟩ := hend
        refine ⟨h.trans h', fun hnil hall => hwhy (h.faults_nil hnil) fun d' hd' => ?_⟩
        obtain ⟨n, hn⟩ := hall d' (List.mem_cons_of_mem _ hd')
        exact ⟨n, h.sameNetworks.registered.mpr hn⟩
    · intro e t hend
      obtain ⟨h, hwhy⟩ := hend
      exact ⟨h, fun hnil hall => hwhy hnil (hall d List.mem_cons_self)⟩

/-- The interfaces of an instance are listed unless it does not exist. -/
theorem ends_attachments (management : List String) (amphora : Amphora) (s : Substrate) :
    (attachments management amphora).Ends s
      (fun plugged t => s.Heard t ∧ plugged = s.attached management amphora.instanceId ∧
        s.plugged.contains amphora.instanceId)
      fun _ t => s.Heard t ∧ (s.faults = [] → s.plugged.contains amphora.instanceId = false) := by
  refine (ends_getPluggedNetworks amphora.instanceId s).bind ?_ (fun e t h => h)
  intro interfaces t hend
  obtain ⟨h, rfl, hhosted⟩ := hend
  exact ends_pure ⟨h, rfl, hhosted⟩

/-- The delta that leads an amphora from what it is attached to, to what is wanted. -/
def delta (s : Substrate) (management : List String) (lb : LoadBalancer) (amphora : Amphora) :
    Delta :=
  .between amphora (s.desired lb) (s.attached management amphora.instanceId)

/-- What there is to compute the delta from: every subnet that is asked for, and the instance. -/
structure Computable (s : Substrate) (lb : LoadBalancer) (amphora : Amphora) : Prop where
  answered : s.Answered lb
  hosted : s.plugged.contains amphora.instanceId

/-- A delta depends on what its own instance is attached to and on the subnets. -/
theorem delta_congr {s t : Substrate} (hsubnets : t.subnets = s.subnets) {amphora : Amphora}
    (hplugged : t.pluggedPorts amphora.instanceId = s.pluggedPorts amphora.instanceId)
    (management : List String) (lb : LoadBalancer) :
    t.delta management lb amphora = s.delta management lb amphora := by
  simp only [delta, desired, demanded, networkOf, attached, hsubnets, hplugged]

theorem computable_congr (hplugged : t.plugged = s.plugged) (hsubnets : t.subnets = s.subnets)
    {lb : LoadBalancer} {amphora : Amphora} :
    t.Computable lb amphora ↔ s.Computable lb amphora := by
  constructor
  · exact fun h => ⟨(answered_congr hsubnets).mp h.answered, hplugged ▸ h.hosted⟩
  · exact fun h => ⟨(answered_congr hsubnets).mpr h.answered, hplugged ▸ h.hosted⟩

theorem Heard.delta_eq (h : s.Heard t) : t.delta = s.delta := by
  funext management lb amphora
  refine delta_congr h.subnets ?_ management lb
  simp only [pluggedPorts, pluggedPortIds, h.ports, h.plugged]

theorem Heard.computable (h : s.Heard t) {lb : LoadBalancer} {amphora : Amphora} :
    t.Computable lb amphora ↔ s.Computable lb amphora :=
  computable_congr h.plugged h.subnets

/-- A computation leaves all but the journal and the faults as it is, and what is known stays
right. -/
theorem ends_computeDeltaKnowing {known : KnownSubnets} (hknown : s.Knows known)
    (management : List String) (lb : LoadBalancer) (amphora : Amphora) :
    (computeDeltaKnowing management lb amphora known).Ends s
      (fun r t => s.Heard t ∧ r.1 = s.delta management lb amphora ∧ s.Knows r.2 ∧
        s.Computable lb amphora)
      fun _ t => s.Heard t ∧ (s.faults = [] → ¬ s.Computable lb amphora) := by
  refine (ends_addDemands hknown (.ofVip lb.vip) lb.demands).bind ?_ ?_
  · intro r t hend
    obtain ⟨wanted, known'⟩ := r
    obtain ⟨h, rfl, hknows, hanswered⟩ := hend
    refine (ends_attachments management amphora t).bind ?_ ?_
    · intro plugged u hend
      obtain ⟨h', rfl, hhosted⟩ := hend
      refine ends_pure ⟨h.trans h', ?_, hknows, hanswered, h.plugged ▸ hhosted⟩
      rw [← h.delta_eq]
      unfold delta desired
      simp only [demanded, networkOf, h.subnets]
    · intro e u hend
      obtain ⟨h', hwhy⟩ := hend
      refine ⟨h.trans h', fun hnil hcomputable => ?_⟩
      have hhosted := h.plugged ▸ hcomputable.hosted
      simp [hwhy (h.faults_nil hnil)] at hhosted
  · intro e t hend
    obtain ⟨h, hwhy⟩ := hend
    exact ⟨h, fun hnil hcomputable => hwhy hnil hcomputable.answered⟩

/-- Without scripted failures a delta can be computed exactly if there is what it takes. -/
theorem ends_computeDelta_iff (management : List String) (lb : LoadBalancer) (amphora : Amphora)
    (s : Substrate) : (computeDelta management lb amphora).Ends s
      (fun delta t => s.Heard t ∧ delta = s.delta management lb amphora ∧
        s.Computable lb amphora)
      fun _ t => s.Heard t ∧ (s.faults = [] → ¬ s.Computable lb amphora) := by
  refine (ends_computeDeltaKnowing s.knows_empty management lb amphora).bind ?_ (fun e t h => h)
  intro r t hend
  obtain ⟨delta, known⟩ := r
  obtain ⟨h, hdelta, -, hcomputable⟩ := hend
  exact ends_pure ⟨h, hdelta, hcomputable⟩

/-- A delta that can be computed is. -/
theorem computeDelta_eq (hquiet : s.faults = []) (management : List String) {lb : LoadBalancer}
    {amphora : Amphora} (h : s.Computable lb amphora) : ∃ t,
      (computeDelta management lb amphora).runOn s = (.ok (s.delta management lb amphora), t) := by
  have hend := (ends_computeDelta_iff management lb amphora s).mono (fun _ _ h => h)
    fun _ _ hend => hend.2 hquiet h
  obtain ⟨delta, t, hrun, -, rfl, -⟩ := hend.value
  exact ⟨t, hrun⟩

/-- A computation that starts without knowledge. -/
theorem ends_computeDelta (management : List String) (lb : LoadBalancer) (amphora : Amphora)
    (s : Substrate) : (computeDelta management lb amphora).Ends s
      (fun delta t => s.Heard t ∧ delta = s.delta management lb amphora ∧ s.Answered lb)
      fun _ t => s.Heard t :=
  (ends_computeDelta_iff management lb amphora s).mono
    (fun _ _ h => ⟨h.1, h.2.1, h.2.2.answered⟩) fun _ _ h => h.1

/-- By induction on the amphorae, handing on what is known. -/
theorem ends_computeDeltasKnowing {known : KnownSubnets} (hknown : s.Knows known)
    (management : List String) (lb : LoadBalancer) (amphorae : List Amphora) :
    (computeDeltasKnowing management lb known amphorae).Ends s
      (fun deltas t => s.Heard t ∧
        deltas = amphorae.map (fun a => (a.id, s.delta management lb a)) ∧
        ∀ a ∈ amphorae, s.Computable lb a)
      fun _ t => s.Heard t ∧ (s.faults = [] → ¬ ∀ a ∈ amphorae, s.Computable lb a) := by
  induction amphorae generalizing s known with
  | nil => exact ends_pure ⟨.refl s, rfl, by simp⟩
  | cons a amphorae ih =>
    refine (ends_computeDeltaKnowing hknown management lb a).bind ?_ ?_
    · intro r t hend
      obtain ⟨delta, known'⟩ := r
      obtain ⟨h, rfl, hknows, hcomputable⟩ := hend
      refine (ih (h.knows.mpr hknows)).bind ?_ ?_
      · intro deltas u hend
        obtain ⟨h', rfl, hall⟩ := hend
        refine ends_pure ⟨h.trans h', ?_, ?_⟩
        · rw [h.delta_eq, List.map_cons]
        · exact List.forall_mem_cons.mpr
            ⟨hcomputable, fun a' ha' => h.computable.mp (hall a' ha')⟩
      · intro e u hend
        obtain ⟨h', hwhy⟩ := hend
        refine ⟨h.trans h', fun hnil hall => hwhy (h.faults_nil hnil) fun a' ha' => ?_⟩
        exact h.computable.mpr (hall a' (List.mem_cons_of_mem _ ha'))
    · intro e t hend
      obtain ⟨h, hwhy⟩ := hend
      exact ⟨h, fun hnil hall => hwhy hnil (hall a List.mem_cons_self)⟩

/-- Without scripted failures the deltas can be computed exactly if each of them can be. -/
theorem ends_computeDeltas_iff (management : List String) (lb : LoadBalancer) (s : Substrate) :
    (computeDeltas management lb).Ends s
      (fun deltas t => s.Heard t ∧ deltas =
        .ofList (lb.allocatedAmphorae.map fun a => (a.id, s.delta management lb a)) ∧
        ∀ a ∈ lb.allocatedAmphorae, s.Computable lb a)
      fun _ t => s.Heard t ∧
        (s.faults = [] → ¬ ∀ a ∈ lb.allocatedAmphorae, s.Computable lb a) := by
  refine (ends_computeDeltasKnowing s.knows_empty management lb lb.allocatedAmphorae).bind ?_
    (fun e t h => h)
  intro deltas t hend
  obtain ⟨h, rfl, hall⟩ := hend
  exact ends_pure ⟨h, rfl, hall⟩

/-- Without faults the deltas are computed if each of them can be. -/
theorem computeDeltas_eq (hquiet : s.faults = []) (management : List String) {lb : LoadBalancer}
    (h : ∀ a ∈ lb.allocatedAmphorae, s.Computable lb a) : ∃ t,
      (computeDeltas management lb).runOn s = (.ok (.ofList
        (lb.allocatedAmphorae.map fun a => (a.id, s.delta management lb a))), t) := by
  have hend := (ends_computeDeltas_iff management lb s).mono (fun _ _ h => h)
    fun _ _ hend => hend.2 hquiet h
  obtain ⟨deltas, t, hrun, -, rfl, -⟩ := hend.value
  exact ⟨t, hrun⟩

theorem ends_computeDeltas (management : List String) (lb : LoadBalancer) (s : Substrate) :
    (computeDeltas management lb).Ends s
      (fun deltas t => s.Heard t ∧ deltas =
        .ofList (lb.allocatedAmphorae.map fun a => (a.id, s.delta management lb a)))
      fun _ t => s.Heard t ∧ (s.faults = [] → s.Answered lb →
        ¬ ∀ a ∈ lb.allocatedAmphorae, s.plugged.contains a.instanceId) := by
  apply (ends_computeDeltas_iff management lb s).mono
  · exact fun deltas t h => ⟨h.1, h.2.1⟩
  · intro e t hend
    obtain ⟨h, hwhy⟩ := hend
    exact ⟨h, fun hnil hanswered hall => hwhy hnil fun a ha => ⟨hanswered, hall a ha⟩⟩

end Substrate

end AmphoraWiring
