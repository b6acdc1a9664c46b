import AmphoraWiring.Proofs.Delta.Wanted
import AmphoraWiring.Proofs.Seeding

/-!
Computing deltas where no failure is scripted. What is computed, why nothing is, and which calls
are made, is told from the substrate alone. The deltas of several amphorae are what each of them
would be by itself: that the network of a subnet is remembered from one amphora to the next saves
calls and changes no result.
-/
namespace AmphoraWiring.Substrate

open Action

variable {s : Substrate} {lb : LoadBalancer}

/-- Without faults a look-up of a subnet is journaled, and fails only if there is no such subnet. -/
theorem ends_getSubnet_quiet (hquiet : s.faults = []) (id : String) : (getSubnet id).Ends s
    (fun subnet t => t = s.journaled [⟨.getSubnet, id⟩] ∧ s.subnets.get? id = some subnet)
    fun e _ => s.subnets.contains id = false ∧ e = .subnetNotFound id := by
  refine ends_quiet hquiet (ends_get ((ends_orFail_reason _ _ _).mono (fun _ _ h => h) ?_))
  intro e t hend
  obtain ⟨-, hnone, rfl⟩ := hend
  exact ⟨IdMap.contains_eq_false_iff.mpr hnone, rfl⟩

theorem ends_getPluggedNetworks_quiet (hquiet : s.faults = []) (c : String) :
    (getPluggedNetworks c).Ends s
      (fun _ t => t = s.journaled [⟨.getPluggedNetworks, c⟩] ∧ s.plugged.contains c)
      fun e _ => s.plugged.contains c = false ∧
        e = .notFound ("Instance " ++ c ++ " could not be found") := by
  refine ends_quiet hquiet (Ends.bind (ends_get (ends_orFail_reason _ _ _)) ?_ ?_)
  · intro ids t hend
    obtain ⟨rfl, hids⟩ := hend
    exact ends_get (ends_pure ⟨rfl, IdMap.contains_iff.mpr ⟨ids, hids⟩⟩)
  · intro e t hend
    obtain ⟨-, hnone, rfl⟩ := hend
    exact ⟨IdMap.contains_eq_false_iff.mpr hnone, rfl⟩

theorem ends_attachments_quiet (hquiet : s.faults = []) (management : List String)
    (amphora : Amphora) : (attachments management amphora).Ends s
      (fun _ t => t = s.journaled [⟨.getPluggedNetworks, amphora.instanceId⟩] ∧
        s.plugged.contains amphora.instanceId)
      fun e _ => s.plugged.contains amphora.instanceId = false ∧
        e = .notFound ("Instance " ++ amphora.instanceId ++ " could not be found") :=
  (ends_getPluggedNetworks_quiet hquiet amphora.instanceId).bind (fun _ _ h => ends_pure h)
    fun _ _ h => h

/-! Looking up subnets -/

/-- The subnets that are to be looked up for the demands: those that are not known yet, each once
and in the order in which they come up. -/
def lookups (known : KnownSubnets) (demands : List (String × VnicType)) : List String :=
  ((demands.map (·.1)).filter fun id => !known.contains id).eraseDups

/-- The first of several demands is looked up unless it is known, and known afterwards. -/
theorem lookups_cons {known known' : KnownSubnets} {d : String × VnicType}
    (hknown' : ∀ id, known'.contains id = (known.contains id || id == d.1))
    (demands : List (String × VnicType)) : lookups known (d :: demands) =
      (if known.contains d.1 then [] else [d.1]) ++ lookups known' demands := by
  unfold lookups
  rw [List.map_cons, List.filter_cons]
  cases hd : known.contains d.1 with
  | true =>
    have hsame : ∀ id, known'.contains id = known.contains id := by
      intro id
      by_cases hid : id = d.1
      · simp [hknown', hid, hd]
      · simp [hknown', hid]
    simp [hsame]
  | false =>
    simp [List.eraseDups_cons, List.filter_filter, hknown', Bool.and_comm]

theorem nodup_eraseDups (l : List String) : l.eraseDups.Nodup := by
  match l with
  | [] => exact List.nodup_nil
  | id :: rest =>
    rw [List.eraseDups_cons, List.nodup_cons]
    exact ⟨by simp, nodup_eraseDups _⟩
termination_by l.length
decreasing_by exact Nat.lt_succ_of_le (List.length_filter_le _ rest)

theorem mem_lookups_empty {lb : LoadBalancer} {id : String} :
    id ∈ lookups .empty lb.demands ↔ lb.Demands id := by
  have hmissing : ∀ id, (IdMap.empty : KnownSubnets).contains id = false := fun _ => rfl
  rw [lookups, List.mem_eraseDups, List.mem_filter, LoadBalancer.demands_iff]
  simp [hmissing]

/-- A look-up adds its subnet to what is known, and is a call unless the subnet was known. -/
theorem ends_networkOfSubnet_quiet (hquiet : s.faults = []) {known : KnownSubnets}
    (hknown : s.Knows known) (subnetId : String) : (networkOfSubnet known subnetId).Ends s
      (fun r t =>
        t = s.journaled (if known.contains subnetId then [] else [⟨.getSubnet, subnetId⟩]) ∧
        s.subnets.contains subnetId ∧
        ∀ id, r.2.contains id = (known.contains id || id == subnetId))
      fun e _ => s.subnets.contains subnetId = false ∧ e = .subnetNotFound subnetId := by
  unfold networkOfSubnet
  cases hget : known.get? subnetId with
  | some networkId =>
    obtain ⟨subnet, hsubnet, -⟩ := hknown subnetId networkId hget
    have hcontains : known.contains subnetId := IdMap.contains_iff.mpr ⟨networkId, hget⟩
    refine ends_pure ⟨by simp [hcontains], IdMap.contains_iff.mpr ⟨subnet, hsubnet⟩, fun id => ?_⟩
    by_cases hid : id = subnetId
    · simp [hid, hcontains]
    · simp [hid]
  | none =>
    have hmissing : known.contains subnetId = false := IdMap.contains_eq_false_iff.mpr hget
    refine (ends_getSubnet_quiet hquiet subnetId).bind ?_ (fun e t h => h)
    intro subnet t hend
    obtain ⟨rfl, hsubnet⟩ := hend
    refine ends_pure ⟨by simp [hmissing], IdMap.contains_iff.mpr ⟨subnet, hsubnet⟩, fun id => ?_⟩
    unfold IdMap.contains
    rw [IdMap.get?_insert]
    by_cases hid : id = subnetId
    · simp [hid]
    · simp [hid]

/-- The first demand for a subnet that does not exist. -/
def unanswered (s : Substrate) (demands : List (String × VnicType)) : Option String :=
  (demands.find? fun d => !s.subnets.contains d.1).map (·.1)

/-- Each unknown subnet is looked up once, up to the first that does not exist. -/
theorem ends_addDemands_quiet (hquiet : s.faults = []) {known : KnownSubnets}
    (hknown : s.Knows known) (topology : Topology) (demands : List (String × VnicType)) :
    (addDemands topology known demands).Ends s
      (fun r t => t = s.journaled ((lookups known demands).map (⟨.getSubnet, ·⟩)) ∧
        s.unanswered demands = none ∧
        ∀ id, r.2.contains id ↔ known.contains id ∨ ∃ d ∈ demands, d.1 = id)
      fun e _ => ∃ subnetId, s.unanswered demands = some subnetId ∧
        e = .subnetNotFound subnetId := by
  induction demands generalizing s topology known with
  | nil => exact ends_pure ⟨by simp [lookups], rfl, by simp⟩
  | cons d demands ih =>
    have hknows := ends_networkOfSubnet hknown d.1
    refine (hknows.and (ends_networkOfSubnet_quiet hquiet hknown d.1)).bind ?_ ?_
    · intro r t hend
      obtain ⟨networkId, known'⟩ := r
      obtain ⟨⟨hheard, -, hknown'⟩, rfl, hsubnet, hcontains⟩ := hend
      apply (ih (hheard.faults_nil hquiet) (hheard.knows.mpr hknown') _).mono
      · intro r t hend
        obtain ⟨rfl, hnone, hall⟩ := hend
        refine ⟨?_, ?_, ?_⟩
        · rw [journaled_journaled, lookups_cons hcontains]
          split <;> rfl
        · unfold unanswered at hnone ⊢
          rwa [List.find?_cons_of_neg (by simp [hsubnet])]
        · intro id
          rw [hall, hcontains, Bool.or_eq_true, beq_iff_eq, List.exists_mem_cons_iff, or_assoc,
            eq_comm (a := id)]
      · intro e t hend
        obtain ⟨subnetId, hsome, rfl⟩ := hend
        refine ⟨subnetId, ?_, rfl⟩
        unfold unanswered at hsome ⊢
        rwa [List.find?_cons_of_neg (by simp [hsubnet])]
    · intro e t hend
      obtain ⟨-, hmissing, rfl⟩ := hend
      exact ⟨d.1, by simp [unanswered, hmissing], rfl⟩

/-! Computing one delta -/

/-- Why the delta of an amphora cannot be computed. -/
def refusal (s : Substrate) (lb : LoadBalancer) (amphora : Amphora) : Option NetworkError :=
  match s.unanswered lb.demands with
  | some subnetId => some (.subnetNotFound subnetId)
  | none =>
    if s.plugged.contains amphora.instanceId then none
    else some (.notFound ("Instance " ++ amphora.instanceId ++ " could not be found"))

theorem ends_computeDeltaKnowing_quiet (hquiet : s.faults = []) {known : KnownSubnets}
    (hknown : s.Knows known) (management : List String) (lb : LoadBalancer) (amphora : Amphora) :
    (computeDeltaKnowing management lb amphora known).Ends s
      (fun r t => t = s.journaled ((lookups known lb.demands).map (⟨.getSubnet, ·⟩) ++
          [⟨.getPluggedNetworks, amphora.instanceId⟩]) ∧
        s.refusal lb amphora = none ∧ ∀ id, r.2.contains id ↔ known.contains id ∨ lb.Demands id)
      fun e _ => s.refusal lb amphora = some e := by
  refine (ends_addDemands_quiet hquiet hknown (.ofVip lb.vip) lb.demands).bind ?_ ?_
  · intro r t hend
    obtain ⟨wanted, known'⟩ := r
    obtain ⟨rfl, hanswered, hknown'⟩ := hend
    refine (ends_attachments_quiet (s := s.journaled _) hquiet management amphora).bind ?_ ?_
    · intro plugged t hend
      obtain ⟨rfl, hhosted⟩ := hend
      refine ends_pure ⟨journaled_journaled _ _, ?_, fun id => ?_⟩
      · rw [refusal, hanswered]
        exact if_pos hhosted
      · rw [hknown', LoadBalancer.demands_iff]
    · intro e t hend
      obtain ⟨hmissing, rfl⟩ := hend
      rw [refusal, hanswered]
      exact if_neg (Bool.eq_false_iff.mp hmissing)
  · intro e t hend
    obtain ⟨subnetId, hsome, rfl⟩ := hend
    rw [refusal, hsome]

theorem contains_subnets_iff {subnetId : String} :
    s.subnets.contains subnetId ↔ ∃ networkId, s.Registered subnetId networkId := by
  rw [IdMap.contains_iff]
  constructor
  · intro h
    obtain ⟨subnet, hget⟩ := h
    exact ⟨subnet.networkId, subnet, hget, rfl⟩
  · intro h
    obtain ⟨_, subnet, hget, -⟩ := h
    exact ⟨subnet, hget⟩

/-- No demand is unanswered if each subnet exists. -/
theorem unanswered_eq_none_iff : s.unanswered lb.demands = none ↔ s.Answered lb := by
  rw [unanswered, Option.map_eq_none_iff, List.find?_eq_none]
  simp only [Bool.not_eq_true', Bool.not_eq_false, contains_subnets_iff, Answered]

/-- Nothing stands in the way exactly if there is what it takes. -/
theorem refusal_eq_none_iff {amphora : Amphora} :
    s.refusal lb amphora = none ↔ s.Computable lb amphora := by
  constructor
  · intro h
    cases hunanswered : s.unanswered lb.demands with
    | some subnetId => simp [refusal, hunanswered] at h
    | none =>
      simp only [refusal, hunanswered, ite_eq_left_iff, reduceCtorEq, imp_false, not_not] at h
      exact ⟨unanswered_eq_none_iff.mp hunanswered, h⟩
  · intro h
    rw [refusal, unanswered_eq_none_iff.mpr h.answered]
    exact if_pos h.hosted

/-- What comes of computing the delta of one amphora by itself. -/
theorem computeDelta_result (hquiet : s.faults = []) (management : List String)
    (lb : LoadBalancer) (amphora : Amphora) :
    ((computeDelta management lb amphora).runOn s).1 = match s.refusal lb amphora with
      | some e => .error e
      | none => .ok (s.delta management lb amphora) := by
  have hends : (computeDelta management lb amphora).Ends s
      (fun delta _ => delta = s.delta management lb amphora ∧ s.refusal lb amphora = none)
      fun e _ => s.refusal lb amphora = some e := by
    refine ((ends_computeDeltaKnowing s.knows_empty management lb amphora).and
      (ends_computeDeltaKnowing_quiet hquiet s.knows_empty management lb amphora)).bind ?_ ?_
    · intro r t hend
      obtain ⟨⟨-, hdelta, -⟩, -, hnone, -⟩ := hend
      exact ends_pure ⟨hdelta, hnone⟩
    · intro e t hend
      exact hend.2
  rcases hrun : (computeDelta management lb amphora).runOn s with ⟨e | delta, t⟩
  · rw [hends.of_error hrun]
  · obtain ⟨rfl, hnone⟩ := hends.of_ok hrun
    rw [hnone]

/-- Without faults a delta is computed unless there is a reason against it, and it is the one
described. -/
theorem computeDelta_ok_iff (hquiet : s.faults = []) {management : List String}
    {lb : LoadBalancer} {amphora : Amphora} {delta : Delta} :
    ((computeDelta management lb amphora).runOn s).1 = .ok delta ↔
      s.refusal lb amphora = none ∧ s.delta management lb amphora = delta := by
  rw [computeDelta_result hquiet]
  cases s.refusal lb amphora with
  | none => simp
  | some e => simp

/-- Without faults the failure is the reason against the delta. -/
theorem computeDelta_error_iff (hquiet : s.faults = []) {management : List String}
    {lb : LoadBalancer} {amphora : Amphora} {e : NetworkError} :
    ((computeDelta management lb amphora).runOn s).1 = .error e ↔
      s.refusal lb amphora = some e := by
  rw [computeDelta_result hquiet]
  cases s.refusal lb amphora with
  | none => simp
  | some e => simp

/-! Computing the deltas of several amphorae -/

/-- The calls that it takes to compute the deltas of several amphorae. All look-ups are made for
the first of them. -/
def enquiries (known : KnownSubnets) (lb : LoadBalancer) : List Amphora → List JournalEntry
  | [] => []
  | amphora :: amphorae =>
    (lookups known lb.demands).map (⟨.getSubnet, ·⟩) ++
      (amphora :: amphorae).map (⟨.getPluggedNetworks, ·.instanceId⟩)

/-- Nothing is looked up again. -/
theorem lookups_of_known {known : KnownSubnets} {lb : LoadBalancer}
    (h : ∀ id, lb.Demands id → known.contains id) : lookups known lb.demands = [] := by
  have hnone : ((lb.demands.map (·.1)).filter fun id => !known.contains id) = [] := by
    rw [List.filter_eq_nil_iff]
    intro id hid
    obtain ⟨d, hd, rfl⟩ := List.mem_map.mp hid
    simp [h d.1 (LoadBalancer.demands_iff.mpr ⟨d, hd, rfl⟩)]
  rw [lookups, hnone, List.eraseDups_nil]

/-- Once the subnets are known, each delta takes one call. -/
theorem enquiries_of_known {known : KnownSubnets} {lb : LoadBalancer}
    (h : ∀ id, lb.Demands id → known.contains id) (amphorae : List Amphora) :
    enquiries known lb amphorae = amphorae.map (⟨.getPluggedNetworks, ·.instanceId⟩) := by
  cases amphorae with
  | nil => rfl
  | cons amphora amphorae => rw [enquiries, lookups_of_known h, List.map_nil, List.nil_append]

/-- The batch goes through the amphorae up to the first whose delta cannot be computed. -/
theorem ends_computeDeltasKnowing_quiet (hquiet : s.faults = []) {known : KnownSubnets}
    (hknown : s.Knows known) (management : List String) (lb : LoadBalancer)
    (amphorae : List Amphora) : (computeDeltasKnowing management lb known amphorae).Ends s
      (fun _ t => t = s.journaled (enquiries known lb amphorae) ∧
        ∀ a ∈ amphorae, s.refusal lb a = none)
      fun e _ => ∃ before a after, amphorae = before ++ a :: after ∧
        (∀ b ∈ before, s.refusal lb b = none) ∧ s.refusal lb a = some e := by
  induction amphorae generalizing s known with
  | nil => exact ends_pure ⟨s.journaled_nil.symm, by simp⟩
  | cons a amphorae ih =>
    refine ((ends_computeDeltaKnowing hknown management lb a).and
      (ends_computeDeltaKnowing_quiet hquiet hknown management lb a)).bind ?_ ?_
    · intro r t hend
      obtain ⟨delta, known'⟩ := r
      obtain ⟨⟨hheard, -, hknown', -⟩, rfl, hnone, hcontains⟩ := hend
      refine (ih (hheard.faults_nil hquiet) (hheard.knows.mpr hknown')).bind ?_ ?_
      · intro deltas t hend
        obtain ⟨rfl, hall⟩ := hend
        refine ends_pure ⟨?_, List.forall_mem_cons.mpr ⟨hnone, hall⟩⟩
        -- whatever is asked for is known after the first amphora
        rw [enquiries_of_known fun id hid => (hcontains id).mpr (.inr hid), journaled_journaled,
          enquiries, List.append_assoc, List.map_cons, List.singleton_append]
      · intro e t hend
        obtain ⟨before, b, after, rfl, hbefore, hb⟩ := hend
        exact ⟨a :: before, b, after, rfl, List.forall_mem_cons.mpr ⟨hnone, hbefore⟩, hb⟩
    · intro e t hend
      exact ⟨[], a, amphorae, rfl, by simp, hend.2⟩

/-- Without faults the deltas are computed in turn, and the first that cannot be ends them. -/
theorem ends_computeDeltas_quiet (hquiet : s.faults = []) (management : List String)
    (lb : LoadBalancer) : (computeDeltas management lb).Ends s
      (fun deltas t => t = s.journaled (enquiries .empty lb lb.allocatedAmphorae) ∧
        deltas = .ofList (lb.allocatedAmphorae.map fun a => (a.id, s.delta management lb a)) ∧
        ∀ a ∈ lb.allocatedAmphorae, s.refusal lb a = none)
      fun e _ => ∃ before a after, lb.allocatedAmphorae = before ++ a :: after ∧
        (∀ b ∈ before, s.refusal lb b = none) ∧ s.refusal lb a = some e := by
  refine ((ends_computeDeltasKnowing s.knows_empty management lb lb.allocatedAmphorae).and
    (ends_computeDeltasKnowing_quiet hquiet s.knows_empty management lb _)).bind ?_ ?_
  · intro deltas t hend
    obtain ⟨⟨-, rfl, -⟩, hcalls, hall⟩ := hend
    exact ends_pure ⟨hcalls, rfl, hall⟩
  · intro e t hend
    exact hend.2

/-- Amphorae with different ids have a delta each. -/
theorem get?_deltas_iff {management : List String} {amphorae : List Amphora}
    (hids : (amphorae.map (·.id)).Nodup) {id : String} {delta : Delta} :
    (IdMap.ofList (amphorae.map fun a => (a.id, s.delta management lb a))).get? id = some delta ↔
      ∃ a ∈ amphorae, a.id = id ∧ s.delta management lb a = delta := by
  have hkeys : ((amphorae.map fun a => (a.id, s.delta management lb a)).map (·.1)).Nodup := by
    rwa [List.map_map]
  rw [← IdMap.mem_entries_iff, (IdMap.entries_ofList_perm hkeys).mem_iff]
  simp only [List.mem_map, Prod.mk.injEq]

/-- Several deltas are computed together as each of them is computed alone, and no subnet is looked
up twice. -/
structure Batched (s : Substrate) (lb : LoadBalancer) (alone : Amphora → Except NetworkError Delta)
    (batch : Except NetworkError (IdMap Delta)) (t : Substrate) : Prop where
  ok_iff : (∃ deltas, batch = .ok deltas) ↔
    ∀ a ∈ lb.allocatedAmphorae, ∃ delta, alone a = .ok delta
  get?_iff : ∀ deltas, batch = .ok deltas → ∀ id delta, deltas.get? id = some delta ↔
    ∃ a ∈ lb.allocatedAmphorae, a.id = id ∧ alone a = .ok delta
  /-- The failure is that of the first amphora whose delta cannot be computed. -/
  first_error : ∀ e, batch = .error e → ∃ before a after,
    lb.allocatedAmphorae = before ++ a :: after ∧
      (∀ b ∈ before, ∃ delta, alone b = .ok delta) ∧ alone a = .error e
  calls : ∀ deltas, batch = .ok deltas → lb.allocatedAmphorae ≠ [] → ∃ subnets : List String,
    subnets.Nodup ∧ (∀ id, id ∈ subnets ↔ lb.Demands id) ∧
      t.journal = s.journal ++ (subnets.map (⟨.getSubnet, ·⟩) ++
        lb.allocatedAmphorae.map (⟨.getPluggedNetworks, ·.instanceId⟩))

/-- Without faults the deltas of several amphorae, computed at once, are the ones computed for each
alone; the first failure is theirs, and each subnet is looked up once for all. -/
theorem computeDeltas_batched (hquiet : s.faults = []) (lb : LoadBalancer)
    (hids : (lb.amphorae.map (·.id)).Nodup) (bootNetworks : List String)
    (zone : Option AvailabilityZone) :
    s.Batched lb
      (fun a => ((computeDelta (managementNetworks bootNetworks zone) lb a).runOn s).1)
      ((computeDeltas (managementNetworks bootNetworks zone) lb).runOn s).1
      ((computeDeltas (managementNetworks bootNetworks zone) lb).runOn s).2 := by
  generalize managementNetworks bootNetworks zone = management
  have hallocated : (lb.allocatedAmphorae.map (·.id)).Nodup :=
    hids.sublist (List.filter_sublist.map _)
  have hends := ends_computeDeltas_quiet hquiet management lb
  rcases hrun : (computeDeltas management lb).runOn s with ⟨e | deltas, t⟩
  · obtain ⟨before, a, after, hsplit, hbefore, ha⟩ := hends.of_error hrun
    constructor
    case ok_iff =>
      refine ⟨fun hok => ?_, fun hall => ?_⟩
      · obtain ⟨deltas, hdeltas⟩ := hok
        cases hdeltas
      · obtain ⟨delta, hdelta⟩ := hall a (hsplit ▸ List.mem_append_right _ List.mem_cons_self)
        rw [(computeDelta_error_iff hquiet).mpr ha] at hdelta
        cases hdelta
    case get?_iff => nofun
    case first_error =>
      intro e' he'
      cases he'
      refine ⟨before, a, after, hsplit, fun b hb => ⟨s.delta management lb b, ?_⟩, ?_⟩
      · exact (computeDelta_ok_iff hquiet).mpr ⟨hbefore b hb, rfl⟩
      · exact (computeDelta_error_iff hquiet).mpr ha
    case calls => nofun
  · obtain ⟨rfl, rfl, hall⟩ := hends.of_ok hrun
    constructor
    case ok_iff =>
      refine ⟨fun _ a ha => ⟨s.delta management lb a, ?_⟩, fun _ => ⟨_, rfl⟩⟩
      exact (computeDelta_ok_iff hquiet).mpr ⟨hall a ha, rfl⟩
    case get?_iff =>
      intro deltas hdeltas id delta
      cases hdeltas
      rw [get?_deltas_iff hallocated]
      constructor
      · intro hget
        obtain ⟨a, ha, hid, hdelta⟩ := hget
        exact ⟨a, ha, hid, (computeDelta_ok_iff hquiet).mpr ⟨hall a ha, hdelta⟩⟩
      · intro halone
        obtain ⟨a, ha, hid, hok⟩ := halone
        exact ⟨a, ha, hid, ((computeDelta_ok_iff hquiet).mp hok).2⟩
    case first_error => nofun
    case calls =>
      intro _ _ hsome
      refine ⟨lookups .empty lb.demands, nodup_eraseDups _, fun id => mem_lookups_empty, ?_⟩
      unfold enquiries
      split
      next hnil => exact absurd hnil hsome
      next hcons => rw [hcons]; rfl

/-- Two amphorae that demand one subnet, which is looked up for the first of them only. -/
theorem computeDeltas_batched_pair : ∃ deltas t,
    (computeDeltas (managementNetworks ["mgmt-net"] none) Sample.pair).runOn Sample.wired =
      (.ok deltas, t) ∧
    Sample.wired.Batched Sample.pair
      (fun a => ((computeDelta (managementNetworks ["mgmt-net"] none) Sample.pair a).runOn
        Sample.wired).1) (.ok deltas) t ∧
    Sample.pair.allocatedAmphorae.map (·.id) = ["amp-1", "amp-2"] ∧
    Sample.pair.Demands "subnet-b" := by
  obtain ⟨deltas, t, hrun⟩ := exists_of_isSome
    (computeDeltas (managementNetworks ["mgmt-net"] none) Sample.pair) Sample.wired
    (by decide +kernel)
  have hbatched := computeDeltas_batched (s := Sample.wired) (by decide +kernel) Sample.pair
    (by decide) ["mgmt-net"] none
  rw [hrun] at hbatched
  refine ⟨deltas, t, hrun, hbatched, by decide, ?_⟩
  exact LoadBalancer.demands_iff.mpr (by decide)

end AmphoraWiring.Substrate
