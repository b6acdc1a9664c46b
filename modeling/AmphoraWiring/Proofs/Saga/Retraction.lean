import AmphoraWiring.Proofs.Saga.Additions

/-!
Taking back what deltas have added. Every port that was made for a new interface is found again,
unplugged, deleted and forgotten, and nothing else is touched. So what reverting leaves is what
the step left, without the new ports; where the deltas only add, it is what was there before.
-/
namespace AmphoraWiring

open Action Substrate

namespace Deployment

/-- Nothing is left of the port: it does not exist, no instance lists it, and it has no record. -/
structure Rid (d : Deployment) (id : String) : Prop where
  absent : d.substrate.Absent id
  unbound : ¬ d.repository.Bound id

/-- The ports under the ids in `made` are being taken back since `d`, and no call is going to
fail. Those in `left` are still to be taken back. -/
structure Withdrawing (made left : List String) (d d' : Deployment) : Prop where
  same : d.SameBut made d'
  rid : ∀ id ∈ made, id ∈ left ∨ d'.Rid id
  quiet : d'.substrate.faults = []
  harmless : d'.repository.Harmless

namespace Withdrawing

variable {made left : List String} {d d' d'' : Deployment} {id : String}

theorem begin (hquiet : d.substrate.faults = []) (hharmless : d.repository.Harmless) :
    Withdrawing made made d d :=
  ⟨.refl made d, fun _ hid => .inl hid, hquiet, hharmless⟩

/-- Work on the substrate that touches only such ports. -/
theorem next (h : Withdrawing made left d d')
    (hsame : Substrate.SameBut made d'.substrate d''.substrate)
    (hnetworks : d'.substrate.SameNetworks d''.substrate)
    (habsent : ∀ {id}, d'.substrate.Absent id → d''.substrate.Absent id)
    (hrecords : d'.SameRecords d'') : Withdrawing made left d d'' := by
  constructor
  case same => exact h.same.trans ⟨hsame, hnetworks, by rw [hrecords.1]⟩
  case rid =>
    intro id hid
    refine (h.rid id hid).imp_right fun hrid => ⟨habsent hrid.absent, ?_⟩
    rw [hrecords.1]
    exact hrid.unbound
  case quiet => exact hnetworks.faults_nil h.quiet
  case harmless =>
    rw [hrecords.1]
    exact h.harmless

theorem heard (h : Withdrawing made left d d') (hheard : d'.Heard d'') :
    Withdrawing made left d d'' :=
  h.next (.of_heard hheard.1) hheard.1.sameNetworks (fun habsent => habsent.heard hheard.1) hheard.2

/-- An instance may be detached from a network on which it has only such ports. -/
theorem detached {c networkId : String} (h : Withdrawing made left d d')
    (hmade : d.substrate.idsOn c networkId ⊆ made)
    (hdetached : (d'.substrate.detach c networkId).Heard d''.substrate)
    (hhosted : d'.substrate.plugged.contains c) (hrecords : d'.SameRecords d'') :
    Withdrawing made left d d'' := by
  have hids : d'.substrate.idsOn c networkId ⊆ made := h.same.substrate.idsOn_subset hmade
  exact h.next (.trans (.of_detach hids hhosted) (.of_heard hdetached))
    (.trans (.detach _ c networkId) hdetached.sameNetworks)
    (fun habsent => (habsent.detach c networkId).heard hdetached) hrecords

theorem removed (h : Withdrawing made (id :: left) d d') (hid : id ∈ made)
    (hremoved : (d'.substrate.removePort id).Heard d''.substrate)
    (hunbound : Delta.Unbound id d'.repository d''.repository) :
    Withdrawing made left d d'' := by
  have hbindings : d''.repository.bindings = d'.repository.bindings ∨
      d''.repository.bindings = d'.repository.bindings.filter fun b => b.portId ≠ id :=
    hunbound.repository.imp (·.bindings) (·.bindings)
  constructor
  case same =>
    refine h.same.trans ⟨.trans (.of_removePort hid) (.of_heard hremoved),
      .trans (.removePort _ id) hremoved.sameNetworks, ?_⟩
    rcases hbindings with hbindings | hbindings <;> rw [hbindings]
    rw [List.filter_filter]
    apply List.filter_congr
    intro b _
    by_cases hb : b.portId = id
    · simp [hb, hid]
    · simp [hb]
  case rid =>
    intro other hother
    by_cases heq : other = id
    · subst heq
      exact .inr ⟨(Absent.of_removePort _ _).heard hremoved, hunbound.unbound h.harmless⟩
    · rcases h.rid other hother with hleft | hrid
      · exact .inl ((List.mem_cons.mp hleft).resolve_left heq)
      · refine .inr ⟨(hrid.absent.removePort id).heard hremoved, fun hbound => hrid.unbound ?_⟩
        obtain ⟨b, hb, hport⟩ := hbound
        rcases hbindings with hbindings | hbindings <;> rw [hbindings] at hb
        · exact ⟨b, hb, hport⟩
        · exact ⟨b, List.mem_of_mem_filter hb, hport⟩
  case quiet => exact hremoved.faults_nil h.quiet
  case harmless => exact hunbound.repository.elim (·.harmless h.harmless) (·.harmless h.harmless)

end Withdrawing

end Deployment

open Deployment

namespace Delta

variable {made left : List String} {d : Deployment} {run : Run Deployment} {delta : Delta}
  {ports : List Port}

theorem ends_removeAddedPort_quiet (portId : String) (hquiet : run.state.substrate.faults = []) :
    Effect.Ends (removeAddedPort portId) run fun _ run' =>
      (run.state.substrate.removePort portId).Heard run'.state.substrate ∧
        Unbound portId run.state.repository run'.state.repository := by
  apply (ends_removeAddedPort portId run).mono
  intro _ run' h
  rcases h.ending with ⟨-, hremoved, -⟩ | ⟨e, hdue, -⟩
  · exact ⟨hremoved, h.unbound⟩
  · simp [failuresDue, hquiet, failuresOf] at hdue

/-- An added interface is taken back. -/
theorem ends_removeAddedNic_withdrawing {nic : Interface}
    (h : Withdrawing made ((portOf ports nic).toList ++ left) d run.state)
    (hmade : d.substrate.idsOn delta.computeId nic.networkId ⊆ made)
    (hport : (portOf ports nic).toList ⊆ made) :
    Effect.Ends (removeAddedNic delta ports nic) run fun _ run' =>
      Withdrawing made left d run'.state := by
  have hdetach : Action.Ends (onSubstrate (unplugNetwork delta.computeId nic.networkId)) run
      (fun _ run' => Withdrawing made ((portOf ports nic).toList ++ left) d run'.state)
      fun _ run' => Withdrawing made ((portOf ports nic).toList ++ left) d run'.state := by
    apply (ends_onSubstrate (ends_unplugNetwork delta.computeId nic.networkId _)).mono
    · intro _ run₁ hend
      obtain ⟨⟨hdetached, hhosted⟩, hrecords⟩ := hend
      exact h.detached hmade hdetached hhosted hrecords
    · intro e run₁ hend
      obtain ⟨⟨hheard, -⟩, hrecords⟩ := hend
      exact h.heard ⟨hheard, hrecords⟩
  refine Effect.ends_settle_attempt hdetach ?_
  intro _ run₁ h₁
  cases hfound : portOf ports nic with
  | none =>
    rw [hfound] at h₁
    exact Effect.ends_pure h₁
  | some portId =>
    rw [hfound] at h₁ hport
    apply (ends_removeAddedPort_quiet portId h₁.quiet).mono
    intro _ run₂ hend
    exact h₁.removed (hport (List.mem_singleton_self _)) hend.1 hend.2

theorem ends_unwind_withdrawing
    (h : Withdrawing made (delta.addNics.filterMap (portOf ports) ++ left) d run.state)
    (hmade : ∀ nic ∈ delta.addNics, d.substrate.idsOn delta.computeId nic.networkId ⊆ made)
    (hports : delta.addNics.filterMap (portOf ports) ⊆ made) :
    Effect.Ends (delta.unwind ports) run fun _ run' => Withdrawing made left d run'.state := by
  refine Effect.Ends.forM (fun rest run' =>
    Withdrawing made (rest.filterMap (portOf ports) ++ left) d run'.state) ?_ h
  intro nic hnic rest run₁ h₁
  have hcons : (nic :: rest).filterMap (portOf ports) ++ left =
      (portOf ports nic).toList ++ (rest.filterMap (portOf ports) ++ left) := by
    cases hfound : portOf ports nic <;> simp [hfound]
  rw [hcons] at h₁
  refine ends_removeAddedNic_withdrawing h₁ (hmade nic hnic) fun id hid => hports ?_
  exact List.mem_filterMap.mpr ⟨nic, hnic, by simpa using hid⟩

end Delta

/-- Nothing is dropped with the records of ports that have none. -/
theorem Repository.filter_bindings {r : Repository} {ids : List String}
    (h : ∀ id ∈ ids, ¬ r.Bound id) : r.bindings.filter (·.portId ∉ ids) = r.bindings := by
  rw [List.filter_eq_self]
  intro b hb
  simpa using fun hmem => h b.portId hmem ⟨b, hb, rfl⟩

/-- What the step came to in `d₁` is left in `d₂` without the ports that were made since `d`. -/
structure Retracted (applied : List Application) (d d₁ d₂ : Deployment) : Prop where
  made : ∀ id, d.substrate.ports.get? id = none → d₁.substrate.ports.contains id → d₂.Rid id
  ports : ∀ id, d.substrate.ports.contains id →
    d₂.substrate.ports.get? id = d₁.substrate.ports.get? id
  plugged : ∀ c, d₂.substrate.pluggedPortIds c =
    (d₁.substrate.pluggedPortIds c).filter d.substrate.ports.contains
  bindings : d₂.repository.bindings.filter (fun b => d.substrate.ports.contains b.portId) =
    d₁.repository.bindings.filter fun b => d.substrate.ports.contains b.portId
  interfaces : ∀ c networkId, (∀ x ∈ applied, ¬ x.Gives c networkId) →
    d₂.substrate.portsOn c networkId = d₁.substrate.portsOn c networkId
  restored : (∀ x ∈ applied, x.delta.Additive) → d.substrate.Restored d₂.substrate ∧
    d₂.repository.bindings = d.repository.bindings

namespace Application

variable {applied : List Application} {entries : List (String × Delta)}
  {changed : IdMap (List Port)} {d d₁ d₂ : Deployment}

/-- A port that is there in the end was made on the way or was there before. -/
theorem AllApplied.contains_of_not_new (h : AllApplied applied entries changed d d₁) {id : String}
    {q : Port} (hq : d₁.substrate.ports.get? id = some q)
    (hnot : id ∉ d.substrate.newIds d₁.substrate) : d.substrate.ports.contains id := by
  obtain ⟨p, hp, -⟩ := h.extended.later.get?_old hq hnot
  exact IdMap.contains_iff.mpr ⟨p, hp⟩

/-- Where nothing but interfaces was added, nothing is left of it. -/
theorem AllApplied.restored (h : AllApplied applied entries changed d d₁)
    (hs : d.substrate.Sound) (hw : Withdrawing (d.substrate.newIds d₁.substrate) [] d₁ d₂)
    (hadditive : ∀ x ∈ applied, x.delta.Additive) :
    d.substrate.Restored d₂.substrate ∧ d₂.repository.bindings = d.repository.bindings := by
  have hrid : ∀ id ∈ d.substrate.newIds d₁.substrate, d₂.Rid id :=
    fun id hid => (hw.rid id hid).resolve_left List.not_mem_nil
  have hadded := h.added hadditive
  have hsame := hadded.same.trans hw.same
  constructor
  · exact hsame.substrate.restored (fun id hid => hs.absent_of_new hid)
      fun id hid => (hrid id hid).absent
  · rw [← Repository.filter_bindings hadded.unbound,
      ← Repository.filter_bindings fun id hid => (hrid id hid).unbound]
    exact hsame.bindings

theorem AllApplied.retracted (h : AllApplied applied entries changed d d₁)
    (hs : d.substrate.Sound)
    (hw : Withdrawing (d.substrate.newIds d₁.substrate) [] d₁ d₂) : Retracted applied d d₁ d₂ := by
  have hold : ∀ {id}, d.substrate.ports.contains id → id ∉ d.substrate.newIds d₁.substrate := by
    intro id hid hnew
    obtain ⟨p, hp⟩ := IdMap.contains_iff.mp hid
    simp [(hs.absent_of_new hnew).port] at hp
  have hrid : ∀ id ∈ d.substrate.newIds d₁.substrate, d₂.Rid id :=
    fun id hid => (hw.rid id hid).resolve_left List.not_mem_nil
  have habsent : ∀ id ∈ d.substrate.newIds d₁.substrate, d₂.substrate.Absent id :=
    fun id hid => (hrid id hid).absent
  constructor
  case made =>
    intro id hnone hmade
    obtain ⟨q, hq⟩ := IdMap.contains_iff.mp hmade
    by_contra hnot
    have hid := h.contains_of_not_new hq fun hnew => hnot (hrid id hnew)
    simp [IdMap.contains, hnone] at hid
  case ports => exact fun id hid => hw.same.substrate.ports id (hold hid)
  case plugged =>
    intro c
    rw [hw.same.substrate.pluggedPortIds_eq habsent]
    apply List.filter_congr
    intro id hid
    obtain ⟨q, hq⟩ := h.sound.exists_port hid
    by_cases hnew : id ∈ d.substrate.newIds d₁.substrate
    · have hnone : d.substrate.ports.contains id = false :=
        IdMap.contains_eq_false_iff.mpr (hs.absent_of_new hnew).port
      simp [hnew, hnone]
    · simp [hnew, h.contains_of_not_new hq hnew]
  case bindings =>
    have hfilter : ∀ l : List MemberPortBinding,
        (l.filter (·.portId ∉ d.substrate.newIds d₁.substrate)).filter
          (fun b => d.substrate.ports.contains b.portId) =
        l.filter fun b => d.substrate.ports.contains b.portId := by
      intro l
      rw [List.filter_filter]
      apply List.filter_congr
      intro b _
      cases hid : d.substrate.ports.contains b.portId with
      | false => simp
      | true => simp [hold hid]
    rw [← hfilter, hw.same.bindings, hfilter]
  case interfaces =>
    intro c networkId hnone
    refine hw.same.substrate.portsOn_eq habsent h.sound fun p hp => ?_
    refine h.extended.not_new_of_not_given hs h.sound (fun hgiven => ?_) hp
    obtain ⟨x, hx, hgives⟩ := hgiven
    exact hnone x hx hgives
  case restored => exact h.restored hs hw

/-- Where nothing but interfaces was added, what is left leads to the same deltas. -/
theorem AllApplied.recomputed (h : AllApplied applied entries changed d d₁)
    (hs : d.substrate.Sound) (hw : Withdrawing (d.substrate.newIds d₁.substrate) [] d₁ d₂)
    (hadditive : ∀ x ∈ applied, x.delta.Additive) :
    d₂.substrate.delta = d.substrate.delta ∧
      ∀ lb a, d.substrate.Computable lb a → d₂.substrate.Computable lb a := by
  obtain ⟨hrestored, -⟩ := h.restored hs hw hadditive
  have hsubnets := ((h.added hadditive).same.trans hw.same).networks.subnets
  constructor
  · funext management lb amphora
    refine delta_congr hsubnets ?_ management lb
    simp only [pluggedPorts, pluggedPortIds, hrestored.ports, hrestored.plugged]
  · exact fun lb a hcomputable => (computable_congr hrestored.plugged hsubnets).mpr hcomputable

end Application

namespace Substrate

variable {s t : Substrate} {management : List String} {lb : LoadBalancer} {amphora : Amphora}

/-- The networks to be reached are known to be no management networks. -/
theorem unwanted_networks (hanswered : s.Answered lb)
    (hunwanted : ∀ networkId ∈ management, ¬ ∃ subnetId, s.Wanted lb subnetId networkId) :
    ∀ networkId ∈ management, networkId ∉ (s.desired lb).networks := by
  intro networkId hmanagement hmem
  obtain ⟨subnetId, hget⟩ := Topology.mem_networks.mp hmem
  exact hunwanted networkId hmanagement ⟨subnetId, (get?_subnets_desired hanswered).mp hget⟩

/-- Computing the delta is of no account for what it names. -/
theorem Heard.orderly_delta (h : s.Heard t) (hs : s.Sound) :
    (s.delta management lb amphora).Orderly t :=
  (Delta.orderly_between hs).later h.samePorts.later

theorem Heard.vacant_delta (h : s.Heard t) (hanswered : s.Answered lb)
    (hunwanted : ∀ networkId ∈ management, ¬ ∃ subnetId, s.Wanted lb subnetId networkId)
    {nic : Interface} (hnic : nic ∈ (s.delta management lb amphora).addNics) :
    t.idsOn (s.delta management lb amphora).computeId nic.networkId = [] := by
  have hnone : s.portsOn amphora.instanceId nic.networkId = [] :=
    Delta.portsOn_eq_nil_of_mem_addNics (unwanted_networks hanswered hunwanted) hnic
  rw [← h.samePorts.portsOn] at hnone
  rw [List.eq_nil_iff_forall_not_mem]
  intro id hid
  obtain ⟨hlisted, p, hget, hnet⟩ := mem_idsOn.mp hid
  have hmem : p ∈ t.portsOn amphora.instanceId nic.networkId :=
    mem_portsOn.mpr ⟨⟨id, hlisted, hget⟩, hnet⟩
  simp [hnone] at hmem

end Substrate

namespace Step

open Application

/-- Where the step comes to its end from `run` and is then reverted without failures, the state
that it came to and the state after that are as described. -/
def Reverts {ο : Type} (step : Step ο) (run : Run Deployment)
    (post : Deployment → Deployment → Prop) : Prop :=
  ∀ out run₁, step.execute.runOn run = (.ok out, run₁) → run₁.state.substrate.faults = [] →
    run₁.state.repository.Harmless → post run₁.state ((step.revert out).run run₁).2.state

variable {applied : List Application} {run run₁ : Run Deployment} {changed : IdMap (List Port)}

/-- Reverting finds every port that was made. -/
theorem ends_revertApplied {entries : List (String × Delta)}
    (h : AllApplied applied entries changed run.state run₁.state)
    (hvacant : ∀ e ∈ entries, ∀ nic ∈ e.2.addNics,
      run.state.substrate.idsOn e.2.computeId nic.networkId = [])
    (hquiet : run₁.state.substrate.faults = []) (hharmless : run₁.state.repository.Harmless) :
    Effect.Ends (entries.forM fun e => e.2.unwind ((changed.get? e.1).getD [])) run₁
      fun _ run₂ => Withdrawing (run.state.substrate.newIds run₁.state.substrate) []
        run₁.state run₂.state := by
  have hbegin : Withdrawing (run.state.substrate.newIds run₁.state.substrate)
      (foundPorts entries changed) run₁.state run₁.state := by
    rw [h.found]
    exact .begin hquiet hharmless
  refine Effect.Ends.forM (fun rest run₂ =>
    Withdrawing (run.state.substrate.newIds run₁.state.substrate) (foundPorts rest changed)
      run₁.state run₂.state) ?_ hbegin
  intro e he rest run₂ hw
  rw [foundPorts, List.flatMap_cons] at hw
  refine Delta.ends_unwind_withdrawing hw ?_ ?_
  · exact fun nic hnic => h.extended.idsOn_subset (hvacant e he nic hnic)
  · intro id hid
    rw [← h.found]
    exact List.mem_flatMap.mpr ⟨e, he, hid⟩

theorem reverts_applyDelta {amphoraId : String} {delta : Delta}
    (hs : run.state.substrate.Sound) (hx : run.state.substrate.Exclusive)
    (horderly : delta.Orderly run.state.substrate)
    (hvacant : ∀ nic ∈ delta.addNics,
      run.state.substrate.idsOn delta.computeId nic.networkId = []) :
    (applyDelta amphoraId delta).Reverts run fun d₁ d₂ => ∃ stored changed,
      run.state.repository.amphorae.get? amphoraId = some stored ∧
      AllApplied [⟨stored, delta⟩] [(amphoraId, delta)] changed run.state d₁ ∧
      Withdrawing (run.state.substrate.newIds d₁.substrate) [] d₁ d₂ := by
  intro changed run₁ hexecute hquiet hharmless
  obtain ⟨stored, hget, happlied⟩ := (ends_applyDelta hs hx horderly).of_ok hexecute
  have hend := ends_revertApplied happlied (by simpa using hvacant) hquiet hharmless
  have hone : ([(amphoraId, delta)].forM fun e => e.2.unwind ((changed.get? e.1).getD [])) =
      (applyDelta amphoraId delta).revert changed := bind_pure_unit
  rw [hone] at hend
  exact ⟨stored, changed, hget, happlied, hend.state⟩

theorem reverts_applyDeltas {loadBalancerId : String} {deltas : IdMap Delta}
    (hs : run.state.substrate.Sound) (hx : run.state.substrate.Exclusive)
    (horderly : ∀ e ∈ deltas.entries, e.2.Orderly run.state.substrate)
    (hvacant : ∀ e ∈ deltas.entries, ∀ nic ∈ e.2.addNics,
      run.state.substrate.idsOn e.2.computeId nic.networkId = []) :
    (applyDeltas loadBalancerId deltas).Reverts run fun d₁ d₂ => ∃ changed,
      AllApplied (ofEntries (run.state.repository.amphoraOf loadBalancerId) deltas.entries)
        deltas.entries changed run.state d₁ ∧
      Withdrawing (run.state.substrate.newIds d₁.substrate) [] d₁ d₂ := by
  intro changed run₁ hexecute hquiet hharmless
  have happlied := (ends_applyDeltas hs hx horderly).of_ok hexecute
  exact ⟨changed, happlied, (ends_revertApplied happlied hvacant hquiet hharmless).state⟩

section

variable {s : Substrate} {management : List String} {lb : LoadBalancer}

theorem reverts_computedDelta (hs : s.Sound) (hx : s.Exclusive)
    (hunwanted : ∀ networkId ∈ management, ¬ ∃ subnetId, s.Wanted lb subnetId networkId)
    {amphora : Amphora} {delta : Delta}
    (hcompute : (computeDelta management lb amphora).runOn s = (.ok delta, run.state.substrate))
    (amphoraId : String) : (applyDelta amphoraId delta).Reverts run fun d₁ d₂ =>
      (∃ stored, run.state.repository.amphorae.get? amphoraId = some stored ∧
        Retracted [⟨stored, delta⟩] run.state d₁ d₂) ∧
      (delta.Additive → ∃ s₂,
        (computeDelta management lb amphora).runOn d₂.substrate = (.ok delta, s₂)) := by
  intro changed run₁ hexecute hquiet hharmless
  obtain ⟨hheard, rfl, hcomputable⟩ :=
    (ends_computeDelta_iff management lb amphora s).of_ok hcompute
  obtain ⟨stored, changed, hget, happlied, hw⟩ := reverts_applyDelta (hheard.sound hs)
    (hheard.exclusive hx) (hheard.orderly_delta hs)
    (fun nic hnic => hheard.vacant_delta hcomputable.answered hunwanted hnic)
    changed run₁ hexecute hquiet hharmless
  refine ⟨⟨stored, hget, happlied.retracted (hheard.sound hs) hw⟩, fun hadditive => ?_⟩
  obtain ⟨hdelta, hagain⟩ :=
    happlied.recomputed (hheard.sound hs) hw (by simpa using hadditive)
  obtain ⟨t, hrecompute⟩ := computeDelta_eq hw.quiet management
    (hagain lb amphora (hheard.computable.mpr hcomputable))
  rw [hdelta, hheard.delta_eq] at hrecompute
  exact ⟨t, hrecompute⟩

theorem reverts_computedDeltas (hs : s.Sound) (hx : s.Exclusive)
    (hunwanted : ∀ networkId ∈ management, ¬ ∃ subnetId, s.Wanted lb subnetId networkId)
    {deltas : IdMap Delta}
    (hcompute : (computeDeltas management lb).runOn s = (.ok deltas, run.state.substrate))
    (loadBalancerId : String) : (applyDeltas loadBalancerId deltas).Reverts run fun d₁ d₂ =>
      Retracted (ofEntries (run.state.repository.amphoraOf loadBalancerId) deltas.entries)
        run.state d₁ d₂ ∧
      ((∀ e ∈ deltas.entries, e.2.Additive) → ∃ s₂,
        (computeDeltas management lb).runOn d₂.substrate = (.ok deltas, s₂)) := by
  intro changed run₁ hexecute hquiet hharmless
  obtain ⟨hheard, rfl, hcomputable⟩ := (ends_computeDeltas_iff management lb s).of_ok hcompute
  have hfit : ∀ e ∈ (IdMap.ofList (lb.allocatedAmphorae.map fun a =>
      (a.id, s.delta management lb a))).entries, e.2.Orderly run.state.substrate ∧
      ∀ nic ∈ e.2.addNics, run.state.substrate.idsOn e.2.computeId nic.networkId = [] := by
    intro e he
    have hmem := IdMap.mem_of_get?_ofList (IdMap.mem_entries_iff.mp he)
    obtain ⟨a, ha, heq⟩ := List.mem_map.mp hmem
    have hanswered := (hcomputable a ha).answered
    have hdelta : e.2 = s.delta management lb a := (congrArg Prod.snd heq).symm
    rw [hdelta]
    exact ⟨hheard.orderly_delta hs,
      fun nic hnic => hheard.vacant_delta hanswered hunwanted hnic⟩
  obtain ⟨changed, happlied, hw⟩ := reverts_applyDeltas (hheard.sound hs)
    (hheard.exclusive hx) (fun e he => (hfit e he).1) (fun e he => (hfit e he).2)
    changed run₁ hexecute hquiet hharmless
  refine ⟨happlied.retracted (hheard.sound hs) hw, fun hadditive => ?_⟩
  obtain ⟨hdelta, hagain⟩ := happlied.recomputed (hheard.sound hs) hw
    (forall_mem_ofEntries hadditive)
  obtain ⟨t, hrecompute⟩ := computeDeltas_eq hw.quiet management fun a ha =>
    hagain lb a (hheard.computable.mpr (hcomputable a ha))
  rw [hdelta, hheard.delta_eq] at hrecompute
  exact ⟨t, hrecompute⟩

end

/-- Where no management network is to be reached, reverting a step that has applied computed deltas
takes back the ports that were made, and no others. If the deltas did nothing but add interfaces,
they are what is computed again afterwards. -/
theorem reverted_deltas_take_back_made_ports {s s₁ : Substrate} (hs : s.Sound) (hx : s.Exclusive)
    {management : List String} {lb : LoadBalancer}
    (hunwanted : ∀ networkId ∈ management, ¬ ∃ subnetId, s.Wanted lb subnetId networkId)
    {run : Run Deployment} (hrun : run.state.substrate = s₁) :
    (∀ amphora delta, (computeDelta management lb amphora).runOn s = (.ok delta, s₁) →
      ∀ amphoraId, (applyDelta amphoraId delta).Reverts run fun d₁ d₂ =>
        (∃ stored, run.state.repository.amphorae.get? amphoraId = some stored ∧
          Retracted [⟨stored, delta⟩] run.state d₁ d₂) ∧
        (delta.Additive → ∃ s₂,
          (computeDelta management lb amphora).runOn d₂.substrate = (.ok delta, s₂))) ∧
    ∀ deltas, (computeDeltas management lb).runOn s = (.ok deltas, s₁) →
      ∀ loadBalancerId, (applyDeltas loadBalancerId deltas).Reverts run fun d₁ d₂ =>
        Retracted (ofEntries (run.state.repository.amphoraOf loadBalancerId) deltas.entries)
          run.state d₁ d₂ ∧
        ((∀ e ∈ deltas.entries, e.2.Additive) → ∃ s₂,
          (computeDeltas management lb).runOn d₂.substrate = (.ok deltas, s₂)) := by
  subst hrun
  constructor
  · exact fun amphora delta hcompute => reverts_computedDelta hs hx hunwanted hcompute
  · exact fun deltas hcompute => reverts_computedDeltas hs hx hunwanted hcompute

/-- Both amphorae of the sample deployment get an interface, and lose it again. -/
theorem reverted_deltas_take_back_made_ports_sample : ∃ deltas s₁ changed run₁ s₂,
    (computeDeltas ["mgmt-net"] Sample.pair).runOn Sample.substrate = (.ok deltas, s₁) ∧
    (applyDeltas "lb-1" deltas).execute.runOn (Sample.startPair s₁) = (.ok changed, run₁) ∧
    run₁.state.substrate.idsOn "vm-1" "net-b" ≠ [] ∧
    run₁.state.substrate.idsOn "vm-2" "net-b" ≠ [] ∧
    s₁.Restored (((applyDeltas "lb-1" deltas).revert changed).run run₁).2.state.substrate ∧
    (computeDeltas ["mgmt-net"] Sample.pair).runOn
      (((applyDeltas "lb-1" deltas).revert changed).run run₁).2.state.substrate =
        (.ok deltas, s₂) := by
  obtain ⟨deltas, s₁, hcompute⟩ := exists_of_isSome (computeDeltas ["mgmt-net"] Sample.pair)
    Sample.substrate (by decide +kernel)
  have hunwanted : ∀ networkId ∈ ["mgmt-net"],
      ¬ ∃ subnetId, Sample.substrate.Wanted Sample.pair subnetId networkId := by
    have hcomputable := ((ends_computeDeltas_iff ["mgmt-net"] Sample.pair Sample.substrate).of_ok
      hcompute).2.2 (Sample.amphora "amp-1" "vm-1") (by decide +kernel)
    have hnetworks : "mgmt-net" ∉ (Sample.substrate.desired Sample.pair).networks := by
      decide +kernel
    intro networkId hmanagement hwanted
    rw [List.mem_singleton.mp hmanagement] at hwanted
    obtain ⟨subnetId, hwanted⟩ := hwanted
    exact hnetworks (Topology.mem_networks.mpr
      ⟨subnetId, (get?_subnets_desired hcomputable.answered).mpr hwanted⟩)
  have hsteps : ∃ out ∈ ((computeDeltas ["mgmt-net"] Sample.pair).runOn
        Sample.substrate).1.toOption,
      (∀ e ∈ out.entries, e.2.Additive) ∧
      ∀ reached ∈ [(applyDeltas "lb-1" out).execute.runOn (Sample.startPair
          ((computeDeltas ["mgmt-net"] Sample.pair).runOn Sample.substrate).2)],
        reached.1.toOption.isSome ∧ reached.2.state.substrate.faults = [] ∧
          reached.2.state.repository.script = [] ∧
          reached.2.state.substrate.idsOn "vm-1" "net-b" ≠ [] ∧
          reached.2.state.substrate.idsOn "vm-2" "net-b" ≠ [] := by
    decide +kernel
  rw [hcompute] at hsteps
  obtain ⟨out, hout, hadditive, hreached⟩ := hsteps
  cases hout
  obtain ⟨hok, hend⟩ := hreached _ List.mem_cons_self
  obtain ⟨changed, run₁, hexecute⟩ :=
    exists_of_isSome (applyDeltas "lb-1" deltas).execute (Sample.startPair s₁) hok
  rw [show (applyDeltas "lb-1" deltas).execute.runOn _ = _ from hexecute] at hend
  obtain ⟨hquiet, hscript, hmade⟩ := hend
  obtain ⟨hretracted, hagain⟩ := (reverted_deltas_take_back_made_ports Sample.substrate_fit.1
    Sample.substrate_fit.2 hunwanted (Sample.startPair_substrate s₁)).2 deltas hcompute "lb-1"
      changed run₁ hexecute hquiet (Repository.harmless_of_script_nil hscript)
  obtain ⟨s₂, hagain⟩ := hagain hadditive
  refine ⟨deltas, s₁, changed, run₁, s₂, hcompute, hexecute, hmade.1, hmade.2, ?_, hagain⟩
  exact (hretracted.restored (forall_mem_ofEntries hadditive)).1

end Step

end AmphoraWiring
