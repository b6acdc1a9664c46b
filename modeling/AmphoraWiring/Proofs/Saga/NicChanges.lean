import AmphoraWiring.Proofs.Saga.SubnetChanges
import AmphoraWiring.Proofs.Substrate.Failures
import AmphoraWiring.Proofs.Substrate.Views

/-!
How adding or removing an interface ends, and how taking an added one away again ends, whatever
failures are scripted: what is left in the substrate, in the repository and in the audit trail.
-/
namespace AmphoraWiring

namespace AuditLog

/-- The trail names the object in the report of a leak. -/
def LeakReported (a : AuditLog) (id : String) : Prop :=
  ∃ component kind reason,
    ⟨.error, component, kind ++ " left in use after failed revert: " ++ reason, [id]⟩ ∈ a.events

theorem leakReported_resourceLeaked (a : AuditLog) (kind id reason : String) :
    (a.resourceLeaked kind id reason).LeakReported id :=
  ⟨a.component, kind, reason, by simp [resourceLeaked, log]⟩

/-- What has been reported stays in the trail. -/
theorem LeakReported.later {a b : AuditLog} {id : String} (h : a.LeakReported id)
    (hgrows : a.events <+: b.events) : b.LeakReported id := by
  obtain ⟨component, kind, reason, hmem⟩ := h
  exact ⟨component, kind, reason, hgrows.subset hmem⟩

end AuditLog

namespace Delta

open Action Deployment Substrate

/-! Adding -/

/-- An interface was added: a port was made, plugged into the instance, recorded, and counted. -/
structure NicAdded (amphora : Amphora) (nic : Interface) (changed : ChangedPorts) (d : Deployment)
    (changed' : ChangedPorts) (d' : Deployment) (c : String) (p q : Port) : Prop where
  computeId : amphora.computeId = some c
  hosted : d.substrate.plugged.contains c
  unbound : ¬ d.repository.Bound p.id
  adopts : d.substrate.Adopts d'.substrate (portRequest amphora nic) c p
  filled : p.Matches q
  counted : changed' = changed.insert q.networkId q
  bindings :
    (d.repository.addBinding ⟨amphora.id, p.id, nic.networkId⟩).Heard d'.repository
  audit : d'.audit = (d.audit.portCreated p.id nic.networkId (some amphora.id)).memberPortRecorded
    amphora.id p.id

/-- What is left when an interface could not be added. A port that was made but not plugged in is
deleted again, or reported. One that was plugged in stays; it is recorded unless a record of a
port under its id exists. -/
inductive NicNotAdded (amphora : Amphora) (nic : Interface) (d d' : Deployment) : Prop where
  | refused (u : Substrate) (hserving : d.substrate.Serving u (portRequest amphora nic))
      (hheard : u.Heard d'.substrate) (hrecords : d.SameRecords d')
  | discarded (u : Substrate) (p : Port)
      (hserving : d.substrate.Serving u (portRequest amphora nic))
      (hcreated : d.substrate.Created (portRequest amphora nic) p)
      (hheard : ((u.addPort p).removePort p.id).Heard d'.substrate) (hrecords : d.SameRecords d')
  | leaked (u : Substrate) (p : Port) (reason : String)
      (hserving : d.substrate.Serving u (portRequest amphora nic))
      (hcreated : d.substrate.Created (portRequest amphora nic) p)
      (hheard : (u.addPort p).Heard d'.substrate) (hrepository : d'.repository = d.repository)
      (haudit : d'.audit = d.audit.resourceLeaked "port" p.id reason)
  | unrecorded (c : String) (p : Port) (hcompute : amphora.computeId = some c)
      (hadopts : d.substrate.Adopts d'.substrate (portRequest amphora nic) c p)
      (hrepository : d.repository.Heard d'.repository)
      (hbound : d.repository.Harmless → d.repository.Bound p.id)
      (haudit : d'.audit = d.audit.portCreated p.id nic.networkId (some amphora.id))
  | unfilled (c : String) (p : Port) (hcompute : amphora.computeId = some c)
      (hadopts : d.substrate.Adopts d'.substrate (portRequest amphora nic) c p)
      (hrepository :
        (d.repository.addBinding ⟨amphora.id, p.id, nic.networkId⟩).Heard d'.repository)
      (haudit : d'.audit = (d.audit.portCreated p.id nic.networkId
        (some amphora.id)).memberPortRecorded amphora.id p.id)
      (hunbound : ¬ d.repository.Bound p.id)

/-- All that it takes to add an interface. -/
structure NicAddable (amphora : Amphora) (nic : Interface) (d : Deployment) : Prop where
  faults : d.substrate.faults = []
  harmless : d.repository.Harmless
  creatable : d.substrate.Creatable (portRequest amphora nic)
  plugged : ∃ c, amphora.computeId = some c ∧ d.substrate.plugged.contains c
  unbound : ¬ d.repository.Bound (drawnId (d.substrate.drawn + 1))

/-- The port of an interface is made, or it is not; no record changes. -/
theorem ends_createMemberPort (amphora : Amphora) (nic : Interface) (run : Run Deployment) :
    Action.Ends (createMemberPort amphora nic) run
      (fun p run' => (∃ u, run.state.substrate.Serving u (portRequest amphora nic) ∧
        run.state.substrate.Created (portRequest amphora nic) p ∧
        (u.addPort p).Heard run'.state.substrate) ∧ run.state.SameRecords run'.state)
      fun _ run' => (∃ u, run.state.substrate.Serving u (portRequest amphora nic) ∧
        u.Heard run'.state.substrate) ∧ run.state.SameRecords run'.state ∧
        (run.state.substrate.faults = [] →
          ¬ run.state.substrate.Creatable (portRequest amphora nic)) := by
  refine Flow.ends_outcome (ends_onSubstrate (ends_createPort (portRequest amphora nic) _)) ?_ ?_
  · intro p run' h
    exact ends_pure h
  · intro e run' hend
    obtain ⟨⟨u, hserving, hheard, hwhy⟩, hrest⟩ := hend
    exact ends_throw ⟨⟨u, hserving, hheard⟩, hrest, hwhy⟩

/-- A port was thrown away: it is gone, or its leak is reported. -/
def Discarded (portId : String) (d d' : Deployment) : Prop :=
  d'.repository = d.repository ∧
    (((d.substrate.removePort portId).Heard d'.substrate ∧ d'.audit = d.audit) ∨
      ∃ reason, d.substrate.Heard d'.substrate ∧
        d'.audit = d.audit.resourceLeaked "port" portId reason)

/-- A port was thrown away as its deletion went. -/
structure ThrownAway (portId : String) (d d' : Deployment) : Prop where
  issues : d.substrate.Issues [⟨.deletePort, portId⟩] d'.substrate
  repository : d'.repository = d.repository
  ending : match ((deletePort portId).runOn d.substrate).1 with
    | .ok () => (d.substrate.removePort portId).Heard d'.substrate ∧ d'.audit = d.audit
    | .error why => d.substrate.Heard d'.substrate ∧
        d'.audit = d.audit.resourceLeaked "port" portId why.message

theorem ThrownAway.discarded {portId : String} {d d' : Deployment}
    (h : ThrownAway portId d d') : Discarded portId d d' := by
  refine ⟨h.repository, ?_⟩
  have hending := h.ending
  split at hending
  · exact .inl hending
  · exact .inr ⟨_, hending⟩

/-- A port is thrown away without a failure, as its leak would be reported. -/
theorem ends_discardPort (portId : String) (run : Run Deployment) :
    Action.Ends (discardPort portId) run
      (fun _ run' => ThrownAway portId run.state run'.state) fun _ _ => False := by
  have hdelete := (ends_deletePort_issues portId run.state.substrate).and (ends_runOn _ _)
  refine Flow.ends_outcome (ends_onSubstrate hdelete) ?_ ?_
  · intro _ run' hend
    obtain ⟨⟨⟨hissues, hremoved, -⟩, hok⟩, hrepository, haudit⟩ := hend
    exact ends_pure ⟨hissues, hrepository, by rw [hok]; exact ⟨hremoved, haudit⟩⟩
  · intro e run' hend
    obtain ⟨⟨⟨hissues, hheard, -⟩, herror⟩, hrepository, haudit⟩ := hend
    refine ends_record_last ⟨hissues, hrepository, ?_⟩
    rw [herror, ← haudit]
    exact ⟨hheard, rfl⟩

/-- A new port is plugged into the instance, or it is thrown away. -/
theorem ends_plugNewPort (amphora : Amphora) (p : Port) (networkId : String)
    (run : Run Deployment) : Action.Ends (plugNewPort amphora p networkId) run
      (fun _ run' => (∃ c, amphora.computeId = some c ∧ run.state.substrate.plugged.contains c ∧
        (run.state.substrate.attach c p.id).Heard run'.state.substrate) ∧
        run.state.SameRecords run'.state)
      fun _ run' => Discarded p.id run.state run'.state ∧
        (run.state.substrate.faults = [] → ∀ c, amphora.computeId = some c →
          run.state.substrate.plugged.contains c →
          run.state.substrate.ports.get? p.id = none) := by
  refine Flow.ends_outcome (ends_onSubstrate (ends_plugPort amphora p _)) ?_ ?_
  · intro a run' h
    exact ends_pure h
  · intro e run' hend
    obtain ⟨⟨h, hwhy⟩, hrepository, haudit⟩ := hend
    refine (ends_discardPort p.id run').bind ?_ (fun e t h => h.elim)
    intro a run'' hend
    obtain ⟨hrepository', hend⟩ := hend.discarded
    refine ends_throw ⟨⟨hrepository'.trans hrepository, ?_⟩, hwhy⟩
    rw [← haudit]
    rcases hend with ⟨h', haudit'⟩ | ⟨reason, h', haudit'⟩
    · exact .inl ⟨(h.removePort p.id).trans h', haudit'⟩
    · exact .inr ⟨reason, h.trans h', haudit'⟩

/-- A port that could be made is on a known network, with addresses on known subnets. -/
theorem fillable_of_adopts {s t : Substrate} {request : PortRequest} {c : String} {p : Port}
    (h : s.Adopts t request c p) (hs : s.Creatable request) : Fillable t p := by
  apply Fillable.later _ h.sameNetworks
  constructor
  · rw [h.created.network]
    exact hs.network
  · intro ip hip
    exact ⟨p.networkId, h.created.registered ip hip⟩

/-- A new port can be plugged in whenever its instance exists. -/
theorem not_nicAddable_of_plug {amphora : Amphora} {nic : Interface} {d : Deployment}
    {u t : Substrate} {p : Port} (hserving : d.substrate.Serving u (portRequest amphora nic))
    (hadded : (u.addPort p).Heard t) (hwhy : t.faults = [] → ∀ c, amphora.computeId = some c →
      t.plugged.contains c → t.ports.get? p.id = none) : ¬ NicAddable amphora nic d := by
  intro h
  obtain ⟨ids, hallocating, -⟩ := hserving
  obtain ⟨c, hc, hplugged⟩ := h.plugged
  have hsame := hallocating.sameNetworks.trans (.trans (.addPort u p) hadded.sameNetworks)
  have hcontains : t.plugged.contains c := by
    obtain ⟨m, rfl, -⟩ := hallocating
    exact hadded.plugged ▸ hplugged
  have hnone := hwhy (hsame.faults_nil h.faults) c hc hcontains
  rw [hadded.ports] at hnone
  simp [addPort] at hnone

/-- Once the new port is plugged in it is recorded, filled in and counted. -/
theorem ends_recordNic {amphora : Amphora} {changed : ChangedPorts} {nic : Interface}
    {d : Deployment} {run : Run Deployment} {c : String} {p : Port}
    (hc : amphora.computeId = some c) (hhosted : d.substrate.plugged.contains c)
    (hadopts : d.substrate.Adopts run.state.substrate (portRequest amphora nic) c p)
    (hrecords : d.SameRecords run.state) :
    Action.Ends (do
        record fun a => a.portCreated p.id nic.networkId (some amphora.id)
        onRepository (Repository.createMemberPort ⟨amphora.id, p.id, nic.networkId⟩)
        record fun a => a.memberPortRecorded amphora.id p.id
        let port ← fillPort p
        return changed.insert port.networkId port : Work ChangedPorts) run
      (fun changed' run' => ∃ c p q, NicAdded amphora nic changed d changed' run'.state c p q)
      fun _ run' => NicNotAdded amphora nic d run'.state ∧ ¬ NicAddable amphora nic d := by
  obtain ⟨hrepository, haudit⟩ := hrecords
  apply ends_record
  refine (ends_onRepository (Repository.ends_createMemberPort _ _)).bind ?_ ?_
  · intro a run₁ hend
    obtain ⟨⟨hbinding, hunbound⟩, hsubstrate, haudit₁⟩ := hend
    have hadopts₁ : d.substrate.Adopts run₁.state.substrate (portRequest amphora nic) c p :=
      hsubstrate ▸ hadopts
    simp only [hrepository] at hbinding hunbound
    simp only [haudit] at haudit₁
    apply ends_record
    refine (ends_fillPort p _).bind ?_ ?_
    · intro q run₂ hend
      obtain ⟨⟨h, hrepository₂, haudit₂⟩, hmatches⟩ := hend
      refine ends_pure ⟨c, p, q, hc, hhosted, hunbound, hadopts₁.heard h, hmatches, rfl, ?_, ?_⟩
      · rw [hrepository₂]
        exact hbinding
      · rw [haudit₂, haudit₁]
    · intro e run₂ hend
      obtain ⟨⟨h, hrepository₂, haudit₂⟩, hwhy⟩ := hend
      refine ⟨.unfilled c p hc (hadopts₁.heard h) ?_ ?_ hunbound, fun haddable => ?_⟩
      · rw [hrepository₂]
        exact hbinding
      · rw [haudit₂, haudit₁]
      · exact hwhy (hadopts₁.sameNetworks.faults_nil haddable.faults)
          (fillable_of_adopts hadopts₁ haddable.creatable)
  · intro e run₁ hend
    obtain ⟨⟨e', rfl, hrefused, hwhy⟩, hsubstrate, haudit₁⟩ := hend
    simp only [hrepository] at hrefused hwhy
    simp only [haudit] at haudit₁
    refine ⟨.unrecorded c p hc (hsubstrate ▸ hadopts) hrefused hwhy haudit₁, fun haddable => ?_⟩
    have hbound := hwhy haddable.harmless
    rw [hadopts.created.id] at hbound
    exact haddable.unbound hbound

/-- An interface is added, or what is left of it is described and something was missing. -/
theorem ends_addNic (amphora : Amphora) (changed : ChangedPorts) (nic : Interface)
    (run : Run Deployment) : Action.Ends (addNic amphora changed nic) run
      (fun changed' run' =>
        ∃ c p q, NicAdded amphora nic changed run.state changed' run'.state c p q)
      fun _ run' => NicNotAdded amphora nic run.state run'.state ∧
        ¬ NicAddable amphora nic run.state := by
  refine (ends_createMemberPort amphora nic run).bind ?_ ?_
  · intro p run₁ hend
    obtain ⟨⟨u, hserving, hcreated, hadded⟩, hrecords⟩ := hend
    refine (ends_plugNewPort amphora p nic.networkId run₁).bind ?_ ?_
    · intro a run₂ hend
      obtain ⟨⟨c, hc, hplugged, hattached⟩, hrecords'⟩ := hend
      have hhosted : run.state.substrate.plugged.contains c := by
        obtain ⟨ids, hallocating, -⟩ := hserving
        obtain ⟨m, rfl, -⟩ := hallocating
        exact hadded.plugged ▸ hplugged
      exact ends_recordNic hc hhosted
        ⟨hcreated, u, hserving, (hadded.attach c p.id).trans hattached⟩ (hrecords.trans hrecords')
    · intro e run₂ hend
      obtain ⟨⟨hrepository, hend⟩, hwhy⟩ := hend
      refine ⟨?_, not_nicAddable_of_plug hserving hadded hwhy⟩
      rcases hend with ⟨h, haudit⟩ | ⟨reason, h, haudit⟩
      · exact .discarded u p hserving hcreated ((hadded.removePort p.id).trans h)
          (hrecords.trans ⟨hrepository, haudit⟩)
      · exact .leaked u p reason hserving hcreated (hadded.trans h)
          (hrepository.trans hrecords.1) (hrecords.2 ▸ haudit)
  · intro e run₁ hend
    obtain ⟨⟨u, hserving, hheard⟩, hrecords, hwhy⟩ := hend
    exact ⟨.refused u hserving hheard hrecords, fun h => hwhy h.faults h.creatable⟩

/-! Removing -/

/-- An instance leaves a network as far as that succeeds, and no record changes. -/
theorem ends_detach (c networkId : String) (run : Run Deployment) :
    Action.Ends (onSubstrate (unplugNetwork c networkId)) run
      (fun _ run' => run.state.substrate.Detached run'.state.substrate c networkId ∧
        run.state.SameRecords run'.state)
      fun _ run' => run.state.substrate.Detached run'.state.substrate c networkId ∧
        run.state.SameRecords run'.state :=
  (ends_onSubstrate (ends_unplugNetwork c networkId _)).mono
    (fun _ _ h => ⟨.inl h.1.1, h.2⟩) fun _ _ h => ⟨.inr h.1, h.2⟩

/-- An interface was removed as far as that succeeded, and the record of its port as well. -/
structure NicDeleted (c : String) (nic : Interface) (d d' : Deployment) : Prop where
  removal : d.substrate.Removal d'.substrate c nic.networkId nic.portId
  called : ∀ id, nic.portId = some id → d.substrate.Called d'.substrate ⟨.deletePort, id⟩
  repository : d.repository.Heard d'.repository ∨
    ∃ id, nic.portId = some id ∧ (d.repository.dropBinding id).Heard d'.repository
  unbound : d.repository.Harmless → ∀ id, nic.portId = some id → ¬ d'.repository.Bound id
  audit : d.audit.events <+: d'.audit.events

/-- The record of a port was removed, if there was one. -/
structure Unbound (portId : String) (r r' : Repository) : Prop where
  repository : r.Heard r' ∨ (r.dropBinding portId).Heard r'
  unbound : r.Harmless → ¬ r'.Bound portId

/-- The record of a port is removed, unless the repository is scripted to fail. -/
theorem ends_unbind (amphoraId portId : String) (run : Run Deployment) :
    Action.Ends (unbind amphoraId portId) run
      (fun _ run' => run'.state.substrate = run.state.substrate ∧
        Unbound portId run.state.repository run'.state.repository ∧
        run.state.audit.events <+: run'.state.audit.events)
      fun _ run' => run'.state.substrate = run.state.substrate ∧
        run.state.repository.Heard run'.state.repository ∧
        run.state.audit.events <+: run'.state.audit.events ∧ ¬ run.state.repository.Harmless := by
  refine Flow.ends_outcome (ends_onRepository (Repository.ends_deleteMemberPort portId _)) ?_ ?_
  · intro a run' hend
    obtain ⟨h, hsubstrate, haudit⟩ := hend
    refine ends_record_last ⟨hsubstrate, ⟨.inr h, fun _ hbound => ?_⟩, ?_⟩
    · have hstays := (h.bound_iff portId).mp hbound
      exact ((Repository.bound_dropBinding _ _ _).mp hstays).2 rfl
    · change run.state.audit.events <+: run'.state.audit.events ++ _
      rw [haudit]
      exact List.prefix_append _ _
  · intro e run' hend
    obtain ⟨⟨e', rfl, h, hwhy⟩, hsubstrate, haudit⟩ := hend
    have hprefix : run.state.audit.events <+: run'.state.audit.events :=
      haudit ▸ List.prefix_refl _
    cases e' with
    | notFound what =>
      exact ends_pure ⟨hsubstrate, ⟨.inl h, fun hr hbound =>
        (hwhy hr).2 ((h.bound_iff portId).mp hbound)⟩, hprefix⟩
    | _ =>
      refine ends_throw ⟨hsubstrate, h, hprefix, fun hharmless => ?_⟩
      obtain ⟨⟨what, hwhat⟩, -⟩ := hwhy hharmless
      cases hwhat

/-- When the network is detached and the port is deleted, or could not be, its record goes. -/
theorem ends_unbind_deleted {amphora : Amphora} {changed : ChangedPorts} {nic : Interface}
    {d d₁ : Deployment} {run : Run Deployment} {c id : String} (hport : nic.portId = some id)
    (hdetached : d.substrate.Detached d₁.substrate c nic.networkId) (hrecords : d.SameRecords d₁)
    (hdeleted : d₁.substrate.Heard run.state.substrate ∨
      (d₁.substrate.removePort id).Heard run.state.substrate)
    (hcalled : d₁.substrate.Called run.state.substrate ⟨.deletePort, id⟩)
    (hrepository : run.state.repository = d₁.repository)
    (haudit : d₁.audit.events <+: run.state.audit.events) :
    Action.Ends (do
        unbind amphora.id id
        return changed.erase nic.networkId : Work ChangedPorts) run
      (fun changed' run' => changed' = changed.erase nic.networkId ∧ NicDeleted c nic d run'.state)
      fun _ run' => NicDeleted c nic d run'.state ∧ ¬ d.repository.Harmless := by
  rw [hrecords.1] at hrepository
  rw [hrecords.2] at haudit
  have hdone : ∀ {run' : Run Deployment}, run'.state.substrate = run.state.substrate →
      (d.repository.Heard run'.state.repository ∨
        (d.repository.dropBinding id).Heard run'.state.repository) →
      (d.repository.Harmless → ¬ run'.state.repository.Bound id) →
      run.state.audit.events <+: run'.state.audit.events → NicDeleted c nic d run'.state := by
    intro run' hsubstrate hunbound hforgotten haudit'
    rw [← hsubstrate] at hdeleted hcalled
    constructor
    case removal => exact ⟨_, hdetached, hdeleted.imp_right fun h => ⟨id, hport, h⟩⟩
    case called =>
      intro id' hid'
      cases hport.symm.trans hid'
      obtain ⟨earlier, hearlier⟩ := hdetached.journal
      obtain ⟨calls, hcalls, hmem⟩ := hcalled
      exact ⟨earlier ++ calls, by rw [hcalls, hearlier, List.append_assoc],
        List.mem_append.mpr (.inr hmem)⟩
    case repository => exact hunbound.imp_right fun h => ⟨id, hport, h⟩
    case unbound =>
      intro hr id' hid'
      cases hport.symm.trans hid'
      exact hforgotten hr
    case audit => exact haudit.trans haudit'
  refine (ends_unbind amphora.id id run).bind ?_ ?_
  · intro _ run' hend
    obtain ⟨hsubstrate, hunbound, haudit'⟩ := hend
    rw [hrepository] at hunbound
    exact ends_pure ⟨rfl, hdone hsubstrate hunbound.repository hunbound.unbound haudit'⟩
  · intro e run' hend
    obtain ⟨hsubstrate, hheard, haudit', hharm⟩ := hend
    rw [hrepository] at hheard hharm
    exact ⟨hdone hsubstrate (.inl hheard) (fun hr => absurd hr hharm) haudit', hharm⟩

/-- Only the repository can stop the removal of an interface. -/
theorem ends_deleteNic (amphora : Amphora) (changed : ChangedPorts) (nic : Interface)
    (run : Run Deployment) : Action.Ends (deleteNic amphora changed nic) run
      (fun changed' run' => changed' = changed.erase nic.networkId ∧
        NicDeleted amphora.instanceId nic run.state run'.state)
      fun _ run' => NicDeleted amphora.instanceId nic run.state run'.state ∧
        ¬ run.state.repository.Harmless := by
  refine Flow.ends_attempt (ends_detach amphora.instanceId nic.networkId run) ?_
  intro r run₁ hend
  obtain ⟨hdetached, hrecords⟩ := hend
  cases hport : nic.portId with
  | none =>
    refine ends_pure ⟨rfl, ⟨_, hdetached, .inl (.refl _)⟩, ?_, .inl ?_, ?_, ?_⟩
    · intro id hid
      simp [hport] at hid
    · exact hrecords.1 ▸ .refl _
    · intro _ id hid
      simp [hport] at hid
    · exact hrecords.2 ▸ List.prefix_refl _
  | some id =>
    refine Flow.ends_outcome (ends_onSubstrate (ends_deletePort id _)) ?_ ?_
    · intro a run₂ hend
      obtain ⟨⟨hcalled, hremoved⟩, hrepository, haudit⟩ := hend
      have hgrows : run₁.state.audit.events <+: (run₂.state.audit.portDeleted id).events :=
        haudit ▸ List.prefix_append _ _
      apply ends_record
      exact ends_unbind_deleted hport hdetached hrecords (.inr hremoved) hcalled hrepository hgrows
    · intro e run₂ hend
      obtain ⟨⟨hcalled, hheard, -⟩, hrepository, haudit⟩ := hend
      have hgrows : run₁.state.audit.events <+: run₂.state.audit.events :=
        haudit ▸ List.prefix_refl _
      exact ends_unbind_deleted hport hdetached hrecords (.inl hheard) hcalled hrepository hgrows

/-! Taking away again -/

/-- An added interface was taken away again as far as that succeeded. A port that could not be
deleted is reported. -/
structure NicReverted (c networkId : String) (portId : Option String) (d d' : Deployment) :
    Prop where
  removal : d.substrate.Removal d'.substrate c networkId portId
  repository : d.repository.Heard d'.repository ∨
    ∃ id, portId = some id ∧ (d.repository.dropBinding id).Heard d'.repository
  audit : d.audit.events <+: d'.audit.events
  reported : ∀ id, portId = some id →
    d'.substrate.ports.get? id = none ∨ d'.audit.LeakReported id

/-- A port was to be taken away: it was deleted, or the call failed as scripted and the leak is
reported. Its record was removed in either case. -/
structure TakenAway (portId : String) (d d' : Deployment) : Prop where
  issues : d.substrate.Issues [⟨.deletePort, portId⟩] d'.substrate
  ending : d.substrate.failuresDue .deletePort = [] ∧
      (d.substrate.removePort portId).Heard d'.substrate ∧
      d'.audit = d.audit.portDeleted portId ∨
    ∃ e, (d.substrate.failuresDue .deletePort).head? = some e ∧
      d.substrate.Heard d'.substrate ∧
      d'.audit = d.audit.resourceLeaked "port" portId e.message
  unbound : Unbound portId d.repository d'.repository

theorem ends_forget (portId : String) (run : Run Deployment) :
    Effect.Ends (do let _ ← Flow.settle (onRepository (Repository.deleteMemberPort portId))) run
      fun _ run' => Unbound portId run.state.repository run'.state.repository ∧
        run'.state.substrate = run.state.substrate ∧ run'.state.audit = run.state.audit := by
  refine Effect.ends_settle (ends_onRepository (Repository.ends_deleteMemberPort portId _)) ?_ ?_
  · intro _ run₁ hend
    obtain ⟨hheard, hrest⟩ := hend
    refine Effect.ends_pure ⟨⟨.inr hheard, fun _ hbound => ?_⟩, hrest⟩
    have hstays := (hheard.bound_iff portId).mp hbound
    exact ((Repository.bound_dropBinding _ _ _).mp hstays).2 rfl
  · intro e run₁ hend
    obtain ⟨⟨e', -, hheard, hwhy⟩, hrest⟩ := hend
    exact Effect.ends_pure ⟨⟨.inl hheard, fun hharmless hbound =>
      (hwhy hharmless).2 ((hheard.bound_iff portId).mp hbound)⟩, hrest⟩

/-- A port is taken away without a failure, as its leak would be reported. -/
theorem ends_removeAddedPort (portId : String) (run : Run Deployment) :
    Effect.Ends (removeAddedPort portId) run fun _ run' =>
      TakenAway portId run.state run'.state := by
  refine Effect.ends_settle (ends_onSubstrate (ends_deletePort_issues portId _)) ?_ ?_
  · intro _ run₁ hend
    obtain ⟨⟨hissues, hremoved, hundue⟩, hrepository, haudit⟩ := hend
    refine effect_ends_record ((ends_forget portId _).mono ?_)
    intro _ run₂ hend
    obtain ⟨hunbound, hsubstrate, haudit'⟩ := hend
    exact ⟨hsubstrate ▸ hissues,
      .inl ⟨hundue, hsubstrate ▸ hremoved, haudit ▸ haudit'⟩, hrepository ▸ hunbound⟩
  · intro e run₁ hend
    obtain ⟨⟨hissues, hheard, hdue⟩, hrepository, haudit⟩ := hend
    refine effect_ends_record ((ends_forget portId _).mono ?_)
    intro _ run₂ hend
    obtain ⟨hunbound, hsubstrate, haudit'⟩ := hend
    exact ⟨hsubstrate ▸ hissues,
      .inr ⟨e, hdue, hsubstrate ▸ hheard, haudit ▸ haudit'⟩, hrepository ▸ hunbound⟩

namespace TakenAway

variable {portId : String} {d d' : Deployment}

theorem audit (h : TakenAway portId d d') : d.audit.events <+: d'.audit.events := by
  rcases h.ending with ⟨-, -, haudit⟩ | ⟨e, -, -, haudit⟩
  · rw [haudit]
    exact List.prefix_append _ _
  · rw [haudit]
    exact List.prefix_append _ _

/-- A port that is taken away is gone or reported. -/
theorem reported (h : TakenAway portId d d') :
    d'.substrate.ports.get? portId = none ∨ d'.audit.LeakReported portId := by
  rcases h.ending with ⟨-, hremoved, -⟩ | ⟨e, -, -, haudit⟩
  · left
    rw [hremoved.ports, get?_ports_removePort, if_pos rfl]
  · right
    rw [haudit]
    exact AuditLog.leakReported_resourceLeaked _ _ _ _

end TakenAway

/-- An added interface is taken away without a failure. -/
theorem ends_removeAddedNic (delta : Delta) (ports : List Port) (nic : Interface)
    (run : Run Deployment) : Effect.Ends (removeAddedNic delta ports nic) run fun _ run' =>
      NicReverted delta.computeId nic.networkId (portOf ports nic) run.state run'.state := by
  refine Effect.ends_settle_attempt (ends_detach delta.computeId nic.networkId run) ?_
  intro r run₁ hend
  obtain ⟨hdetached, hrecords⟩ := hend
  cases hport : portOf ports nic with
  | none =>
    refine Effect.ends_pure ⟨⟨_, hdetached, .inl (.refl _)⟩, .inl ?_, ?_, ?_⟩
    · exact hrecords.1 ▸ .refl _
    · exact hrecords.2 ▸ List.prefix_refl _
    · intro id hid
      cases hid
  | some id =>
    apply (ends_removeAddedPort id run₁).mono
    intro a run₂ hend
    have hremoved : run₁.state.substrate.Heard run₂.state.substrate ∨
        ∃ removed, some id = some removed ∧
          (run₁.state.substrate.removePort removed).Heard run₂.state.substrate := by
      rcases hend.ending with ⟨-, h, -⟩ | ⟨e, -, h, -⟩
      · exact .inr ⟨id, rfl, h⟩
      · exact .inl h
    refine ⟨⟨_, hdetached, hremoved⟩, ?_, hrecords.2 ▸ hend.audit, ?_⟩
    · rw [← hrecords.1]
      exact hend.unbound.repository.imp_right fun h => ⟨id, rfl, h⟩
    · intro id' h
      cases h
      exact hend.reported

end Delta

end AmphoraWiring
