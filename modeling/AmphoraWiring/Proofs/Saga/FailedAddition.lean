import AmphoraWiring.Proofs.Saga.PortDetails
import AmphoraWiring.Proofs.Seeding
import AmphoraWiring.Proofs.Substrate.SameBut

/-!
An interface that could not be added. Why its port could not be created or plugged in is told in
terms of the network and the amphora, and what had been done for it is undone: the deployment is
as the interfaces before it left it, up to what the attempt has used up. Only a port that could
not be deleted again stays behind, plugged in nowhere, and is reported.
-/
namespace AmphoraWiring

open Action Substrate

/-! How failures are told -/

/-- The word stands somewhere in the message. -/
def SpeaksOf (message word : String) : Prop :=
  ∃ before after : String, message = before ++ word ++ after

theorem mentions_iff {message word : String} : mentions message word ↔ SpeaksOf message word := by
  simp only [mentions, List.any_eq_true, List.mem_range, List.isPrefixOf_iff_prefix]
  constructor
  · intro h
    obtain ⟨i, -, after, hafter⟩ := h
    refine ⟨.ofList (message.toList.take i), .ofList after, ?_⟩
    rw [← String.toList_inj, String.toList_append, String.toList_append, String.toList_ofList,
      String.toList_ofList, List.append_assoc, hafter, List.take_append_drop]
  · intro h
    obtain ⟨before, after, rfl⟩ := h
    refine ⟨before.toList.length, ?_, after.toList, ?_⟩
    · simp only [← String.length_toList, String.toList_append, List.length_append]
      omega
    · rw [String.toList_append, String.toList_append, List.append_assoc, List.drop_left]

namespace NetworkError

/-- What the failure to create a port is told as: the network is missing, or it is some other
failure of the creation. -/
structure ToldAsCreation (e told : NetworkError) : Prop where
  network : (∃ what, told = .networkNotFound what) ↔
    (∃ what, e = .networkNotFound what) ∨
      ∃ what, e = .notFound what ∧ SpeaksOf what "Network"
  other : (∀ what, told ≠ .networkNotFound what) → ∃ why, told = .createPort why

/-- What the failure to plug in a port is told as: the amphora is missing, or it is some other
failure of the plugging. -/
structure ToldAsPlugging (e told : NetworkError) : Prop where
  amphora : (∃ what, told = .amphoraNotFound what) ↔
    (∃ what, e = .amphoraNotFound what) ∨
      ∃ what, e = .notFound what ∧ SpeaksOf what "Instance"
  other : (∀ what, told ≠ .amphoraNotFound what) → ∃ why, told = .plugNetwork why

theorem toldAsCreation (networkId : String) (e : NetworkError) :
    ToldAsCreation e (e.whenCreatingPort networkId) := by
  cases e
  case notFound what =>
    by_cases hmentions : SpeaksOf what "Network"
    · have h := mentions_iff.mpr hmentions
      constructor <;> simp [whenCreatingPort, h, hmentions]
    · have h := mentions_iff.not.mpr hmentions
      constructor <;> simp [whenCreatingPort, h, hmentions]
  all_goals constructor <;> simp [whenCreatingPort]

theorem toldAsPlugging (computeId networkId : String) (e : NetworkError) :
    ToldAsPlugging e (e.whenPlugging computeId networkId) := by
  cases e
  case notFound what =>
    by_cases hmentions : SpeaksOf what "Instance"
    · have h := mentions_iff.mpr hmentions
      constructor <;> simp [whenPlugging, h, hmentions]
    · have h := mentions_iff.not.mpr hmentions
      constructor <;> simp [whenPlugging, h, hmentions]
  all_goals constructor <;> simp [whenPlugging]

end NetworkError

namespace Substrate

variable {s t u : Substrate} {c id : String} {p : Port}

/-- Only what attempts use up has changed: addresses, ids, the journal and scripted failures. -/
def Spent (s t : Substrate) : Prop :=
  ∃ allocations drawn journal faults, t = { s with allocations, drawn, journal, faults }

namespace Spent

theorem trans (h : s.Spent t) (h' : t.Spent u) : s.Spent u := by
  obtain ⟨_, _, _, _, rfl⟩ := h
  obtain ⟨allocations, drawn, journal, faults, rfl⟩ := h'
  exact ⟨allocations, drawn, journal, faults, rfl⟩

theorem of_heard (h : s.Heard t) : s.Spent t := by
  obtain ⟨calls, faults, rfl, -⟩ := h
  exact ⟨s.allocations, s.drawn, s.journal ++ calls, faults, rfl⟩

theorem of_serving {request : PortRequest} (h : s.Serving t request) : s.Spent t := by
  obtain ⟨ids, ⟨m, rfl, -⟩, -⟩ := h
  exact ⟨m, s.drawn, s.journal, s.faults, rfl⟩

theorem pluggedPortIds (h : s.Spent t) (c : String) :
    t.pluggedPortIds c = s.pluggedPortIds c := by
  obtain ⟨_, _, _, _, rfl⟩ := h
  rfl

theorem addPort (h : s.Spent t) (p : Port) : (s.addPort p).Spent (t.addPort p) := by
  obtain ⟨allocations, drawn, journal, faults, rfl⟩ := h
  exact ⟨allocations, drawn + 1, journal, faults, rfl⟩

end Spent

/-- Nothing in the substrate is known under the id. -/
structure Unknown (s : Substrate) (id : String) : Prop where
  absent : s.Absent id
  settled : s.pendingDown.get? id = none

namespace Unknown

theorem serving {request : PortRequest} (h : s.Unknown id) (hserving : s.Serving t request) :
    t.Unknown id := by
  obtain ⟨ids, ⟨m, rfl, -⟩, -⟩ := hserving
  exact ⟨⟨h.absent.port, h.absent.unplugged⟩, h.settled⟩

/-- Ids other than that of the new port stay unknown. -/
theorem adopts {request : PortRequest} (h : s.Unknown id) (hadopts : s.Adopts t request c p)
    (hne : id ≠ p.id) : t.Unknown id := by
  constructor
  case absent =>
    obtain ⟨u, hu, ht⟩ := hadopts.samePorts
    refine ⟨by rw [hadopts.get?, if_neg hne, h.absent.port], fun c' hmem => ?_⟩
    rw [ht.pluggedPortIds, pluggedPortIds_attach] at hmem
    change id ∈ if c' = c ∧ p.id ∉ u.pluggedPortIds c then u.pluggedPortIds c ++ [p.id]
      else u.pluggedPortIds c' at hmem
    rw [hu.pluggedPortIds, hu.pluggedPortIds] at hmem
    split at hmem
    · rcases List.mem_append.mp hmem with hmem | hmem
      · exact h.absent.unplugged c hmem
      · exact hne (List.mem_singleton.mp hmem)
    · exact h.absent.unplugged c' hmem
  case settled =>
    obtain ⟨-, u, ⟨ids, ⟨m, rfl, -⟩, -⟩, calls, faults, rfl, -⟩ := hadopts
    exact h.settled

/-- A port under such an id is removed without a trace. -/
theorem removed (h : s.Unknown p.id) : s.Spent ((s.addPort p).removePort p.id) := by
  have hports : (s.ports.insert p.id p).erase p.id = s.ports := by
    rw [IdMap.erase_insert, IdMap.erase_of_get?_eq_none h.absent.port]
  have hpending : s.pendingDown.erase p.id = s.pendingDown :=
    IdMap.erase_of_get?_eq_none h.settled
  have hplugged : (s.plugged.map fun ids => ids.filter fun id => id ≠ p.id) = s.plugged := by
    apply IdMap.ext_get?
    intro c
    rw [IdMap.get?_map]
    cases hids : s.plugged.get? c with
    | none => rfl
    | some ids =>
      have hnot := h.absent.unplugged c
      rw [pluggedPortIds, hids] at hnot
      rw [Option.map_some, List.filter_eq_self.mpr]
      intro id hid
      simpa using fun heq : id = p.id => hnot (heq ▸ hid)
  refine ⟨s.allocations, s.drawn + 1, s.journal, s.faults, ?_⟩
  simp only [addPort, removePort, hports, hpending, hplugged]

end Unknown

end Substrate

namespace Deployment

variable {d d' : Deployment} {calls : List JournalEntry} {p : Port} {reason : String}

/-- The ids that are still to be drawn are new: nothing is known under them, and no record has
one. -/
def Fresh (d : Deployment) : Prop :=
  ∀ n, d.substrate.drawn < n → d.substrate.Unknown (drawnId n) ∧ ¬ d.repository.Bound (drawnId n)

theorem Fresh.of_sound (hs : d.substrate.Sound) (hsettled : d.substrate.pendingDown.entries = [])
    (hrecords : d.repository.bindings = []) : d.Fresh := by
  intro n hn
  refine ⟨⟨.of_new hs (hs.fresh n hn), ?_⟩, fun hbound => ?_⟩
  · rw [IdMap.get?, hsettled]
    rfl
  · obtain ⟨b, hb, -⟩ := hbound
    rw [hrecords] at hb
    cases hb

/-- Of an attempt nothing is left but what it has used up. -/
structure Untraced (calls : List JournalEntry) (d d' : Deployment) : Prop where
  spent : d.substrate.Spent d'.substrate
  issues : d.substrate.Issues calls d'.substrate
  records : d.SameRecords d'

/-- Of an attempt one new port is left, plugged in nowhere and without a record, and it is
reported. -/
structure LeftBehind (p : Port) (reason : String) (calls : List JournalEntry)
    (d d' : Deployment) : Prop where
  new : d.substrate.ports.get? p.id = none
  spent : (d.substrate.addPort p).Spent d'.substrate
  detached : p.deviceId = none
  unplugged : ∀ c, p.id ∉ d'.substrate.pluggedPortIds c
  unbound : ¬ d'.repository.Bound p.id
  issues : d.substrate.Issues calls d'.substrate
  repository : d'.repository = d.repository
  audit : d'.audit = d.audit.resourceLeaked "port" p.id reason

end Deployment

namespace Delta

open Deployment

variable {amphora : Amphora} {nic : Interface} {changed changed' : ChangedPorts}
  {d d' : Deployment} {run : Run Deployment} {e : NetworkError} {s t : Substrate} {p : Port}

theorem NicAdded.fresh {c : String} {q : Port}
    (h : NicAdded amphora nic changed d changed' d' c p q) (hfresh : d.Fresh) : d'.Fresh := by
  intro n hn
  rw [h.adopts.drawn] at hn
  have hne : drawnId n ≠ p.id := by
    rw [h.adopts.created.id]
    exact drawnId_ne_of_lt hn
  obtain ⟨hunknown, hunbound⟩ := hfresh n (by omega)
  refine ⟨hunknown.adopts h.adopts hne, fun hbound => ?_⟩
  rw [h.bindings.bound_iff, Repository.bound_addBinding] at hbound
  exact hbound.elim hunbound fun heq => hne heq.symm

theorem ends_addNics_fresh (nics : List Interface) (changed : ChangedPorts)
    (hfresh : run.state.Fresh) : Action.Ends (nics.foldlM (addNic amphora) changed) run
      (fun _ run' => run'.state.Fresh) fun _ _ => True := by
  refine Ends.foldlM_mem (fun nic _ changed run hfresh => ?_) hfresh
  apply (ends_addNic amphora changed nic run).mono
  · intro changed' run' hend
    obtain ⟨c, p, q, hadded⟩ := hend
    exact hadded.fresh hfresh
  · exact fun _ _ _ => trivial

/-- Where the port cannot be created. -/
theorem ends_addNic_refused
    (hcreate : (createPort (portRequest amphora nic)).runOn run.state.substrate = (.error e, s)) :
    Action.Ends (addNic amphora changed nic) run (fun _ _ => False) fun told run' =>
      told = e.whenCreatingPort nic.networkId ∧
        Untraced [⟨.createPort, memberPortName amphora.id⟩] run.state run'.state := by
  obtain ⟨u, hserving, hheard, -⟩ := (ends_createPort _ _).of_error hcreate
  have hissues := (ends_createPort_issues _ _).of_error hcreate
  have hspent := (Spent.of_serving hserving).trans (.of_heard hheard)
  have hmember : Action.Ends (createMemberPort amphora nic) run (fun _ _ => False)
      fun told run' => told = e.whenCreatingPort nic.networkId ∧
        Untraced [⟨.createPort, memberPortName amphora.id⟩] run.state run'.state := by
    have hcall : Action.Ends (createPort (portRequest amphora nic)) run.state.substrate
        (fun _ _ => False) fun e' s' => e' = e ∧ s' = s :=
      ends_of_error hcreate ⟨rfl, rfl⟩
    refine Flow.ends_outcome (ends_onSubstrate hcall) (fun _ _ h => h.1.elim) ?_
    intro e' run₁ hend
    obtain ⟨⟨rfl, rfl⟩, hrecords⟩ := hend
    exact ends_throw ⟨rfl, hspent, hissues, hrecords⟩
  exact hmember.bind (fun _ _ h => h.elim) fun _ _ h => h

/-- The new port is thrown away, and why it could not be plugged in is what is told. -/
theorem ends_plugNewPort_failed {networkId : String}
    (hplug : (plugPort amphora p).runOn run.state.substrate = (.error e, t)) :
    Action.Ends (plugNewPort amphora p networkId) run (fun _ _ => False) fun told run' =>
      told = e.whenPlugging amphora.instanceId networkId ∧
        ThrownAway p.id { run.state with substrate := t } run'.state := by
  have hcall : Action.Ends (plugPort amphora p) run.state.substrate (fun _ _ => False)
      fun e' s => e' = e ∧ s = t :=
    ends_of_error hplug ⟨rfl, rfl⟩
  refine Flow.ends_outcome (ends_onSubstrate hcall) (fun _ _ h => h.1.elim) ?_
  intro e' run₁ hend
  obtain ⟨⟨rfl, rfl⟩, hrepository, haudit⟩ := hend
  have hsame : { run.state with substrate := run₁.state.substrate } = run₁.state := by
    simp only [← hrepository, ← haudit]
  rw [hsame]
  exact (ends_discardPort p.id run₁).bind (fun _ _ h => ends_throw ⟨rfl, h⟩) fun _ _ h => h.elim

/-- What is left of a port that was made, could not be plugged in and was thrown away. -/
theorem ThrownAway.left {d d' : Deployment} (hfresh : d.Fresh)
    (hcreate : (createPort (portRequest amphora nic)).runOn d.substrate = (.ok p, s))
    (hplug : (plugPort amphora p).runOn s = (.error e, t))
    (hthrown : ThrownAway p.id { d with substrate := t } d') :
    match ((Substrate.deletePort p.id).runOn t).1 with
    | .ok () => Untraced [⟨.createPort, memberPortName amphora.id⟩, ⟨.plugPort, p.id⟩,
        ⟨.deletePort, p.id⟩] d d'
    | .error why => LeftBehind p why.message [⟨.createPort, memberPortName amphora.id⟩,
        ⟨.plugPort, p.id⟩, ⟨.deletePort, p.id⟩] d d' := by
  obtain ⟨u, hserving, hcreated, hadded⟩ := (ends_createPort _ _).of_ok hcreate
  have hnone := (ends_createPort_unplugged _ _).of_ok hcreate
  have hheard := hadded.trans ((ends_plugPort amphora p s).of_error hplug).1
  have hissues := (((ends_createPort_issues _ _).of_ok hcreate).trans
    ((ends_plugPort_issues amphora p s).of_error hplug)).trans hthrown.issues
  obtain ⟨hunknown, hunbound⟩ := hfresh (d.substrate.drawn + 1) (Nat.lt_succ_self _)
  rw [← hcreated.id] at hunknown hunbound
  have hending := hthrown.ending
  change match ((Substrate.deletePort p.id).runOn t).1 with
    | .ok () => (t.removePort p.id).Heard d'.substrate ∧ d'.audit = d.audit
    | .error why => t.Heard d'.substrate ∧
        d'.audit = d.audit.resourceLeaked "port" p.id why.message at hending
  cases hdelete : ((Substrate.deletePort p.id).runOn t).1 with
  | ok =>
    rw [hdelete] at hending
    obtain ⟨hremoved, haudit⟩ := hending
    refine ⟨?_, hissues, hthrown.repository, haudit⟩
    exact ((Spent.of_serving hserving).trans (hunknown.serving hserving).removed).trans
      (.of_heard ((hheard.removePort p.id).trans hremoved))
  | error why =>
    rw [hdelete] at hending
    obtain ⟨hheard', haudit⟩ := hending
    have hspent : (d.substrate.addPort p).Spent d'.substrate :=
      ((Spent.of_serving hserving).addPort p).trans (.of_heard (hheard.trans hheard'))
    constructor
    case new => exact hunknown.absent.port
    case spent => exact hspent
    case detached => exact hnone
    case unplugged =>
      intro c
      rw [hspent.pluggedPortIds]
      exact hunknown.absent.unplugged c
    case unbound =>
      rw [hthrown.repository]
      exact hunbound
    case issues => exact hissues
    case repository => exact hthrown.repository
    case audit => exact haudit

/-- Where the port is created and cannot be plugged in. -/
theorem ends_addNic_unplugged (hfresh : run.state.Fresh)
    (hcreate : (createPort (portRequest amphora nic)).runOn run.state.substrate = (.ok p, s))
    (hplug : (plugPort amphora p).runOn s = (.error e, t)) :
    Action.Ends (addNic amphora changed nic) run (fun _ _ => False) fun told run' =>
      told = e.whenPlugging amphora.instanceId nic.networkId ∧
        match ((Substrate.deletePort p.id).runOn t).1 with
        | .ok () => Untraced [⟨.createPort, memberPortName amphora.id⟩, ⟨.plugPort, p.id⟩,
            ⟨.deletePort, p.id⟩] run.state run'.state
        | .error why => LeftBehind p why.message [⟨.createPort, memberPortName amphora.id⟩,
            ⟨.plugPort, p.id⟩, ⟨.deletePort, p.id⟩] run.state run'.state := by
  have hmember : Action.Ends (createMemberPort amphora nic) run
      (fun q run₁ => q = p ∧ run₁.state.substrate = s ∧ run.state.SameRecords run₁.state)
      fun _ _ => False := by
    have hcall : Action.Ends (createPort (portRequest amphora nic)) run.state.substrate
        (fun q s' => q = p ∧ s' = s) fun _ _ => False :=
      ends_of_ok hcreate ⟨rfl, rfl⟩
    refine Flow.ends_outcome (ends_onSubstrate hcall) (fun _ _ hend => ?_) fun _ _ h => h.1.elim
    obtain ⟨⟨rfl, rfl⟩, hrecords⟩ := hend
    exact ends_pure ⟨rfl, rfl, hrecords⟩
  refine hmember.bind ?_ fun _ _ h => h.elim
  intro q run₁ hend
  obtain ⟨rfl, rfl, hrepository, haudit⟩ := hend
  refine (ends_plugNewPort_failed hplug).bind (fun _ _ h => h.elim) ?_
  intro told run₂ hend
  obtain ⟨rfl, hthrown⟩ := hend
  have hstate : { run₁.state with substrate := t } = { run.state with substrate := t } := by
    simp only [hrepository, haudit]
  exact ⟨rfl, ThrownAway.left hfresh hcreate hplug (hstate ▸ hthrown)⟩

end Delta

namespace Step

open Delta Deployment

variable {run run₁ run₂ : Run Deployment} {amphoraId : String} {amphora : Amphora} {delta : Delta}
  {done rest : List Interface} {nic : Interface} {changed : ChangedPorts}

/-- The step fails with the interface that cannot be added, and nothing is done after that. -/
theorem ends_applyDelta_failed {bad : NetworkError → Run Deployment → Prop}
    (hamphora : (Deployment.amphora amphoraId).runOn run = (.ok amphora, run₁))
    (hsplit : delta.addNics = done ++ nic :: rest)
    (hdone : (done.foldlM (addNic amphora) .empty).runOn run₁ = (.ok changed, run₂))
    (hnic : Action.Ends (addNic amphora changed nic) run₂ (fun _ _ => False) bad) :
    Action.Ends (applyDelta amphoraId delta).execute run (fun _ _ => False) bad := by
  refine ends_bind_of_ok hamphora ?_
  have hnics : Action.Ends (delta.addNics.foldlM (addNic amphora) .empty) run₁
      (fun _ _ => False) bad := by
    rw [hsplit, List.foldlM_append]
    refine ends_bind_of_ok hdone ?_
    rw [List.foldlM_cons]
    exact hnic.bind (fun _ _ h => h.elim) fun _ _ h => h
  have happly : Action.Ends (delta.apply amphora) run₁ (fun _ _ => False) bad :=
    hnics.bind (fun _ _ h => h.elim) fun _ _ h => h
  exact happly.bind (fun _ _ h => h.elim) fun _ _ h => h

/-- Where the interfaces before it were added and the port of an interface cannot be created or
plugged in, the step fails with what that is told as. The deployment is as those interfaces left
it, unless the new port could not be deleted again: then that port is left, and it is reported. -/
theorem failed_nic_leaves_no_trace (hfresh : run.state.Fresh)
    (hamphora : (Deployment.amphora amphoraId).runOn run = (.ok amphora, run₁))
    (hsplit : delta.addNics = done ++ nic :: rest)
    (hdone : (done.foldlM (addNic amphora) .empty).runOn run₁ = (.ok changed, run₂)) :
    (∀ e s, (createPort (portRequest amphora nic)).runOn run₂.state.substrate = (.error e, s) →
      ∃ told run', (applyDelta amphoraId delta).execute.runOn run = (.error told, run') ∧
        told = e.whenCreatingPort nic.networkId ∧ e.ToldAsCreation told ∧
        Untraced [⟨.createPort, memberPortName amphora.id⟩] run₂.state run'.state) ∧
    ∀ p s e t, (createPort (portRequest amphora nic)).runOn run₂.state.substrate = (.ok p, s) →
      (plugPort amphora p).runOn s = (.error e, t) →
      ∃ told run', (applyDelta amphoraId delta).execute.runOn run = (.error told, run') ∧
        told = e.whenPlugging amphora.instanceId nic.networkId ∧ e.ToldAsPlugging told ∧
        match ((Substrate.deletePort p.id).runOn t).1 with
        | .ok () => Untraced [⟨.createPort, memberPortName amphora.id⟩, ⟨.plugPort, p.id⟩,
            ⟨.deletePort, p.id⟩] run₂.state run'.state
        | .error why => LeftBehind p why.message [⟨.createPort, memberPortName amphora.id⟩,
            ⟨.plugPort, p.id⟩, ⟨.deletePort, p.id⟩] run₂.state run'.state := by
  constructor
  · intro e s hcreate
    obtain ⟨told, run', hexecute, htold, huntraced⟩ :=
      (ends_applyDelta_failed hamphora hsplit hdone (ends_addNic_refused hcreate)).failure
    exact ⟨told, run', hexecute, htold, htold ▸ e.toldAsCreation _, huntraced⟩
  · intro p s e t hcreate hplug
    have hfresh₁ : run₁.state.Fresh := by
      obtain ⟨hheard, hsubstrate, -⟩ :=
        (ends_onRepository (Repository.ends_getAmphora amphoraId _)).of_ok hamphora
      intro n hn
      rw [hsubstrate] at hn ⊢
      exact ⟨(hfresh n hn).1, fun hbound => (hfresh n hn).2 ((hheard.1.bound_iff _).mp hbound)⟩
    have hfresh₂ : run₂.state.Fresh := (ends_addNics_fresh done .empty hfresh₁).of_ok hdone
    obtain ⟨told, run', hexecute, htold, hleft⟩ :=
      (ends_applyDelta_failed hamphora hsplit hdone
        (ends_addNic_unplugged hfresh₂ hcreate hplug)).failure
    exact ⟨told, run', hexecute, htold, htold ▸ e.toldAsPlugging _ _, hleft⟩

end Step

namespace Sample

/-- The first amphora is to get interfaces on the networks. -/
def gaining (nics : List Interface) : Delta where
  amphoraId := "amp-1"
  computeId := "vm-1"
  addNics := nics
  deleteNics := []
  addSubnets := []
  deleteSubnets := []

/-- A step is to start with failures that are to come. -/
def starting (faults : List ScriptedFault) : Run Deployment := start { substrate with faults }

theorem starting_fresh (faults : List ScriptedFault) : (starting faults).state.Fresh := by
  have hstart : ∀ {s : Substrate}, s.Sound → s.pendingDown.entries = [] →
      (start { s with faults }).state.Fresh :=
    fun hs hsettled => .of_sound (hs.of_eq rfl rfl rfl rfl) hsettled rfl
  exact hstart substrate_fit.1 (by decide +kernel)

end Sample

namespace Step

open Delta Deployment

/-- The second interface is to be on a network that does not exist, so the first one stays. Where
a new port can neither be plugged in nor be deleted again, it is left and reported. -/
theorem failed_nic_leaves_no_trace_sample :
    (∃ told run', (applyDelta "amp-1" (Sample.gaining [Sample.memberInterface "net-b" "subnet-b",
        Sample.memberInterface "net-x" "subnet-x"])).execute.runOn (Sample.starting []) =
          (.error told, run') ∧
      run'.state.repository.bindings.map (·.networkId) = ["net-b"]) ∧
    ∃ told run', (applyDelta "amp-1" (Sample.gaining
        [Sample.memberInterface "net-b" "subnet-b"])).execute.runOn (Sample.starting
          [⟨.plugPort, .notFound "Instance vm-1 missing", 1⟩, ⟨.deletePort, .driver "busy", 1⟩]) =
          (.error told, run') ∧
      run'.state.repository.bindings = [] ∧
      ∃ p : Port, p.deviceId = none ∧ run'.state.audit.LeakReported p.id := by
  constructor
  · obtain ⟨amphora, run₁, hamphora⟩ := exists_of_isSome (Deployment.amphora "amp-1")
      (Sample.starting []) (by decide +kernel)
    have hsteps : ∃ a ∈ ((Deployment.amphora "amp-1").runOn (Sample.starting [])).1.toOption,
        ∀ reached ∈ [([Sample.memberInterface "net-b" "subnet-b"].foldlM (addNic a) .empty).runOn
            ((Deployment.amphora "amp-1").runOn (Sample.starting [])).2],
          reached.1.toOption.isSome ∧
            ((createPort (portRequest a (Sample.memberInterface "net-x" "subnet-x"))).runOn
              reached.2.state.substrate).1.toOption.isNone ∧
            reached.2.state.repository.bindings.map (·.networkId) = ["net-b"] := by
      decide +kernel
    rw [hamphora] at hsteps
    obtain ⟨_, ha, hreached⟩ := hsteps
    cases ha
    obtain ⟨hok, hend⟩ := hreached _ List.mem_cons_self
    obtain ⟨changed, run₂, hdone⟩ := exists_of_isSome
      ([Sample.memberInterface "net-b" "subnet-b"].foldlM (addNic amphora) .empty) run₁ hok
    rw [show runOn ([_].foldlM (addNic amphora) .empty) _ = _ from hdone] at hend
    obtain ⟨hnone, hbindings⟩ := hend
    have hsplit : (Sample.gaining [Sample.memberInterface "net-b" "subnet-b",
        Sample.memberInterface "net-x" "subnet-x"]).addNics =
        [Sample.memberInterface "net-b" "subnet-b"] ++
          Sample.memberInterface "net-x" "subnet-x" :: [] := rfl
    have hfails := (failed_nic_leaves_no_trace (Sample.starting_fresh []) hamphora hsplit hdone).1
    rcases hcreate : (createPort (portRequest amphora (Sample.memberInterface "net-x"
      "subnet-x"))).runOn run₂.state.substrate with ⟨e | p, s⟩
    · obtain ⟨told, run', hexecute, -, -, huntraced⟩ := hfails e s hcreate
      exact ⟨told, run', hexecute, huntraced.records.1 ▸ hbindings⟩
    · rw [hcreate] at hnone
      cases hnone
  · let faults : List ScriptedFault :=
      [⟨.plugPort, .notFound "Instance vm-1 missing", 1⟩, ⟨.deletePort, .driver "busy", 1⟩]
    obtain ⟨amphora, run₁, hamphora⟩ := exists_of_isSome (Deployment.amphora "amp-1")
      (Sample.starting faults) (by decide +kernel)
    have hsteps : ∃ a ∈ ((Deployment.amphora "amp-1").runOn (Sample.starting faults)).1.toOption,
        ∀ reached ∈ [((Deployment.amphora "amp-1").runOn (Sample.starting faults)).2],
        ∃ p ∈ ((createPort (portRequest a (Sample.memberInterface "net-b" "subnet-b"))).runOn
          reached.state.substrate).1.toOption,
        ∀ created ∈ [((createPort (portRequest a (Sample.memberInterface "net-b"
            "subnet-b"))).runOn reached.state.substrate).2],
        ∀ plugged ∈ [(plugPort a p).runOn created],
          plugged.1.toOption.isNone ∧
            ((Substrate.deletePort p.id).runOn plugged.2).1.toOption.isNone ∧
            reached.state.repository.bindings = [] := by
      decide +kernel
    rw [hamphora] at hsteps
    obtain ⟨_, ha, hreached⟩ := hsteps
    cases ha
    obtain ⟨p, hp, hcreated⟩ := hreached _ List.mem_cons_self
    have hplugging := hcreated _ List.mem_cons_self _ List.mem_cons_self
    rcases hcreate : (createPort (portRequest amphora (Sample.memberInterface "net-b"
      "subnet-b"))).runOn run₁.state.substrate with ⟨e | q, s⟩
    · rw [hcreate] at hp
      cases hp
    rw [hcreate] at hp hplugging
    cases hp
    obtain ⟨hunplugged, hkept, hbindings⟩ := hplugging
    rcases hplug : (plugPort amphora p).runOn s with ⟨e | _, t⟩
    · rw [hplug] at hkept
      obtain ⟨told, run', hexecute, -, -, hleft⟩ := (failed_nic_leaves_no_trace
        (Sample.starting_fresh faults) hamphora
        (rfl : (Sample.gaining [Sample.memberInterface "net-b" "subnet-b"]).addNics = [] ++ _ :: [])
        (rfl : runOn ([].foldlM (addNic amphora) .empty) run₁ = _)).2 p s e t hcreate hplug
      rcases hdelete : ((Substrate.deletePort p.id).runOn t).1 with why | _
      · rw [hdelete] at hleft
        refine ⟨told, run', hexecute, hleft.repository ▸ hbindings, p, hleft.detached, ?_⟩
        rw [hleft.audit]
        exact AuditLog.leakReported_resourceLeaked _ _ _ _
      · rw [hdelete] at hkept
        cases hkept
    · rw [hplug] at hunplugged
      cases hunplugged

end Step

end AmphoraWiring
