import AmphoraWiring.Proofs.Saga.Records
import Mathlib.Logic.Equiv.Basic

/-!
Load balancers are updated over and over: what is to be reached changes, and amphorae come and go.
After each update the deltas of all its amphorae are computed and applied. However long that has
been going on, the records of an amphora are the ports of its instance outside the management
networks.
-/
namespace AmphoraWiring

open Action Substrate Deployment

/-- Stores a load balancer, and attaches its amphorae as it wants them to be. -/
def Step.reconcile (management : List String) (lb : LoadBalancer) : Work Unit := do
  onRepository (Repository.putLoadBalancer lb)
  let deltas ← onSubstrate (computeDeltas management lb)
  let _ ← (Step.applyDeltas lb.id deltas).execute

namespace Repository

variable {r : Repository}

/-- The amphorae of a load balancer that has just been stored are those that it was stored with. -/
theorem mem_amphoraeOf_store {lb : LoadBalancer} {a : Amphora}
    (h : a ∈ (r.store lb).amphoraeOf lb.id) :
    ∃ a' ∈ lb.amphorae, a = { a' with loadBalancerId := some lb.id } := by
  have hadopted : ∀ (l : List Amphora) (m : IdMap Amphora) (id : String),
      (l.foldl (adopt lb.id) m).get? id = some a →
      (∃ a' ∈ l, a = { a' with loadBalancerId := some lb.id }) ∨ m.get? id = some a := by
    intro l
    induction l with
    | nil => exact fun m id h => .inr h
    | cons first rest ih =>
      intro m id h
      rcases ih _ id h with ⟨a', ha', rfl⟩ | h
      · exact .inl ⟨a', List.mem_cons_of_mem _ ha', rfl⟩
      · rw [get?_adopt] at h
        split at h
        next => exact .inl ⟨first, List.mem_cons_self, (Option.some.inj h).symm⟩
        next => exact .inr h
  obtain ⟨⟨id, hget⟩, howner⟩ := mem_amphoraeOf.mp h
  rcases hadopted lb.amphorae _ id hget with hstored | hother
  · exact hstored
  · rw [IdMap.get?_filter, Option.filter_eq_some_iff] at hother
    simp [howner] at hother

theorem records_store (lb : LoadBalancer) (amphoraId : String) :
    (r.store lb).records amphoraId = r.records amphoraId := rfl

theorem ends_getMemberPortIds (amphoraId : String) (r : Repository) :
    (getMemberPortIds amphoraId).Ends r
      (fun ids r' => r.Heard r' ∧ ids = (r.records amphoraId).map (·.1))
      fun _ _ => ¬ r.Harmless := by
  refine ends_call (fun e r' h hharm => hharm) fun r' h => ?_
  refine ends_get (ends_pure ⟨h, ?_⟩)
  rw [h.bindings, records, List.map_map]
  rfl

end Repository

/-- A load balancer may be stored without harm to the records. -/
theorem Recorded.store {home : String → String} {management : List String} {d d' : Deployment}
    (h : Recorded home management d) {lb : LoadBalancer} (hsubstrate : d'.substrate = d.substrate)
    (hrepository : (d.repository.store lb).Heard d'.repository) : Recorded home management d' where
  sound := hsubstrate ▸ h.sound
  faults := hsubstrate ▸ h.faults
  harmless := hrepository.harmless h.harmless
  listed a := by rw [hrepository.records, Repository.records_store, hsubstrate, h.listed]
  single := hsubstrate ▸ h.single
  own := hsubstrate ▸ h.own

/-- An update has its allocated amphorae on their instances and wants no management network. -/
structure Admissible (home : String → String) (management : List String) (s : Substrate)
    (lb : LoadBalancer) : Prop where
  hosted : ∀ a ∈ lb.amphorae, (∃ a' ∈ lb.allocatedAmphorae, a'.id = a.id) →
    a.computeId = some (home a.id)
  unmanaged : ∀ {subnetId networkId}, s.Wanted lb subnetId networkId → networkId ∉ management

variable {home : String → String} {management : List String} {lb : LoadBalancer} {s t : Substrate}

/-- Whether an update is admissible depends on the networks alone. -/
theorem Admissible.later (h : Admissible home management s lb) (hsame : s.SameNetworks t) :
    Admissible home management t lb where
  hosted := h.hosted
  unmanaged hwanted := h.unmanaged (by rwa [wanted_congr hsame.subnets] at hwanted)

theorem Admissible.instanceId_eq (h : Admissible home management s lb) {a : Amphora}
    (ha : a ∈ lb.allocatedAmphorae) : a.instanceId = home a.id :=
  Amphora.instanceId_eq (h.hosted a (List.mem_of_mem_filter ha) ⟨a, ha, rfl⟩)

/-- A computed delta fits the instance that it was computed for. -/
theorem Delta.fitting_delta (h : Admissible home management s lb) (hanswered : s.Answered lb)
    (a : Amphora) : Fitting management (s.delta management lb a).addNics
      (s.delta management lb a).deleteNics (s.places a.instanceId) := by
  constructor
  case added =>
    intro nic hnic
    obtain ⟨networkId, hnetwork, hvacant, rfl⟩ := mem_addNics.mp hnic
    obtain ⟨subnetId, hget⟩ := Topology.mem_networks.mp hnetwork
    have hmanagement := h.unmanaged ((get?_subnets_desired hanswered).mp hget)
    refine ⟨hmanagement, fun id hid => ?_⟩
    obtain ⟨p, hp, -⟩ := mem_places.mp hid
    have hports := hvacant.resolve_left hmanagement
    change p ∈ s.portsOn a.instanceId networkId at hp
    rw [hports] at hp
    cases hp
  case added_nodup => exact addNics_nodup _
  case deleted =>
    intro nic hnic
    obtain ⟨networkId, p, hmanagement, -, hp, rfl⟩ := mem_deleteNics.mp hnic
    have hnetwork := carrier_networkId hp
    subst hnetwork
    exact ⟨hmanagement, p.id, rfl, mem_places.mpr ⟨p, carrier_mem hp, rfl⟩⟩
  case deleted_nodup => exact deleteNics_nodup

namespace Step

/-- What an entry of the deltas needs in order to be applied: its amphora runs on its instance, and
the delta fits what the instance carries. -/
structure Ready (home : String → String) (management : List String) (amphorae : List Amphora)
    (s : Substrate) (e : String × Delta) : Prop where
  located : ∀ a, (amphorae.find? fun a => a.id = e.1) = some a → a.computeId = some (home e.1)
  hosted : s.plugged.contains (home e.1)
  fits : Delta.Fitting management e.2.addNics e.2.deleteNics (s.places (home e.1))

/-- Some of the deltas have been applied; the instances of the rest are as they were. -/
structure Applying (home : String → String) (management : List String) (start : Deployment)
    (rest : List (String × Delta)) (_ : IdMap (List Port)) (run : Run Deployment) : Prop where
  recorded : Recorded home management run.state
  sameNetworks : start.substrate.SameNetworks run.state.substrate
  instances : start.substrate.KeepsInstances run.state.substrate
  waiting : ∀ e ∈ rest, run.state.substrate.places (home e.1) = start.substrate.places (home e.1)
  distinct : (rest.map (·.1)).Nodup

variable {d : Deployment} {run run' : Run Deployment} {e : String × Delta}
  {rest : List (String × Delta)} {changed : IdMap (List Port)}

theorem Applying.next (h : Applying home management d (e :: rest) changed run)
    (hhome : Function.Injective home)
    (hkeeping : Delta.Keeping home management (home e.1) run.state run'.state)
    (changed' : IdMap (List Port)) : Applying home management d rest changed' run' := by
  obtain ⟨hfirst, hnodup⟩ := List.nodup_cons.mp h.distinct
  constructor
  case recorded => exact hkeeping.recorded
  case sameNetworks => exact h.sameNetworks.trans hkeeping.sameNetworks
  case instances => exact fun c hc => hkeeping.instances c (h.instances c hc)
  case waiting =>
    intro e' he'
    have hother : home e'.1 ≠ home e.1 := by
      intro heq
      exact hfirst (List.mem_map.mpr ⟨e', he', hhome heq⟩)
    rw [hkeeping.others _ hother]
    exact h.waiting e' (List.mem_cons_of_mem _ he')
  case distinct => exact hnodup

/-- One entry after the other is applied, each to an instance that it fits. -/
theorem ends_applyTo_keeping (hhome : Function.Injective home) {lb : LoadBalancer}
    (entries : List (String × Delta)) (changed : IdMap (List Port))
    (hready : ∀ e ∈ entries, Ready home management lb.amphorae d.substrate e)
    (h : Applying home management d entries changed run) :
    Action.Ends (entries.foldlM (applyTo lb) changed) run
      (Applying home management d []) fun _ _ => True := by
  induction entries generalizing changed run with
  | nil => exact ends_pure h
  | cons e rest ih =>
    have he := hready e List.mem_cons_self
    have hfirst : Action.Ends (applyTo lb changed e) run
        (Applying home management d rest) fun _ _ => True := by
      refine (ends_orFail _ _ run).bind ?_ fun _ _ _ => trivial
      intro a run₁ hend
      obtain ⟨rfl, hfind⟩ := hend
      have hid : a.id = e.1 := by simpa using List.find?_some hfind
      have hplaces := h.waiting e List.mem_cons_self
      refine (Delta.ends_apply_keeping hhome (he.located a hfind) (hid ▸ rfl) h.recorded
        (h.instances _ he.hosted) (hplaces ▸ he.fits)).bind ?_ fun _ _ h => h
      exact fun ports run₂ hkeeping => ends_pure (h.next hhome hkeeping _)
    rw [List.foldlM_cons]
    refine hfirst.bind (fun changed' run' h' => ?_) fun _ _ h => h
    exact ih changed' (fun e he => hready e (List.mem_cons_of_mem _ he)) h'

/-- Every delta that is computed for a load balancer that has just been stored can be applied. -/
theorem ready_of_computed (h : Admissible home management s lb)
    (hcomputable : ∀ a ∈ lb.allocatedAmphorae, s.Computable lb a) {r : Repository}
    (he : e ∈ (IdMap.ofList (lb.allocatedAmphorae.map fun a =>
      (a.id, s.delta management lb a))).entries) :
    Ready home management ((r.store lb).amphoraeOf lb.id) s e := by
  obtain ⟨id, delta⟩ := e
  have hmem := IdMap.mem_of_get?_ofList (IdMap.mem_entries_iff.mp he)
  obtain ⟨a, ha, heq⟩ := List.mem_map.mp hmem
  obtain ⟨rfl, rfl⟩ := Prod.mk.inj heq
  have hinstance := h.instanceId_eq ha
  constructor
  case located =>
    intro stored hfind
    have hid : stored.id = a.id := by simpa using List.find?_some hfind
    obtain ⟨a', ha', rfl⟩ := Repository.mem_amphoraeOf_store (List.mem_of_find?_eq_some hfind)
    exact hid ▸ h.hosted a' ha' ⟨a, ha, hid.symm⟩
  case hosted => exact hinstance ▸ (hcomputable a ha).hosted
  case fits => exact hinstance ▸ Delta.fitting_delta h (hcomputable a ha).answered a

/-- One update keeps the records right. -/
theorem ends_reconcile (hhome : Function.Injective home)
    (h : Admissible home management run.state.substrate lb)
    (hrecorded : Recorded home management run.state) :
    Action.Ends (reconcile management lb) run
      (fun _ run' => Recorded home management run'.state ∧
        run.state.substrate.SameNetworks run'.state.substrate) fun _ _ => True := by
  refine (ends_onRepository (Repository.ends_putLoadBalancer lb _)).bind ?_ fun _ _ _ => trivial
  intro _ run₁ hend
  obtain ⟨hstored, hsubstrate₁, -⟩ := hend
  have hrecorded₁ := hrecorded.store hsubstrate₁ hstored
  refine (ends_onSubstrate (ends_computeDeltas_iff management lb _)).bind ?_ fun _ _ _ => trivial
  intro deltas run₂ hend
  obtain ⟨⟨hheard, rfl, hcomputable⟩, hrepository₂, -⟩ := hend
  refine Ends.bind (f := fun _ => pure ()) ?_ (fun _ _ h => ends_pure h) fun _ _ h => h
  refine (ends_onRepository (Repository.ends_getLoadBalancer lb.id _)).bind ?_ fun _ _ _ => trivial
  intro lb' run₃ hend
  obtain ⟨⟨hlistened, stored, -, rfl⟩, hsubstrate₃, -⟩ := hend
  rw [hrepository₂] at hlistened
  have hheard₃ : run₁.state.substrate.Heard run₃.state.substrate := hsubstrate₃ ▸ hheard
  have hamphorae : run₂.state.repository.amphoraeOf lb.id =
      (run.state.repository.store lb).amphoraeOf lb.id := by
    rw [hrepository₂, Repository.amphoraeOf, hstored.amphorae, Repository.amphoraeOf]
  have hstart : Applying home management run₁.state (IdMap.ofList (lb.allocatedAmphorae.map
      fun a => (a.id, run₁.state.substrate.delta management lb a))).entries .empty run₃ := by
    constructor
    case recorded =>
      exact hrecorded₁.of_places (hheard₃.sound hrecorded₁.sound) hheard₃.sameNetworks
        hheard₃.samePorts.places hlistened
    case sameNetworks => exact hheard₃.sameNetworks
    case instances => exact keepsInstances_of_plugged hheard₃.plugged
    case waiting => exact fun e _ => hheard₃.samePorts.places (home e.1)
    case distinct => exact IdMap.keys_nodup _
  apply (ends_applyTo_keeping hhome _ _ (fun e he => ?_) hstart).mono
  · exact fun _ run' hend => ⟨hend.recorded, hsubstrate₁ ▸ hend.sameNetworks⟩
  · exact fun _ _ h => h
  · rw [hamphorae]
    exact ready_of_computed (hsubstrate₁.symm ▸ h) hcomputable he

/-- Any number of updates keeps the records right. -/
theorem ends_reconcile_all (hhome : Function.Injective home) (updates : List LoadBalancer)
    (h : ∀ lb ∈ updates, Admissible home management run.state.substrate lb)
    (hrecorded : Recorded home management run.state) :
    Action.Ends (updates.forM (reconcile management)) run
      (fun _ run' => Recorded home management run'.state) fun _ _ => True := by
  induction updates generalizing run with
  | nil => exact ends_pure hrecorded
  | cons lb updates ih =>
    have hlb := h lb List.mem_cons_self
    refine (ends_reconcile hhome hlb hrecorded).bind ?_ fun _ _ h => h
    intro _ run' hend
    obtain ⟨hrecorded', hsame⟩ := hend
    exact ih (fun lb' hlb' => (h lb' (List.mem_cons_of_mem _ hlb')).later hsame) hrecorded'

end Step

namespace Sample

def released : LoadBalancer :=
  loadBalancer [amphora "amp-1" "vm-1", { amphora "amp-2" "vm-2" with status := .pendingDelete }]

def moved : LoadBalancer :=
  { released with
    pools := [{ id := "pool-1", members := [{ id := "m2", subnetId := some "subnet-c" }] }] }

/-- Two amphorae serve a member, one of them is released, and the member moves. -/
def churn : List LoadBalancer := [pair, released, moved]

/-- The instances of the amphorae. -/
def seats : Equiv.Perm String :=
  (Equiv.swap "amp-1" "vm-1").trans (Equiv.swap "amp-2" "vm-2")

theorem seats_first : seats "amp-1" = "vm-1" := by decide +kernel

theorem seats_second : seats "amp-2" = "vm-2" := by decide +kernel

theorem admissible_churn : ∀ lb ∈ churn, Admissible seats ["mgmt-net"] substrate lb := by
  have hplaced : ∀ lb ∈ churn, ∀ a ∈ lb.amphorae,
      a.id = "amp-1" ∧ a.computeId = some "vm-1" ∨ a.id = "amp-2" ∧ a.computeId = some "vm-2" := by
    decide +kernel
  have hanswered : ∀ lb ∈ churn, ∀ d ∈ lb.demands, (substrate.subnets.get? d.1).isSome := by
    decide +kernel
  have hnetworks : ∀ lb ∈ churn, ∀ e ∈ (substrate.desired lb).subnets.entries,
      e.2 ∉ ["mgmt-net"] := by
    decide +kernel
  intro lb hlb
  constructor
  case hosted =>
    intro a ha _
    rcases hplaced lb hlb a ha with ⟨hid, hcompute⟩ | ⟨hid, hcompute⟩
    · rw [hid, hcompute, seats_first]
    · rw [hid, hcompute, seats_second]
  case unmanaged =>
    intro subnetId networkId hwanted
    have hsubnets : substrate.Answered lb := by
      intro d hd
      obtain ⟨subnet, hsubnet⟩ := Option.isSome_iff_exists.mp (hanswered lb hlb d hd)
      exact ⟨subnet.networkId, subnet, hsubnet, rfl⟩
    have hget := (get?_subnets_desired hsubnets).mpr hwanted
    exact hnetworks lb hlb _ (IdMap.mem_entries_iff.mpr hget)

end Sample

namespace Step

/-- From instances that carry nothing but management interfaces, and without a record, any updates
lead to records that list the ports of an instance outside the management networks: each of them
once, in the order in which they were plugged in, and by the network that the port is on. -/
theorem reconcile_keeps_records {r : Repository} {audit : AuditLog} {context : Context}
    (hhome : Function.Injective home) (hs : s.Sound) (hfaults : s.faults = [])
    (hharmless : r.Harmless)
    (hplain : ∀ c, ∀ p ∈ s.pluggedPorts c, p.networkId ∈ management) (hrecords : r.bindings = [])
    {updates : List LoadBalancer} (hupdates : ∀ lb ∈ updates, Admissible home management s lb)
    (hrun : (updates.forM (reconcile management)).runOn ⟨context, ⟨s, r, audit⟩⟩ = (.ok (), run))
    (amphoraId : String) : ∃ ids r',
      (Repository.getMemberPortIds amphoraId).runOn run.state.repository = (.ok ids, r') ∧
      ids = ((run.state.substrate.pluggedPorts (home amphoraId)).filter
        fun p => p.networkId ∉ management).map (·.id) ∧
      ids.Nodup ∧
      ∀ b ∈ run.state.repository.bindings, b.amphoraId = amphoraId →
        ∃ p, run.state.substrate.ports.get? b.portId = some p ∧ p.networkId = b.networkId := by
  have hstart : Recorded home management ⟨s, r, audit⟩ :=
    .start hs hfaults hharmless hplain hrecords
  have hall : Action.Ends (updates.forM (reconcile management)) ⟨context, ⟨s, r, audit⟩⟩
      (fun _ run' => Recorded home management run'.state) fun _ _ => True :=
    ends_reconcile_all hhome updates hupdates hstart
  have hend := hall.of_ok hrun
  have hlisted := (Repository.ends_getMemberPortIds amphoraId run.state.repository).mono
    (fun _ _ h => h.2) fun _ _ h => h hend.harmless
  obtain ⟨ids, r', hids, rfl⟩ := hlisted.value
  refine ⟨_, r', hids, ?_, ?_, ?_⟩
  · rw [hend.listed, members_eq, List.map_map]
    rfl
  · rw [hend.listed]
    exact hend.sound.members_nodup management (home amphoraId)
  · intro b hb hamphora
    have hmem : (b.portId, b.networkId) ∈ run.state.repository.records amphoraId :=
      List.mem_map.mpr ⟨b, List.mem_filter.mpr ⟨hb, decide_eq_true hamphora⟩, rfl⟩
    rw [hend.listed] at hmem
    obtain ⟨p, hp, hid⟩ := mem_places.mp (List.mem_of_mem_filter hmem)
    obtain ⟨-, hget, hnetwork⟩ := hend.sound.mem_portsOn.mp hp
    exact ⟨p, hid ▸ hget, hnetwork⟩

/-- Members come and go on two networks, and an amphora is released. -/
theorem reconcile_keeps_records_sample : ∃ run ids r,
    (Sample.churn.forM (reconcile ["mgmt-net"])).runOn
      ⟨{}, { substrate := Sample.substrate }⟩ = (.ok (), run) ∧
    (Repository.getMemberPortIds "amp-1").runOn run.state.repository = (.ok ids, r) ∧
    ids = ((run.state.substrate.pluggedPorts "vm-1").filter
      fun p => p.networkId ∉ ["mgmt-net"]).map (·.id) ∧ ids.Nodup := by
  obtain ⟨_, run, hrun⟩ := exists_of_isSome (Sample.churn.forM (reconcile ["mgmt-net"]))
    ⟨{}, { substrate := Sample.substrate }⟩ (by decide +kernel)
  have hplain : ∀ e ∈ Sample.substrate.ports.entries, e.2.networkId ∈ ["mgmt-net"] := by
    decide +kernel
  have hports : ∀ c, ∀ p ∈ Sample.substrate.pluggedPorts c, p.networkId ∈ ["mgmt-net"] := by
    intro c p hp
    obtain ⟨id, -, hget⟩ := mem_pluggedPorts.mp hp
    exact hplain _ (IdMap.mem_entries_iff.mpr hget)
  have hfaults : Sample.substrate.faults = [] := by decide +kernel
  obtain ⟨ids, r, hids, heq, hnodup, -⟩ := reconcile_keeps_records Sample.seats.injective
    Sample.substrate_fit.1 hfaults (Repository.harmless_of_script_nil rfl) hports rfl
    Sample.admissible_churn hrun "amp-1"
  rw [Sample.seats_first] at heq
  exact ⟨run, ids, r, hrun, hids, heq, hnodup⟩

end Step

end AmphoraWiring
