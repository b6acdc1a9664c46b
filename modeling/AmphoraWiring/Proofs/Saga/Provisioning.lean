import AmphoraWiring.Proofs.Retrying
import AmphoraWiring.Proofs.Saga.VipAllocation
import AmphoraWiring.Saga.BasePort

/-!
Provisioning a virtual address and taking it back. The address is allocated and saved with its load
balancer, an amphora is given a base port, and the base port is plugged in. Every port that is
touched on the way has been made on the way, also the base port that is found again by its name or
through the amphora. So taking the steps back in the opposite order removes these ports and leaves
the substrate as it was.
-/
namespace AmphoraWiring

open Action

namespace Substrate

variable {s t u : Substrate} {ids : List String} {p : Port}

/-- Since `s` no port was touched but those under the ids, and none of these was there. -/
structure Grown (ids : List String) (s t : Substrate) : Prop where
  same : SameBut ids s t
  absent : ∀ id ∈ ids, s.Absent id
  drawn : s.drawn ≤ t.drawn
  own_id : ∀ {id p}, t.ports.get? id = some p → p.id = id

namespace Grown

theorem refl (hs : s.Sound) : Grown [] s s :=
  ⟨.refl [] s, by simp, Nat.le_refl _, hs.own_id⟩

theorem samePorts (h : Grown ids s t) (hsame : SameBut [] t u) (hports : t.SamePorts u) :
    Grown ids s u :=
  ⟨h.same.trans (hsame.mono (List.nil_subset ids)), h.absent,
    Nat.le_trans h.drawn (Nat.le_of_eq hports.drawn.symm), fun hp => h.own_id (hports.ports ▸ hp)⟩

theorem heard (h : Grown ids s t) (hheard : t.Heard u) : Grown ids s u :=
  h.samePorts (.of_heard hheard) hheard.samePorts

theorem serving {request : PortRequest} (h : Grown ids s t) (hserving : t.Serving u request) :
    Grown ids s u := by
  obtain ⟨subnetIds, hallocating, -⟩ := hserving
  exact h.samePorts (.of_allocating hallocating) hallocating.samePorts

theorem stored (h : Grown ids s t) (hstored : t.Stored u p) (hdrawn : t.drawn ≤ u.drawn)
    (habsent : s.Absent p.id) : Grown (p.id :: ids) s u where
  same := (h.same.mono (List.subset_cons_self _ _)).trans (hstored.sameBut List.mem_cons_self)
  absent := List.forall_mem_cons.mpr ⟨habsent, h.absent⟩
  drawn := Nat.le_trans h.drawn hdrawn
  own_id := by
    intro id q hq
    rw [hstored.ports, IdMap.get?_insert] at hq
    split at hq
    next heq =>
      cases hq
      exact heq.symm
    next => exact h.own_id hq

theorem next_absent (h : Grown ids s t) (hs : s.Sound) : s.Absent (drawnId (t.drawn + 1)) :=
  .of_new hs (hs.fresh _ (Nat.lt_succ_of_le h.drawn))

theorem created (h : Grown ids s t) (hs : s.Sound) {request : PortRequest}
    (hserving : t.Serving u request) (hcreated : t.Created request p) :
    Grown (p.id :: ids) s (u.addPort p) :=
  (h.serving hserving).stored ⟨rfl, rfl, rfl⟩ (Nat.le_succ _) (hcreated.id ▸ h.next_absent hs)

/-- The base port of an amphora that had none at the start is one of those that were made. -/
theorem base_absent (h : Grown ids s t) (hs : s.Sound) {amphora : Amphora}
    (hvrrp : ∀ id, amphora.vrrpPortId = some id → s.ports.get? id = none)
    (hname : ∀ {id p}, s.ports.get? id = some p → p.name ≠ basePortName amphora.id) {id : String}
    (hbase : t.basePortOf amphora = some id) : s.Absent id := by
  have hbyName : basePortOf.byName t amphora = some id → s.Absent id := by
    intro hfound
    obtain ⟨p, hfind, rfl⟩ := Option.map_eq_some_iff.mp hfound
    obtain ⟨k, hget⟩ := IdMap.mem_values_iff.mp (List.mem_of_find?_eq_some hfind)
    have hpname : p.name = basePortName amphora.id := by simpa using List.find?_some hfind
    obtain rfl := h.own_id hget
    by_cases hmem : p.id ∈ ids
    · exact h.absent _ hmem
    · rw [h.same.ports _ hmem] at hget
      exact absurd hpname (hname hget)
  unfold basePortOf at hbase
  split at hbase
  next vrrp hnamed =>
    split at hbase
    · cases hbase
      exact .of_new hs (hvrrp _ hnamed)
    · exact hbyName hbase
  next => exact hbyName hbase

end Grown

/-- What was touched is being removed; the ports under the ids in `gone` have been. -/
structure Clearing (ids gone : List String) (s t : Substrate) : Prop where
  same : SameBut ids s t
  absent : ∀ id ∈ ids, s.Absent id
  gone : ∀ id ∈ gone, t.Absent id
  quiet : t.faults = []

theorem Grown.clearing (h : Grown ids s t) (hquiet : t.faults = []) : Clearing ids [] s t :=
  ⟨h.same, h.absent, by simp, hquiet⟩

theorem Clearing.removed {gone : List String} {id : String} (h : Clearing ids gone s t)
    (hid : id ∈ ids) (hremoved : (t.removePort id).Heard u) : Clearing ids (id :: gone) s u where
  same := h.same.trans ((SameBut.of_removePort hid).trans (.of_heard hremoved))
  absent := h.absent
  gone := by
    refine List.forall_mem_cons.mpr ⟨(Absent.of_removePort t id).heard hremoved, fun k hk => ?_⟩
    exact ((h.gone k hk).removePort id).heard hremoved
  quiet := hremoved.faults_nil h.quiet

theorem Clearing.restored {gone : List String} (h : Clearing ids gone s t) (hall : ids ⊆ gone) :
    s.Restored t :=
  have hgone : ∀ id ∈ ids, t.Absent id := fun id hid => h.gone id (hall hid)
  h.same.restored h.absent hgone

end Substrate

open Substrate Deployment

/-- What it takes to provision a virtual address for an amphora. -/
structure Provisioning where
  loadBalancerId : String
  amphoraId : String
  subnetId : String
  policy : RetryPolicy
  groupId : Option String

namespace Provisioning

variable (saga : Provisioning)

/-- Allocates the address, and saves the load balancer with it. -/
def allocate : Work AllocatedVip := do
  let allocated ← (Step.allocateVip saga.loadBalancerId).execute
  let lb ← loadBalancer saga.loadBalancerId
  onRepository (Repository.putLoadBalancer { lb with vip := allocated.vip })
  return allocated

def base (allocated : AllocatedVip) : Step Port :=
  Step.createVipBasePort saga.policy allocated.vip saga.groupId saga.amphoraId
    allocated.additionalVips

def plug : Step Amphora := Step.plugVip saga.loadBalancerId saga.amphoraId saga.subnetId

/-- Executes so many of the three steps, at least the first one, and gives back what reverts them
in the opposite order. -/
def provision (count : Nat) : Work (Effect Deployment Unit) := do
  let allocated ← saga.allocate
  let release := (Step.allocateVip saga.loadBalancerId).revert allocated
  if count ≤ 1 then return release
  let port ← (saga.base allocated).execute
  if count ≤ 2 then
    return do
      (saga.base allocated).revert port
      release
  let plugged ← saga.plug.execute
  return do
    saga.plug.revert plugged
    (saga.base allocated).revert port
    release

/-- Nothing has been provisioned yet: neither the address nor the amphora nor the name of its base
port leads to a port. -/
structure Unprovisioned (d : Deployment) : Prop where
  address : ∃ lb, d.repository.loadBalancers.get? saga.loadBalancerId = some lb ∧
    ∀ id, lb.vip.portId = some id → d.substrate.ports.get? id = none
  amphora : ∃ a, d.repository.amphorae.get? saga.amphoraId = some a ∧
    ∀ id, a.vrrpPortId = some id → d.substrate.ports.get? id = none
  name : ∀ {id p}, d.substrate.ports.get? id = some p → p.name ≠ basePortName saga.amphoraId

/-- The load balancer is there, and the amphorae are those of `r`. -/
structure Saved (r r' : Repository) : Prop where
  loadBalancer : ∃ lb, r'.loadBalancers.get? saga.loadBalancerId = some lb
  amphorae : r'.amphorae = r.amphorae

variable {saga} {run : Run Deployment} {s : Substrate} {ids : List String}

theorem Saved.heard {r r' r'' : Repository} (h : saga.Saved r r') (hheard : r'.Heard r'') :
    saga.Saved r r'' :=
  ⟨hheard.loadBalancers ▸ h.loadBalancer, hheard.amphorae.trans h.amphorae⟩

/-- The load balancer that is saved has the amphorae that it had when it was read. -/
theorem saved_store {r r₁ : Repository} {stored : LoadBalancer} (hr : r.Keyed)
    (hheard : r.Heard r₁) (hget : r.loadBalancers.get? saga.loadBalancerId = some stored)
    (vip : Vip) : saga.Saved r (r₁.store
      { stored with vip, amphorae := r.amphoraeOf saga.loadBalancerId }) := by
  have hid : stored.id = saga.loadBalancerId := hr.loadBalancers hget
  constructor
  · refine ⟨{ stored with vip, amphorae := [] }, ?_⟩
    change (r₁.loadBalancers.insert stored.id _).get? _ = _
    rw [hid]
    exact IdMap.get?_insert_self _ _ _
  · refine Eq.trans ?_ hheard.amphorae
    apply (hheard.keyed hr).amphorae_store
    change r.amphoraeOf saga.loadBalancerId = r₁.amphoraeOf stored.id
    rw [hid]
    unfold Repository.amphoraeOf
    rw [hheard.amphorae]

/-- The port of the address is new, and its record is saved. -/
theorem ends_allocate (hs : run.state.substrate.Sound) (hr : run.state.repository.Keyed)
    (h : saga.Unprovisioned run.state) : Action.Ends saga.allocate run
      (fun allocated run' => ∃ id, allocated.vip.portId = some id ∧
        Grown [id] run.state.substrate run'.state.substrate ∧
        saga.Saved run.state.repository run'.state.repository)
      fun _ _ => True := by
  refine (Step.ends_allocate saga.loadBalancerId run).bind ?_ (fun _ _ _ => trivial)
  intro allocated run₁ hend
  obtain ⟨lb, r, hread, rfl, p, hvip, hstored, hdrawn, hport⟩ := hend
  obtain ⟨hheard, stored, hget, rfl⟩ :=
    (Repository.ends_getLoadBalancer saga.loadBalancerId _).of_ok hread
  have habsent : run.state.substrate.Absent p.id := by
    obtain ⟨lb, hlb, hunnamed⟩ := h.address
    rw [hget] at hlb
    cases hlb
    cases hvip with
    | named q ips hnamed =>
      obtain ⟨id, hid, hq⟩ := Option.bind_eq_some_iff.mp hnamed
      simp [hunnamed id hid] at hq
    | made ip ips hmissing => exact .of_new hs hs.next_is_new
  have hgrown := (Grown.refl hs).stored hstored hdrawn habsent
  refine (ends_onRepository (Repository.ends_getLoadBalancer _ _)).bind ?_ (fun _ _ _ => trivial)
  intro lb run₂ hend
  obtain ⟨⟨hheard₂, stored₂, hget₂, rfl⟩, hsubstrate₂, -⟩ := hend
  refine (ends_onRepository (Repository.ends_putLoadBalancer _ _)).bind ?_ (fun _ _ _ => trivial)
  intro a run₃ hend
  obtain ⟨hsaved, hsubstrate₃, -⟩ := hend
  refine ends_pure ⟨p.id, hport, ?_, ?_⟩
  · rw [hsubstrate₃, hsubstrate₂]
    exact hgrown
  · have hsaved₁ := saved_store (hheard.keyed hr) hheard₂ hget₂ allocated.vip
    exact ⟨(hsaved₁.heard hsaved).loadBalancer,
      (hsaved₁.heard hsaved).amphorae.trans hheard.amphorae⟩

/-- Nothing was made since `s` but what `ids` names, and the repository is still `r`. -/
structure Attempting (ids : List String) (s : Substrate) (r : Repository) (d : Deployment) :
    Prop where
  grown : Grown ids s d.substrate
  repository : d.repository = r

/-- However many attempts it takes, one base port is made. -/
theorem ends_createBasePort (hs : s.Sound) (policy : RetryPolicy) (amphoraId : String)
    (request : PortRequest) (h : Grown ids s run.state.substrate) :
    Action.Ends (Step.createBasePort policy amphoraId request) run
      (fun port run' => Grown (port.id :: ids) s run'.state.substrate ∧
        run'.state.repository = run.state.repository)
      fun _ _ => True := by
  refine (Flow.ends_retry (Attempting ids s run.state.repository)
    (Attempting ids s run.state.repository)
    (fun port => Attempting (port.id :: ids) s run.state.repository) ?_ (fun _ h => h)
    ⟨h, rfl⟩).bind ?_ (fun _ _ _ => trivial)
  · intro n run₁ hbefore
    apply (ends_onSubstrate (ends_createPort request _)).mono
    · intro port run' hend
      obtain ⟨⟨u, hserving, hcreated, hheard⟩, hrepository, -⟩ := hend
      exact ⟨(hbefore.grown.created hs hserving hcreated).heard hheard,
        hrepository.trans hbefore.repository⟩
    · intro e run' hend
      obtain ⟨⟨u, hserving, hheard, -⟩, hrepository, -⟩ := hend
      exact ⟨(hbefore.grown.serving hserving).heard hheard,
        hrepository.trans hbefore.repository⟩
  · intro port run' hend
    exact ends_record (ends_pure ⟨hend.grown, hend.repository⟩)

/-- The base port was plugged in. It is one that had been made since the start `d`. -/
structure Plugged (saga : Provisioning) (ids : List String) (d d' : Deployment)
    (plugged : Amphora) (id : String) : Prop where
  named : plugged.vrrpPortId = some id
  same : SameBut (id :: ids) d.substrate d'.substrate
  absent : d.substrate.Absent id
  present : d'.substrate.ports.contains id
  subnet : ∃ subnet, d'.substrate.subnets.get? saga.subnetId = some subnet
  saved : saga.Saved d.repository d'.repository

/-- The base port that is plugged in was made by the saga. -/
theorem ends_plug {d : Deployment} (hs : d.substrate.Sound) (hr : d.repository.Keyed)
    (h : saga.Unprovisioned d) (hgrown : Grown ids d.substrate run.state.substrate)
    (hsaved : saga.Saved d.repository run.state.repository) :
    Action.Ends saga.plug.execute run
      (fun plugged run' => ∃ id, saga.Plugged ids d run'.state plugged id) fun _ _ => True := by
  refine (ends_onRepository (Repository.ends_getAmphora saga.amphoraId _)).bind ?_
    (fun _ _ _ => trivial)
  intro amphora run₁ hend
  obtain ⟨⟨hheard₁, hamphora⟩, hsubstrate₁, -⟩ := hend
  refine (ends_onRepository (Repository.ends_getLoadBalancer saga.loadBalancerId _)).bind ?_
    (fun _ _ _ => trivial)
  intro lb run₂ hend
  obtain ⟨⟨hheard₂, -⟩, hsubstrate₂, -⟩ := hend
  refine (ends_onSubstrate (ends_getSubnet saga.subnetId _)).bind ?_ (fun _ _ _ => trivial)
  intro subnet run₃ hend
  obtain ⟨⟨hheard₃, hsubnet⟩, hrepository₃, -⟩ := hend
  rw [hsubstrate₂, hsubstrate₁] at hheard₃ hsubnet
  have hgrown₃ := hgrown.heard hheard₃
  apply (ends_onSubstrate (ends_plugAapPort lb.vip amphora subnet _)).mono
  · intro plugged run₄ hend
    obtain ⟨⟨id, hplugged⟩, hrepository₄, -⟩ := hend
    rw [hsaved.amphorae] at hamphora
    have habsent : d.substrate.Absent id := by
      rcases hplugged.base with hbase | rfl
      · obtain ⟨a, ha, hvrrp⟩ := h.amphora
        rw [hamphora] at ha
        cases ha
        exact hgrown₃.base_absent hs hvrrp (hr.amphorae hamphora ▸ h.name) hbase
      · exact hgrown₃.next_absent hs
    refine ⟨id, hplugged.named, ?_, habsent, hplugged.present, ⟨subnet, ?_⟩, ?_⟩
    · exact (hgrown₃.same.mono (List.subset_cons_self _ _)).trans (hplugged.same.mono (by simp))
    · rw [hplugged.networks.subnets, hheard₃.subnets]
      exact hsubnet
    · rw [hrepository₄, hrepository₃]
      exact (hsaved.heard hheard₁).heard hheard₂
  · exact fun _ _ _ => trivial

/-! Reverting -/

/-- The amphora is given its ports as they were when it was plugged in, and the base port that it
names then is removed. -/
theorem ends_unplugFrom {plugged : Amphora} {id : String} {d : Deployment}
    (hplugged : saga.Plugged ids d run.state plugged id) (hstart : saga.Unprovisioned d)
    (hquiet : run.state.substrate.faults = []) (hharmless : run.state.repository.Harmless) :
    Action.Ends (Step.unplugFrom saga.loadBalancerId saga.subnetId saga.amphoraId plugged) run
      (fun _ run' => (run.state.substrate.removePort id).Heard run'.state.substrate)
      fun _ _ => False := by
  obtain ⟨a, ha, -⟩ := hstart.amphora
  rw [← hplugged.saved.amphorae] at ha
  obtain ⟨lb, hlb⟩ := hplugged.saved.loadBalancer
  obtain ⟨subnet, hsubnet⟩ := hplugged.subnet
  refine (ends_onRepository_sure (Repository.ends_updateAmphoraPorts_stored hharmless ha _ _)).bind
    ?_ (fun _ _ h => h)
  intro _ run₁ hend
  obtain ⟨hheard₁, hsubstrate₁, -⟩ := hend
  have hharmless₁ : run₁.state.repository.Harmless := hheard₁.harmless hharmless
  -- the amphora is read back with the ports that were just stored
  have hstored : run₁.state.repository.amphorae.get? saga.amphoraId =
      some { a with vrrpPortId := plugged.vrrpPortId, haPortId := plugged.haPortId } := by
    rw [hheard₁.amphorae]
    exact IdMap.get?_insert_self ..
  refine (ends_onRepository_sure (Repository.ends_getAmphora_stored hharmless₁ hstored)).bind ?_
    (fun _ _ h => h)
  intro amphora run₂ hend
  obtain ⟨⟨hamphora, hheard₂⟩, hsubstrate₂, -⟩ := hend
  have hvrrp : amphora.vrrpPortId = some id := hamphora ▸ hplugged.named
  have hpresent := hplugged.present
  rw [← hsubstrate₁, ← hsubstrate₂] at hquiet hsubnet hpresent ⊢
  refine (ends_onSubstrate_sure (ends_getSubnet_stored hquiet hsubnet)).bind ?_ (fun _ _ h => h)
  intro _ run₃ hend
  obtain ⟨⟨-, hheard₃⟩, hrepository₃, -⟩ := hend
  have hlb₃ : run₃.state.repository.loadBalancers.get? saga.loadBalancerId = some lb := by
    rw [hrepository₃, hheard₂.loadBalancers, hheard₁.loadBalancers]
    exact hlb
  have hharmless₃ : run₃.state.repository.Harmless :=
    hrepository₃ ▸ hheard₂.harmless hharmless₁
  refine (ends_onRepository_sure (Repository.ends_getLoadBalancer_stored hharmless₃ hlb₃)).bind ?_
    (fun _ _ h => h)
  intro _ run₄ hend
  obtain ⟨-, hsubstrate₄, -⟩ := hend
  have hbase : run₄.state.substrate.basePortOf amphora = some id := by
    unfold basePortOf
    rw [hvrrp, hsubstrate₄, hheard₃.ports]
    exact if_pos hpresent
  apply (ends_onSubstrate (ends_unplugAapPort amphora _)).mono
  · intro _ run₅ hend
    obtain ⟨hremoved, -⟩ := hend
    rw [removeBasePort, hbase, hsubstrate₄] at hremoved
    exact (hheard₃.removePort id).trans hremoved
  · intro e run₅ hend
    obtain ⟨⟨-, hne⟩, -⟩ := hend
    rw [hsubstrate₄] at hne
    exact hne (hheard₃.faults_nil hquiet)

/-- The base port is taken away again. -/
theorem ends_unplug {gone : List String} {plugged : Amphora} {id : String} {d : Deployment}
    (hplugged : saga.Plugged ids d run.state plugged id) (hstart : saga.Unprovisioned d)
    (hclearing : Clearing (id :: ids) gone d.substrate run.state.substrate)
    (hharmless : run.state.repository.Harmless) :
    Effect.Ends (saga.plug.revert plugged) run fun _ run' =>
      Clearing (id :: ids) (id :: gone) d.substrate run'.state.substrate := by
  refine Effect.ends_settle (ends_unplugFrom hplugged hstart hclearing.quiet hharmless) ?_
    (fun e run' h => h.elim)
  intro _ run' hremoved
  exact Effect.ends_pure (hclearing.removed List.mem_cons_self hremoved)

/-- A base port that was made is taken away again. -/
theorem ends_deleteBasePort {gone : List String} {port : Port}
    (hclearing : Clearing ids gone s run.state.substrate) (hid : port.id ∈ ids) :
    Effect.Ends (Step.deleteBasePort port) run fun _ run' =>
      Clearing ids (port.id :: gone) s run'.state.substrate := by
  refine Effect.ends_settle (ends_onSubstrate (ends_deletePort port.id _)) ?_ ?_
  · intro _ run' hend
    exact effect_ends_record_last (hclearing.removed hid hend.1.2)
  · intro e run' hend
    exact absurd hclearing.quiet hend.1.2.2

/-- The port of the address is taken away again. -/
theorem ends_releaseVip {gone : List String} {allocated : AllocatedVip} {id : String}
    (hport : allocated.vip.portId = some id)
    (hclearing : Clearing ids gone s run.state.substrate) (hid : id ∈ ids) :
    Effect.Ends ((Step.allocateVip saga.loadBalancerId).revert allocated) run fun _ run' =>
      Clearing ids (id :: gone) s run'.state.substrate :=
  (Step.ends_release _ hport run hclearing.quiet).mono fun _ _ h => hclearing.removed hid h.1

/-- Run without failures, the rollback leaves the substrate as it was before the saga. -/
def RollsBack (s : Substrate) (rollback : Effect Deployment Unit) (run : Run Deployment) : Prop :=
  run.state.substrate.faults = [] → run.state.repository.Harmless →
    Effect.Ends rollback run fun _ run' => s.Restored run'.state.substrate

/-- The steps that were taken can be rolled back, however many there are. -/
theorem ends_provision (hs : run.state.substrate.Sound) (hr : run.state.repository.Keyed)
    (h : saga.Unprovisioned run.state) (count : Nat) : Action.Ends (saga.provision count) run
      (fun rollback run' => RollsBack run.state.substrate rollback run') fun _ _ => True := by
  refine (ends_allocate hs hr h).bind ?_ (fun _ _ _ => trivial)
  intro allocated run₁ hend
  obtain ⟨vipId, hvip, hgrown₁, hsaved₁⟩ := hend
  have hrelease : ∀ {ids gone : List String} {run' : Run Deployment},
      Clearing ids gone run.state.substrate run'.state.substrate → vipId ∈ ids →
      ids ⊆ vipId :: gone →
      Effect.Ends ((Step.allocateVip saga.loadBalancerId).revert allocated) run' fun _ run'' =>
        run.state.substrate.Restored run''.state.substrate := by
    intro ids gone run' hclearing hmem hall
    exact (ends_releaseVip hvip hclearing hmem).mono fun _ _ hcleared => hcleared.restored hall
  split
  · exact ends_pure fun hquiet _ => hrelease (hgrown₁.clearing hquiet) (by simp) (by simp)
  refine (ends_createBasePort hs saga.policy saga.amphoraId _ hgrown₁).bind ?_
    (fun _ _ _ => trivial)
  intro port run₂ hend
  obtain ⟨hgrown₂, hrepository₂⟩ := hend
  have hrevert : ∀ {ids gone : List String} {run' : Run Deployment},
      Clearing ids gone run.state.substrate run'.state.substrate → port.id ∈ ids → vipId ∈ ids →
      ids ⊆ vipId :: port.id :: gone →
      Effect.Ends (do
          (saga.base allocated).revert port
          (Step.allocateVip saga.loadBalancerId).revert allocated) run' fun _ run'' =>
        run.state.substrate.Restored run''.state.substrate := by
    intro ids gone run' hclearing hport hmem hall
    refine (ends_deleteBasePort hclearing hport).bind fun _ run'' hcleared => ?_
    exact hrelease hcleared hmem hall
  split
  · exact ends_pure fun hquiet _ => hrevert (hgrown₂.clearing hquiet) (by simp) (by simp) (by simp)
  refine (ends_plug hs hr h hgrown₂ (hrepository₂ ▸ hsaved₁)).bind ?_ (fun _ _ _ => trivial)
  intro plugged run₃ hend
  obtain ⟨plugId, hplugged⟩ := hend
  refine ends_pure fun hquiet hharmless => ?_
  have hclearing : Clearing [plugId, port.id, vipId] [] run.state.substrate
      run₃.state.substrate := by
    refine ⟨hplugged.same, ?_, by simp, hquiet⟩
    exact List.forall_mem_cons.mpr ⟨hplugged.absent, hgrown₂.absent⟩
  refine (ends_unplug hplugged h hclearing hharmless).bind fun _ run' hcleared => ?_
  exact hrevert hcleared (by simp) (by simp) (by simp)

/-- Whatever failures the steps survive, the first one, the first two or all three of them: run
without failures, their rollback leaves ports, instances and security groups as they were. -/
theorem rollback_restores (hs : run.state.substrate.Sound) (hr : run.state.repository.Keyed)
    (h : saga.Unprovisioned run.state) (count : Nat) {rollback : Effect Deployment Unit}
    {run₁ : Run Deployment} (hprovision : (saga.provision count).runOn run = (.ok rollback, run₁))
    (hquiet : run₁.state.substrate.faults = []) (hharmless : run₁.state.repository.Harmless) :
    run.state.substrate.Restored (rollback.run run₁).2.state.substrate :=
  ((ends_provision hs hr h count).of_ok hprovision hquiet hharmless).state

/-- The first amphora of the sample deployment is to be provisioned. -/
def sample : Provisioning where
  loadBalancerId := "lb-1"
  amphoraId := "amp-1"
  subnetId := "vip-subnet"
  policy := .standard
  groupId := none

/-- The next two ports to be created are refused. -/
def busy (substrate : Substrate) : Substrate :=
  { substrate with faults := [⟨.createPort, .driver "busy", 2⟩] }

theorem busy_sound {substrate : Substrate} (hs : substrate.Sound) : (busy substrate).Sound :=
  hs.of_eq rfl rfl rfl rfl

/-- All steps of the saga are taken, and the sample substrate is restored. -/
theorem rollback_restores_sample : ∃ rollback run₁,
    (sample.provision 3).runOn (Sample.start (busy Sample.substrate)) = (.ok rollback, run₁) ∧
    (busy Sample.substrate).Restored (rollback.run run₁).2.state.substrate := by
  obtain ⟨rollback, run₁, hprovision⟩ := exists_of_isSome (sample.provision 3)
    (Sample.start (busy Sample.substrate)) (by decide +kernel)
  have hend : ((sample.provision 3).runOn
      (Sample.start (busy Sample.substrate))).2.state.substrate.faults = [] ∧
      ((sample.provision 3).runOn
        (Sample.start (busy Sample.substrate))).2.state.repository.script = [] := by
    decide +kernel
  rw [hprovision] at hend
  have hharmless := Repository.harmless_of_script_nil hend.2
  have hs : (busy Sample.substrate).Sound := busy_sound Sample.substrate_fit.1
  have hr : (Sample.start (busy Sample.substrate)).state.repository.Keyed :=
    Repository.keyed_empty.store _
  have hstart : sample.Unprovisioned (Sample.start (busy Sample.substrate)).state := by
    refine ⟨⟨Sample.loadBalancer [], by decide +kernel, ?_⟩,
      ⟨Sample.amphora "amp-1" "vm-1", by decide +kernel, ?_⟩, ?_⟩
    · intro id hid
      cases hid
    · intro id hid
      cases hid
    · have hnames : ∀ p ∈ (Sample.start (busy Sample.substrate)).state.substrate.ports.values,
          p.name ≠ basePortName "amp-1" := by
        decide +kernel
      exact fun {id p} hp => hnames p (IdMap.mem_values_iff.mpr ⟨id, hp⟩)
  refine ⟨rollback, run₁, hprovision, ?_⟩
  rw [← Sample.start_substrate (busy Sample.substrate)] at hs ⊢
  exact rollback_restores hs hr hstart 3 hprovision hend.1 hharmless

end Provisioning

end AmphoraWiring
