import AmphoraWiring.Proofs.Delta.Entries
import AmphoraWiring.Proofs.Saga.NicChanges
import AmphoraWiring.Proofs.Seeding
import AmphoraWiring.Proofs.Substrate.Locality

/-!
Amphorae do not get in each other's way. Whatever fails while a delta is applied to the instance of
one amphora, and whatever fails when that is reverted, nothing changes for another instance, for a
port that is plugged in nowhere, or for a record of a port that is not plugged into the instance.
The ports that are worked on are those that were plugged into the instance and new ones, and the
records that are removed are those of such ports.
-/
namespace AmphoraWiring

open Action Substrate

namespace Deployment

/-- The record is of a port that had one in `d` and was not plugged into the instance. -/
def foreign (d : Deployment) (c : String) (b : MemberPortBinding) : Bool :=
  !(d.substrate.pluggedPortIds c).contains b.portId &&
    d.repository.bindings.any fun b' => b'.portId = b.portId

/-- Nothing has changed but the ports of the instance, new ports, and records of either. -/
structure Undisturbed (c : String) (d d' : Deployment) : Prop where
  lists : ∀ c' ≠ c, d'.substrate.plugged.get? c' = d.substrate.plugged.get? c'
  ports : ∀ id p, d.substrate.ports.get? id = some p → id ∉ d.substrate.pluggedPortIds c →
    d'.substrate.ports.get? id = some p
  bindings : d'.repository.bindings.filter (d.foreign c) =
    d.repository.bindings.filter fun b => b.portId ∉ d.substrate.pluggedPortIds c

/-- The port is plugged into the instance, or there is none under the id. -/
def Touchable (d : Deployment) (c id : String) : Prop :=
  id ∈ d.substrate.pluggedPortIds c ∨ d.substrate.ports.get? id = none

/-- The port is plugged into the instance, or there is neither a port nor a record under the id. -/
def Removable (d : Deployment) (c id : String) : Prop :=
  id ∈ d.substrate.pluggedPortIds c ∨
    d.substrate.ports.get? id = none ∧ ¬ d.repository.Bound id

variable {d e e' : Deployment} {c id : String}

theorem foreign_iff {b : MemberPortBinding} : d.foreign c b = true ↔
    b.portId ∉ d.substrate.pluggedPortIds c ∧ d.repository.Bound b.portId := by
  simp [foreign, Repository.Bound]

theorem Removable.touchable (h : d.Removable c id) : d.Touchable c id := h.imp_right And.left

theorem Removable.not_foreign (h : d.Removable c id) {b : MemberPortBinding} (hb : b.portId = id) :
    d.foreign c b = false := by
  rw [← Bool.not_eq_true, foreign_iff, hb]
  intro hforeign
  rcases h with h | h
  · exact hforeign.1 h
  · exact h.2 hforeign.2

/-- `e` is reached from `d` by work on the instance. -/
structure Confined (c : String) (d e : Deployment) : Prop where
  drawn : d.substrate.drawn ≤ e.substrate.drawn
  touches : d.substrate.Touches (d.Touchable c) c e.substrate
  bindings : e.repository.bindings.filter (d.foreign c) =
    d.repository.bindings.filter (d.foreign c)

namespace Confined

/-- Where only the script of the repository has changed. -/
theorem of_records (hsubstrate : e.substrate = d.substrate)
    (hrepository : d.repository.Heard e.repository) : Confined c d e := by
  refine ⟨Nat.le_of_eq ?_, ?_, ?_⟩
  · rw [hsubstrate]
  · rw [hsubstrate]
    exact .refl _
  · rw [hrepository.bindings]

/-- What is confined to one instance disturbs no other. -/
theorem undisturbed (h : Confined c d e) (hs : d.substrate.Sound) (hx : d.substrate.Exclusive) :
    d.Undisturbed c e := by
  constructor
  case lists =>
    intro c' hc
    refine h.touches.lists c' hc fun id hid htouchable => ?_
    rcases htouchable with hmem | hnone
    · exact hc (hx hid hmem)
    · exact hs.not_plugged hnone c' hid
  case ports =>
    intro id p hp hother
    rw [h.touches.ports id, hp]
    intro htouchable
    rcases htouchable with hmem | hnone
    · exact hother hmem
    · simp [hp] at hnone
  case bindings =>
    rw [h.bindings]
    apply List.filter_congr
    intro b hb
    have hbound : d.repository.Bound b.portId := ⟨b, hb, rfl⟩
    rw [Bool.eq_iff_iff, foreign_iff, decide_eq_true_eq]
    exact and_iff_left hbound

/-- The instance has come to list nothing but ports that may be touched. -/
theorem listed (h : Confined c d e) (hid : id ∈ e.substrate.pluggedPortIds c) :
    d.Touchable c id := by
  rcases h.touches.listed id hid with hid | hid
  · exact .inl hid
  · exact hid

/-- A record of a port that is not plugged into the instance is still there. -/
theorem bound (h : Confined c d e) (hother : id ∉ d.substrate.pluggedPortIds c)
    (hbound : d.repository.Bound id) : e.repository.Bound id := by
  obtain ⟨b, hb, rfl⟩ := hbound
  have hmem : b ∈ d.repository.bindings.filter (d.foreign c) :=
    List.mem_filter.mpr ⟨hb, foreign_iff.mpr ⟨hother, b, hb, rfl⟩⟩
  rw [← h.bindings] at hmem
  exact ⟨b, List.mem_of_mem_filter hmem, rfl⟩

theorem next (h : Confined c d e) (hdrawn : e.substrate.drawn ≤ e'.substrate.drawn)
    (htouches : e.substrate.Touches (d.Touchable c) c e'.substrate)
    (hbindings : e'.repository.bindings.filter (d.foreign c) =
      e.repository.bindings.filter (d.foreign c)) : Confined c d e' :=
  ⟨Nat.le_trans h.drawn hdrawn, h.touches.trans htouches, hbindings.trans h.bindings⟩

/-- Where the records stay the same. -/
theorem next_of_repository (h : Confined c d e) (hdrawn : e.substrate.drawn ≤ e'.substrate.drawn)
    (htouches : e.substrate.Touches (d.Touchable c) c e'.substrate)
    (hrepository : e.repository.Heard e'.repository) : Confined c d e' :=
  h.next hdrawn htouches (by rw [hrepository.bindings])

/-- A new port that had no record so far may be removed again. -/
theorem removable (h : Confined c d e) (hs : d.substrate.Sound)
    (hnew : d.substrate.ports.get? id = none) (hunbound : ¬ e.repository.Bound id) :
    d.Removable c id :=
  .inr ⟨hnew, fun hbound => hunbound (h.bound (hs.not_plugged hnew c) hbound)⟩

/-- An id that is drawn now named no port in the beginning. -/
theorem new_id (h : Confined c d e) (hs : d.substrate.Sound) :
    d.substrate.ports.get? (drawnId (e.substrate.drawn + 1)) = none :=
  hs.fresh _ (Nat.lt_succ_of_le h.drawn)

theorem adopted (h : Confined c d e) (hs : d.substrate.Sound) {request : PortRequest} {p : Port}
    (hadopts : e.substrate.Adopts e'.substrate request c p) :
    d.substrate.ports.get? p.id = none ∧
      e.substrate.drawn ≤ e'.substrate.drawn ∧
      e.substrate.Touches (d.Touchable c) c e'.substrate := by
  have hnew : d.substrate.ports.get? p.id = none := hadopts.created.id ▸ h.new_id hs
  refine ⟨hnew, ?_, .of_adopts hadopts (.inr hnew)⟩
  rw [hadopts.drawn]
  exact Nat.le_succ _

theorem adopted_recorded (h : Confined c d e) (hs : d.substrate.Sound) {request : PortRequest}
    {p : Port} (hadopts : e.substrate.Adopts e'.substrate request c p) {b : MemberPortBinding}
    (hb : b.portId = p.id) (hunbound : ¬ e.repository.Bound p.id)
    (hrepository : (e.repository.addBinding b).Heard e'.repository) :
    Confined c d e' ∧ d.Removable c p.id := by
  obtain ⟨hnew, hdrawn, htouches⟩ := h.adopted hs hadopts
  have hremovable := h.removable hs hnew hunbound
  refine ⟨h.next hdrawn htouches ?_, hremovable⟩
  rw [hrepository.bindings, Repository.filter_addBinding (hremovable.not_foreign hb)]

/-- A port that was made for a while only was a new one. -/
theorem made (h : Confined c d e) (hs : d.substrate.Sound) {request : PortRequest} {p : Port}
    {u : Substrate} (hserving : e.substrate.Serving u request)
    (hcreated : e.substrate.Created request p) :
    e.substrate.drawn ≤ (u.addPort p).drawn ∧
      e.substrate.Touches (d.Touchable c) c (u.addPort p) ∧
      (u.addPort p).Touches (d.Touchable c) c ((u.addPort p).removePort p.id) := by
  have hnew : d.substrate.ports.get? p.id = none := hcreated.id ▸ h.new_id hs
  refine ⟨?_, (Touches.of_serving hserving).trans (.of_addPort (.inr hnew)),
    .of_removePort (.inr hnew)⟩
  obtain ⟨ids, hallocating, -⟩ := hserving
  change _ ≤ u.drawn + 1
  rw [hallocating.samePorts.drawn]
  exact Nat.le_succ _

/-- A change to a port that may be removed is confined to the instance. -/
theorem amended (h : Confined c d e) {f : Port → Port}
    (hamended : e.substrate.Amended e'.substrate id f) (hid : d.Removable c id)
    (hrecords : e.SameRecords e') : Confined c d e' :=
  h.next (Nat.le_of_eq hamended.drawn.symm) (.of_amended hamended hid.touchable)
    (by rw [hrecords.1])

/-- The removal of such a port is confined to the instance. -/
theorem removed (h : Confined c d e) {networkId : String} {portId : Option String}
    (hremoval : e.substrate.Removal e'.substrate c networkId portId)
    (hid : ∀ id, portId = some id → d.Removable c id)
    (hrepository : e.repository.Heard e'.repository ∨
      ∃ id, portId = some id ∧ (e.repository.dropBinding id).Heard e'.repository) :
    Confined c d e' := by
  refine h.next (Nat.le_of_eq hremoval.drawn.symm)
    (.of_removal hremoval (fun id => h.listed) fun id hport => (hid id hport).touchable) ?_
  rcases hrepository with hheard | ⟨id, hport, hheard⟩
  · rw [hheard.bindings]
  · rw [hheard.bindings]
    exact Repository.filter_dropBinding fun b hb => (hid id hport).not_foreign hb

end Confined

end Deployment

namespace Delta

variable {delta : Delta} {c : String} {d : Deployment} {changed : ChangedPorts}
  {run : Run Deployment} {amphora : Amphora}

/-- New interfaces name no port, and every other entry names ports of the instance only. -/
structure Local (delta : Delta) (s : Substrate) (c : String) : Prop where
  added : ∀ nic ∈ delta.addNics, nic.portId = none
  deleted : ∀ nic ∈ delta.deleteNics, ∀ id, nic.portId = some id → id ∈ s.pluggedPortIds c
  changed : ∀ change ∈ delta.addSubnets ++ delta.deleteSubnets, ∀ id, change.portId = some id →
    id ∈ s.pluggedPortIds c

theorem Local.of_ids {s t : Substrate} (h : delta.Local s c)
    (hids : t.pluggedPortIds c = s.pluggedPortIds c) : delta.Local t c :=
  ⟨h.added, hids ▸ h.deleted, hids ▸ h.changed⟩

/-- A computed delta names ports of the instance alone. -/
theorem local_between {s : Substrate} (hs : s.Sound) (management : List String)
    (wanted : Topology) :
    (between amphora wanted (s.attached management c)).Local s c := by
  constructor
  case added =>
    intro nic hnic
    obtain ⟨n, -, -, rfl⟩ := mem_addNics.mp hnic
    rfl
  case deleted =>
    intro nic hnic id hid
    obtain ⟨n, p, -, -, hp, rfl⟩ := mem_deleteNics.mp hnic
    cases hid
    exact (hs.carrier_get? hp).1
  case changed =>
    intro change hchange id hid
    rcases List.mem_append.mp hchange with hchange | hchange
    · obtain ⟨subnetId, n, -, -, rfl⟩ := mem_addSubnets.mp hchange
      obtain ⟨-, p, hp, rfl⟩ := namedPort_eq_some.mp hid
      exact (hs.carrier_get? hp).1
    · obtain ⟨subnetId, n, p, -, hp, -, -, rfl⟩ := (mem_deleteSubnets hs).mp hchange
      cases hid
      exact (hs.carrier_get? hp).1

/-- The delta is being applied, and every port that counts as changed may be removed again. -/
structure Isolating (d : Deployment) (c : String) (changed : ChangedPorts)
    (run : Run Deployment) : Prop where
  confined : d.Confined c run.state
  sound : run.state.substrate.Sound
  counted : ∀ networkId q, changed.get? networkId = some q → d.Removable c q.id

theorem Isolating.insert {run' : Run Deployment} (h : Isolating d c changed run)
    (hnext : d.Confined c run'.state) (hsound : run'.state.substrate.Sound) {networkId : String}
    {q : Port} (hq : d.Removable c q.id) : Isolating d c (changed.insert networkId q) run' := by
  refine ⟨hnext, hsound, fun n q' hget => ?_⟩
  rw [IdMap.get?_insert] at hget
  split at hget
  · cases hget
    exact hq
  · exact h.counted n q' hget

theorem ends_addNic_isolating (hs : d.substrate.Sound) (hinstance : amphora.instanceId = c)
    (nic : Interface) (h : Isolating d c changed run) :
    Action.Ends (addNic amphora changed nic) run (Isolating d c)
      fun _ run' => d.Confined c run'.state := by
  have hsame : ∀ {c'}, amphora.computeId = some c' → c' = c :=
    fun hc => (Amphora.instanceId_eq hc).symm.trans hinstance
  apply (ends_addNic amphora changed nic run).mono
  · intro changed' run' hend
    obtain ⟨c', p, q, hend⟩ := hend
    obtain rfl := hsame hend.computeId
    obtain ⟨hnext, hremovable⟩ :=
      h.confined.adopted_recorded hs hend.adopts rfl hend.unbound hend.bindings
    rw [hend.counted]
    exact h.insert hnext (hend.adopts.sound h.sound) (hend.filled.id ▸ hremovable)
  · intro e run' hend
    obtain ⟨hend, -⟩ := hend
    cases hend with
    | refused u hserving hheard hrecords =>
      refine h.confined.next_of_repository ?_ ?_ (hrecords.1 ▸ .refl _)
      · obtain ⟨ids, hallocating, -⟩ := hserving
        exact Nat.le_of_eq (hheard.drawn.trans hallocating.samePorts.drawn).symm
      · exact (Touches.of_serving hserving).trans (.of_samePorts hheard.samePorts)
    | discarded u p hserving hcreated hheard hrecords =>
      obtain ⟨hdrawn, hmade, hremoved⟩ := h.confined.made hs hserving hcreated
      refine h.confined.next_of_repository ?_ ?_ (hrecords.1 ▸ .refl _)
      · rw [hheard.drawn]
        exact hdrawn
      · exact (hmade.trans hremoved).trans (.of_samePorts hheard.samePorts)
    | leaked u p reason hserving hcreated hheard hrepository haudit =>
      obtain ⟨hdrawn, hmade, -⟩ := h.confined.made hs hserving hcreated
      refine h.confined.next_of_repository ?_ ?_ (hrepository ▸ .refl _)
      · rw [hheard.drawn]
        exact hdrawn
      · exact hmade.trans (.of_samePorts hheard.samePorts)
    | unrecorded c' p hcompute hadopts hrepository hbound haudit =>
      obtain rfl := hsame hcompute
      obtain ⟨-, hdrawn, htouches⟩ := h.confined.adopted hs hadopts
      exact h.confined.next_of_repository hdrawn htouches hrepository
    | unfilled c' p hcompute hadopts hrepository haudit hunbound =>
      obtain rfl := hsame hcompute
      exact (h.confined.adopted_recorded hs hadopts rfl hunbound hrepository).1

theorem ends_addSubnet_isolating {change : SubnetChange}
    (hnamed : ∀ id, change.portId = some id → id ∈ d.substrate.pluggedPortIds c)
    (h : Isolating d c changed run) :
    Action.Ends (addSubnet changed change) run (Isolating d c)
      fun _ run' => d.Confined c run'.state := by
  have htarget : ∀ id, change.target changed = some id → d.Removable c id := by
    intro id hid
    rw [SubnetChange.target, Option.or_eq_some_iff] at hid
    rcases hid with hid | ⟨-, hid⟩
    · exact .inl (hnamed id hid)
    · obtain ⟨q, hq, rfl⟩ := Option.map_eq_some_iff.mp hid
      exact h.counted _ q hq
  apply (ends_addSubnet changed change run).mono
  · intro changed' run' hend
    cases hend with
    | present q hport hsubnet hchanged hstate =>
      rw [hchanged]
      exact ⟨hstate ▸ h.confined, hstate ▸ h.sound, h.counted⟩
    | gained id p ips q hid hgains hmatches hchanged hrecords habsent =>
      have hown : p.id = id := h.sound.own_id hgains.port
      have hid' : q.id = id := hmatches.id.trans hown
      rw [hchanged]
      exact h.insert (h.confined.amended hgains.amended (htarget id hid) hrecords)
        (hgains.sound h.sound) (hid' ▸ htarget id hid)
  · intro e run' hend
    obtain ⟨hend, -⟩ := hend
    cases hend with
    | refused u hallocating hheard hrecords =>
      have hsame := hallocating.samePorts.trans hheard.samePorts
      exact h.confined.next_of_repository (Nat.le_of_eq hsame.drawn.symm) (.of_samePorts hsame)
        (hrecords.1 ▸ .refl _)
    | gained id p ips hid hgains hrecords =>
      exact h.confined.amended hgains.amended (htarget id hid) hrecords

theorem ends_deleteSubnet_isolating {change : SubnetChange}
    (hnamed : ∀ id, change.portId = some id → id ∈ d.substrate.pluggedPortIds c)
    (h : Isolating d c changed run) :
    Action.Ends (deleteSubnet changed change) run (Isolating d c)
      fun _ run' => d.Confined c run'.state := by
  apply (ends_deleteSubnet changed change run).mono
  · intro changed' run' hend
    cases hend with
    | unnamed hport hchanged hstate =>
      rw [hchanged]
      exact ⟨hstate ▸ h.confined, hstate ▸ h.sound, h.counted⟩
    | lost id p q hid hloses hmatches hchanged hrecords =>
      have hremovable : d.Removable c id := .inl (hnamed id hid)
      have hnext := h.confined.amended hloses.amended hremovable hrecords
      have hown : q.id = id := by
        rw [hmatches.id, Port.release_id, h.sound.own_id hloses.port]
      rw [hchanged]
      split
      next => exact ⟨hnext, hloses.sound h.sound, h.counted⟩
      next => exact h.insert hnext (hloses.sound h.sound) (hown ▸ hremovable)
  · intro e run' hend
    obtain ⟨hend, -⟩ := hend
    cases hend with
    | refused hheard =>
      have hsame := hheard.1.samePorts
      exact h.confined.next_of_repository (Nat.le_of_eq hsame.drawn.symm) (.of_samePorts hsame)
        (hheard.2.1 ▸ .refl _)
    | lost id p hid hloses hrecords =>
      exact h.confined.amended hloses.amended (.inl (hnamed id hid)) hrecords

theorem ends_deleteNic_isolating (hinstance : amphora.instanceId = c) {nic : Interface}
    (hnamed : ∀ id, nic.portId = some id → id ∈ d.substrate.pluggedPortIds c)
    (h : Isolating d c changed run) :
    Action.Ends (deleteNic amphora changed nic) run (Isolating d c)
      fun _ run' => d.Confined c run'.state := by
  have hnext : ∀ e, NicDeleted amphora.instanceId nic run.state e → d.Confined c e := by
    intro e hend
    rw [hinstance] at hend
    exact h.confined.removed hend.removal (fun id hid => .inl (hnamed id hid)) hend.repository
  apply (ends_deleteNic amphora changed nic run).mono
  · intro changed' run' hend
    obtain ⟨rfl, hend⟩ := hend
    refine ⟨hnext _ hend, hend.removal.sound h.sound, fun n q hget => ?_⟩
    rw [IdMap.get?_erase] at hget
    split at hget
    next => cases hget
    next => exact h.counted n q hget
  · intro e run' hend
    exact hnext _ hend.1

/-- A local delta is confined to its instance, and gives back ports that may be removed. -/
theorem ends_apply_isolating (hs : d.substrate.Sound) (hinstance : amphora.instanceId = c)
    (hlocal : delta.Local d.substrate c) (hconfined : d.Confined c run.state)
    (hsound : run.state.substrate.Sound) :
    Action.Ends (delta.apply amphora) run
      (fun ports run' => d.Confined c run'.state ∧ ∀ q ∈ ports, d.Removable c q.id)
      fun _ run' => d.Confined c run'.state := by
  have hbegin : Isolating d c .empty run := by
    refine ⟨hconfined, hsound, fun n q hget => ?_⟩
    cases hget
  refine (Ends.foldlM_mem ?_ hbegin).bind ?_ (fun e run h => h)
  · exact fun nic _ changed run h => ends_addNic_isolating hs hinstance nic h
  intro changed₁ run₁ h₁
  refine (Ends.foldlM_mem ?_ h₁).bind ?_ (fun e run h => h)
  · exact fun change hchange changed run h =>
      ends_addSubnet_isolating (hlocal.changed change (List.mem_append_left _ hchange)) h
  intro changed₂ run₂ h₂
  refine (Ends.foldlM_mem ?_ h₂).bind ?_ (fun e run h => h)
  · exact fun change hchange changed run h =>
      ends_deleteSubnet_isolating (hlocal.changed change (List.mem_append_right _ hchange)) h
  intro changed₃ run₃ h₃
  refine (Ends.foldlM_mem ?_ h₃).bind ?_ (fun e run h => h)
  · exact fun nic hnic changed run h =>
      ends_deleteNic_isolating hinstance (hlocal.deleted nic hnic) h
  intro changed₄ run₄ h₄
  refine ends_pure ⟨h₄.confined, fun q hq => ?_⟩
  obtain ⟨networkId, hget⟩ := IdMap.mem_values_iff.mp hq
  exact h₄.counted networkId q hget

/-- What is taken away again belongs to the instance. -/
theorem ends_unwind_isolating (hinstance : delta.computeId = c)
    (hlocal : delta.Local d.substrate c) {ports : List Port}
    (hports : ∀ q ∈ ports, d.Removable c q.id) (hconfined : d.Confined c run.state) :
    Effect.Ends (delta.unwind ports) run fun _ run' => d.Confined c run'.state := by
  refine Effect.Ends.forM_mem ?_ hconfined
  intro nic hnic run h
  apply (ends_removeAddedNic delta ports nic run).mono
  intro a run' hend
  rw [hinstance] at hend
  refine h.removed hend.removal (fun id hid => ?_) hend.repository
  rw [portOf, hlocal.added nic hnic, Option.none_or] at hid
  obtain ⟨q, hq, rfl⟩ := Option.map_eq_some_iff.mp hid
  exact hports q (List.mem_of_find?_eq_some hq)

end Delta

namespace Step

open Deployment

/-- A delta was computed in `s`, which left `s₁`; any failures may be scripted then, and the records
may be anything that tells of the same instance. Executing the step disturbs nothing but the
instance, whether it comes to its end or not, and if it does, neither does reverting it after that,
whatever failures are scripted anew. -/
theorem applyDelta_isolated {s s₁ : Substrate} (hs : s.Sound) (hx : s.Exclusive)
    {management : List String} {lb : LoadBalancer} {amphora : Amphora} {delta : Delta}
    (hcompute : (computeDelta management lb amphora).runOn s = (.ok delta, s₁))
    (faults : List ScriptedFault) {run : Run Deployment}
    (hrun : run.state.substrate = { s₁ with faults }) {amphoraId : String}
    (hstored : ∀ stored, run.state.repository.amphorae.get? amphoraId = some stored →
      stored.instanceId = amphora.instanceId) :
    run.state.Undisturbed amphora.instanceId
        ((applyDelta amphoraId delta).execute.runOn run).2.state ∧
      ∀ out run', (applyDelta amphoraId delta).execute.runOn run = (.ok out, run') →
        ∀ (faults' : List ScriptedFault) (script : List ScriptedOutcome) (context : Context),
          run.state.Undisturbed amphora.instanceId
            (((applyDelta amphoraId delta).revert out).run
              { context
                state :=
                  { run'.state with
                    substrate := { run'.state.substrate with faults := faults' }
                    repository := { run'.state.repository with script } } }).2.state := by
  obtain ⟨hheard, rfl, -⟩ := (ends_computeDelta management lb amphora s).of_ok hcompute
  have hids : ∀ c, run.state.substrate.pluggedPortIds c = s.pluggedPortIds c := by
    intro c
    simp only [hrun, pluggedPortIds, hheard.plugged]
  have hsound : run.state.substrate.Sound := by
    rw [hrun]
    exact hs.of_eq hheard.ports hheard.plugged hheard.subnets hheard.drawn
  have hexclusive : run.state.substrate.Exclusive := hx.of_ids hids
  have hlocal : (s.delta management lb amphora).Local run.state.substrate amphora.instanceId :=
    (Delta.local_between hs management (s.desired lb)).of_ids (hids amphora.instanceId)
  have hexecute : Action.Ends (applyDelta amphoraId (s.delta management lb amphora)).execute run
      (fun out run' => run.state.Confined amphora.instanceId run'.state ∧
        ∀ q ∈ (out.get? amphoraId).getD [], run.state.Removable amphora.instanceId q.id)
      fun _ run' => run.state.Confined amphora.instanceId run'.state := by
    refine (Deployment.ends_onRepository (Repository.ends_getAmphora amphoraId _)).bind ?_ ?_
    · intro stored run₁ hend
      obtain ⟨⟨hread, hget⟩, hsubstrate, -⟩ := hend
      have hbegin : run.state.Confined amphora.instanceId run₁.state :=
        .of_records hsubstrate hread
      refine (Delta.ends_apply_isolating hsound (hstored stored hget) hlocal hbegin
        (hsubstrate ▸ hsound)).bind ?_ (fun e run₂ h => h)
      intro ports run₂ hend
      obtain ⟨hconfined, hports⟩ := hend
      refine ends_pure ⟨hconfined, ?_⟩
      rwa [IdMap.get?_insert_self, Option.getD_some]
    · intro e run₁ hend
      obtain ⟨⟨e', -, hread, -⟩, hsubstrate, -⟩ := hend
      exact .of_records hsubstrate hread
  constructor
  · exact (hexecute.mono (fun _ _ h => h.1) fun _ _ h => h).state.undisturbed hsound hexclusive
  · intro out run' hout faults' script context
    obtain ⟨hconfined, hports⟩ := hexecute.of_ok hout
    refine (Delta.ends_unwind_isolating rfl hlocal hports ?_).state.undisturbed hsound hexclusive
    exact ⟨hconfined.drawn, ⟨hconfined.touches.ports, hconfined.touches.lists,
      hconfined.touches.listed⟩, hconfined.bindings⟩

/-- The delta of the sample is applied to its end and reverted, the deletion of a port failing. -/
theorem applyDelta_isolated_wired : ∃ delta s₁,
    (computeDelta ["mgmt-net"] (Sample.loadBalancer []) (Sample.amphora "amp-1" "vm-1")).runOn
      Sample.wired = (.ok delta, s₁) ∧
    ∃ out run', (applyDelta "amp-1" delta).execute.runOn
        (Sample.start { s₁ with faults := [] }) = (.ok out, run') ∧
      (Sample.start { s₁ with faults := [] }).state.Undisturbed "vm-1"
        (((applyDelta "amp-1" delta).revert out).run
          { context := {}
            state :=
              { run'.state with
                substrate :=
                  { run'.state.substrate with faults := [⟨.deletePort, .cancelled, 1⟩] }
                repository := { run'.state.repository with script := [] } } }).2.state := by
  obtain ⟨delta, s₁, hcompute⟩ := exists_of_isSome
    (computeDelta ["mgmt-net"] (Sample.loadBalancer []) (Sample.amphora "amp-1" "vm-1"))
    Sample.wired (by decide +kernel)
  have hok (result : Except NetworkError Delta × Substrate)
      (h : (computeDelta ["mgmt-net"] (Sample.loadBalancer [])
        (Sample.amphora "amp-1" "vm-1")).runOn Sample.wired = result) :
      (result.1.toOption.any fun delta => ((applyDelta "amp-1" delta).execute.runOn
        (Sample.start { result.2 with faults := [] })).1.toOption.isSome) = true := by
    subst h
    decide +kernel
  replace hok := hok _ hcompute
  obtain ⟨out, run', hout⟩ := exists_of_isSome _ _ hok
  refine ⟨delta, s₁, hcompute, out, run', hout, ?_⟩
  have hstored : ∀ stored, (Sample.start { s₁ with faults := [] }).state.repository.amphorae.get?
      "amp-1" = some stored → stored.instanceId = "vm-1" := by
    intro stored hget
    have hamphora : (Repository.store {} (Sample.loadBalancer
        [Sample.amphora "amp-1" "vm-1"])).amphorae.get? "amp-1" =
        some (Sample.amphora "amp-1" "vm-1") := by decide +kernel
    cases hamphora.symm.trans hget
    rfl
  obtain ⟨-, hrevert⟩ := applyDelta_isolated Sample.wired_fit.1 Sample.wired_fit.2 hcompute [] rfl
    hstored
  exact hrevert out run' hout [⟨.deletePort, .cancelled, 1⟩] [] {}

end Step

end AmphoraWiring
