import AmphoraWiring.Proofs.Parallel.Removing
import AmphoraWiring.Proofs.Saga.Reconciled

/-!
Two amphorae on different instances have their deltas applied at the same time. Whoever makes the
next call, both threads come to their end, and each instance is linked as if the other amphora were
not there.
-/
namespace AmphoraWiring

open Action Substrate

/-- A computed delta asks for one address of a subnet at most. -/
theorem Delta.asked_delta_le (s : Substrate) (management : List String) (lb : LoadBalancer)
    (amphora : Amphora) (subnetId : String) :
    (s.delta management lb amphora).asked subnetId ≤ 1 :=
  List.nodup_iff_count_le_one.mp (addSubnets_nodup _ _) subnetId

namespace Deployment

variable {d d' alone : Deployment} {delta delta' : Delta} {a a' : Amphora} {c c' : String}

/-- The amphora is stored with its instance, which exists, and the delta fits what that carries. -/
structure Ready (d : Deployment) (delta : Delta) (a : Amphora) (c : String) : Prop where
  coherent : delta.Coherent d.substrate c
  stored : d.repository.amphorae.get? a.id = some a
  compute : a.computeId = some c
  hosted : d.substrate.plugged.contains c

/-- The run of the amphora has come to `d'`, from `d` and beside another run: its instance is linked
as the run alone leaves it, and the records of the amphora are those that it had, but for ports that
were given up, and one for each port on the instance that was not there before. -/
structure Fared (d : Deployment) (givenUp : List String) (a : Amphora) (c : String)
    (alone d' : Deployment) : Prop where
  links : d'.substrate.links (d.substrate.pluggedPortIds c) c =
    alone.substrate.links (d.substrate.pluggedPortIds c) c
  records : d'.repository.bindings.filter (fun b => b.amphoraId = a.id) =
    (d.repository.bindings.filter fun b => b.amphoraId = a.id ∧ b.portId ∉ givenUp) ++
      ((d'.substrate.pluggedPorts c).filter fun p => (d.substrate.ports.get? p.id).isNone).map
        fun p => ⟨a.id, p.id, p.networkId⟩

/-- The side of an amphora beside the delta of another one. -/
def side (d : Deployment) (delta delta' : Delta) (a : Amphora) (c : String) : Side where
  start := d.substrate
  computeId := c
  amphoraId := a.id
  gives := delta.givenUp
  others := delta'.givenUp

/-- What a delta works on: the ports of its instance and the addresses that it asks for. -/
def share (d : Deployment) (delta : Delta) (c : String) : Share where
  ids := d.substrate.pluggedPortIds c
  budget := delta.asked

theorem Ready.listed_of_givenUp (hs : d.substrate.Sound) (h : d.Ready delta a c) {id : String}
    (hid : id ∈ delta.givenUp) : id ∈ d.substrate.pluggedPortIds c := by
  obtain ⟨nic, hnic, hport⟩ := List.mem_filterMap.mp hid
  exact Thread.former_of_mem_deleteNics (x := d.side delta delta a c) hs h.coherent hnic hport

theorem Ready.holds (hs : d.substrate.Sound) (hcapable : d.Capable) (h : d.Ready delta a c)
    (h' : d.Ready delta' a' c')
    (hroom : ∀ subnetId, d.substrate.Room subnetId (delta.asked subnetId)) :
    (d.side delta delta' a c).Holds (d.share delta c) d := by
  have hdrawn : ∀ {c id}, id ∈ d.substrate.pluggedPortIds c →
      ∀ n, d.substrate.drawn < n → id ≠ drawnId n := by
    intro c id hid n hn heq
    obtain ⟨p, hget⟩ := hs.exists_port hid
    rw [heq, hs.fresh n hn] at hget
    cases hget
  constructor
  case sound => exact hs
  case capable => exact hcapable
  case sameNetworks => exact (Heard.refl d.substrate).sameNetworks
  case hosted => exact h.hosted
  case listed => exact fun id hid => hid
  case former => exact fun id hid => hid
  case drawn => exact fun id hid => hdrawn hid
  case strange => exact fun id hid => hdrawn (h'.listed_of_givenUp hs hid)
  case fresh => exact hs.fresh
  case room => exact hroom

theorem Ready.secured (hs : d.substrate.Sound) (h : d.Ready delta a c) :
    (Thread.applyDelta a.id delta).Secured (d.side delta delta' a c)
      (Thread.Done fun _ _ => Thread.Applied (d.side delta delta' a c) delta
        (d.repository.bindings.filter (d.side delta delta' a c).owns)) (d.share delta c) d :=
  Thread.secured_applyDelta (x := d.side delta delta' a c) h.stored h.compute rfl hs h.coherent rfl
    rfl rfl

/-- Where no port that the other amphora gives up has a record, all records of the amphora are those
of its side. -/
theorem fared_of_applied {old : List MemberPortBinding}
    (hold : old = d.repository.bindings.filter (d.side delta delta' a c).owns)
    (happlied : Thread.Applied (d.side delta delta' a c) delta old d')
    (halone : Thread.Applied (d.side delta delta' a c) delta old alone)
    (hothers : ∀ id ∈ delta'.givenUp, ¬ d'.repository.Bound id) (hs : d.substrate.Sound) :
    d.Fared (delta.givenUp ++ delta'.givenUp) a c alone d' := by
  constructor
  case links => exact happlied.standing.links.trans halone.standing.links.symm
  case records =>
    have howned : d'.repository.bindings.filter (fun b => b.amphoraId = a.id) =
        d'.repository.bindings.filter (d.side delta delta' a c).owns := by
      refine List.filter_congr fun b hb => ?_
      have hport : b.portId ∉ delta'.givenUp := fun hid => hothers _ hid ⟨b, hb, rfl⟩
      rw [Bool.eq_iff_iff, decide_eq_true_iff, Side.owns_iff]
      exact ⟨fun h => ⟨h, hport⟩, And.left⟩
    have hkept : (old.filter fun b => b.portId ∉ delta.givenUp) =
        d.repository.bindings.filter fun b =>
          b.amphoraId = a.id ∧ b.portId ∉ delta.givenUp ++ delta'.givenUp := by
      rw [hold, List.filter_filter]
      refine List.filter_congr fun b _ => ?_
      rw [Bool.eq_iff_iff, Bool.and_eq_true, decide_eq_true_iff, decide_eq_true_iff, Side.owns_iff,
        List.mem_append, not_or]
      exact and_left_comm
    have hnew : (d.side delta delta' a c).entries (d'.substrate.pluggedPorts c) =
        ((d'.substrate.pluggedPorts c).filter fun p => (d.substrate.ports.get? p.id).isNone).map
          fun p => ⟨a.id, p.id, p.networkId⟩ := by
      refine congrArg (List.map _) (List.filter_congr fun p hp => ?_)
      by_cases hformer : p.id ∈ d.substrate.pluggedPortIds c
      · obtain ⟨q, hget⟩ := hs.exists_port hformer
        simp [Side.former, side, hformer, hget]
      · have hmade : d.substrate.ports.get? p.id = none := happlied.standing.made p hp hformer
        simp [Side.former, side, hformer, hmade]
    rw [howned, ← hkept, ← hnew]
    exact happlied.standing.records

/-- In the beginning each side has the ports of its instance, and there are addresses for both. -/
theorem Ready.joint (hs : d.substrate.Sound) (hx : d.substrate.Exclusive) (hcapable : d.Capable)
    (h : d.Ready delta a c) (h' : d.Ready delta' a' c') (hne : c ≠ c')
    (hroom : ∀ subnetId,
      d.substrate.Room subnetId (delta.asked subnetId + delta'.asked subnetId)) :
    Side.Joint (d.side delta delta' a c) (d.side delta' delta a' c') (d.share delta c)
      (d.share delta' c') d where
  left := h.holds hs hcapable h' fun subnetId => (hroom subnetId).mono (Nat.le_add_right _ _)
  right := h'.holds hs hcapable h fun subnetId => (hroom subnetId).mono (Nat.le_add_left _ _)
  disjoint _ hid hid' := hne (hx hid hid')
  room := hroom

theorem Ready.apart (h : d.Ready delta a c) (h' : d.Ready delta' a' c') (hne : c ≠ c') :
    Side.Apart (d.side delta delta' a c) (d.side delta' delta a' c') where
  start := rfl
  computeId := hne.symm
  amphoraId := by
    intro hid
    have hstored := h'.stored
    change a'.id = a.id at hid
    rw [hid, h.stored] at hstored
    obtain rfl := Option.some.inj hstored
    exact hne (Option.some.inj (h.compute.symm.trans h'.compute))
  gives := rfl

/-- The run of the amphora alone. -/
theorem Ready.finishes (hs : d.substrate.Sound) (hcapable : d.Capable) (h : d.Ready delta a c)
    (h' : d.Ready delta' a' c')
    (hroom : ∀ subnetId, d.substrate.Room subnetId (delta.asked subnetId)) (context : Context) :
    ∃ out run, (Step.applyDelta a.id delta).execute.runOn { context, state := d } = (.ok out, run) ∧
      Thread.Applied (d.side delta delta' a c) delta
        (d.repository.bindings.filter (d.side delta delta' a c).owns) run.state := by
  obtain ⟨_, out, hout, happlied⟩ := (h.secured hs).finish (h.holds hs hcapable h' hroom)
  refine ⟨out, { context, state := ((Thread.applyDelta a.id delta).finish d).2 }, ?_, happlied⟩
  rw [Thread.plays_applyDelta a.id delta { context, state := d }, ← hout]

/-- Whoever makes the next call, both runs succeed, and both instances have fared as alone. -/
theorem Ready.interleave (hs : d.substrate.Sound) (hx : d.substrate.Exclusive)
    (hcapable : d.Capable) (h : d.Ready delta a c) (h' : d.Ready delta' a' c') (hne : c ≠ c')
    (hroom : ∀ subnetId,
      d.substrate.Room subnetId (delta.asked subnetId + delta'.asked subnetId))
    (turns : List Turn) (context : Context) :
    ∃ out out' d' alone run alone' run',
      interleave turns (Thread.applyDelta a.id delta) (Thread.applyDelta a'.id delta') d =
        ((.ok out, .ok out'), d') ∧
      (Step.applyDelta a.id delta).execute.runOn { context, state := d } = (.ok alone, run) ∧
      (Step.applyDelta a'.id delta').execute.runOn { context, state := d } = (.ok alone', run') ∧
      d.Fared (delta.givenUp ++ delta'.givenUp) a c run.state d' ∧
      d.Fared (delta'.givenUp ++ delta.givenUp) a' c' run'.state d' := by
  have hjoint := h.joint hs hx hcapable h' hne hroom
  obtain ⟨_, _, -, hleft, hright⟩ :=
    Thread.interleave_secured (h.apart h' hne) (h'.apart h hne.symm) turns (h.secured hs)
      (h'.secured hs) hjoint
  rcases hend : AmphoraWiring.interleave turns (Thread.applyDelta a.id delta)
    (Thread.applyDelta a'.id delta') d with ⟨⟨result, result'⟩, d'⟩
  rw [hend] at hleft hright
  obtain ⟨out, rfl, happlied⟩ := hleft
  obtain ⟨out', rfl, happlied'⟩ := hright
  obtain ⟨alone, run, halone, hrun⟩ := h.finishes hs hcapable h' hjoint.left.room context
  obtain ⟨alone', run', halone', hrun'⟩ := h'.finishes hs hcapable h hjoint.right.room context
  refine ⟨out, out', d', alone, run, alone', run', rfl, halone, halone', ?_, ?_⟩
  · exact fared_of_applied rfl happlied hrun happlied'.unbound hs
  · exact fared_of_applied rfl happlied' hrun' happlied.unbound hs

/-- The amphora is stored with its instance, and all that its load balancer wants exists. -/
structure Awaits (d : Deployment) (lb : LoadBalancer) (a : Amphora) (c : String) : Prop where
  stored : d.repository.amphorae.get? a.id = some a
  compute : a.computeId = some c
  registered : ∀ {subnetId networkId}, d.substrate.Wanted lb subnetId networkId →
    d.substrate.Registered subnetId networkId

/-- What was computed for an amphora can be applied to it later on, where calls have been heard in
the meantime only. -/
theorem Awaits.ready {s t : Substrate} {r : Repository} {audit : AuditLog}
    {management : List String} {lb : LoadBalancer} (h : Awaits ⟨s, r, audit⟩ lb a c)
    (hs : s.Sound) (hheard : s.Heard t) (hcomputable : s.Computable lb a)
    (hnetworked : ∀ {id subnet}, s.subnets.get? id = some subnet →
      ∃ network, s.networks.get? subnet.networkId = some network) :
    Ready ⟨t, r, audit⟩ (s.delta management lb a) a c := by
  have hid := Amphora.instanceId_eq h.compute
  constructor
  case coherent =>
    rw [← hheard.delta_eq, ← hid]
    refine Delta.coherent_delta (hheard.sound hs) ((answered_congr hheard.subnets).mpr
      hcomputable.answered) ?_ ?_
    · intro subnetId networkId hwanted
      rw [wanted_congr hheard.subnets] at hwanted
      unfold Registered
      rw [hheard.subnets]
      exact h.registered hwanted
    · rw [hheard.subnets, hheard.networks]
      exact hnetworked
  case stored => exact h.stored
  case compute => exact h.compute
  case hosted => exact hid ▸ (hheard.computable.mpr hcomputable).hosted

end Deployment

namespace Sample

/-- Both amphorae await their deltas on a substrate that serves their load balancer, and there are
addresses for both. -/
theorem prepared {s : Substrate} (hfit : s.Fit) (hserves : Serves s) :
    Deployment.Capable ⟨s, Repository.store {} pair, {}⟩ ∧
    (∀ {id subnet}, s.subnets.get? id = some subnet →
      ∃ network, s.networks.get? subnet.networkId = some network) ∧
    Deployment.Awaits ⟨s, Repository.store {} pair, {}⟩ pair (amphora "amp-1" "vm-1") "vm-1" ∧
    Deployment.Awaits ⟨s, Repository.store {} pair, {}⟩ pair (amphora "amp-2" "vm-2") "vm-2" ∧
    ∀ subnetId, s.Room subnetId 2 := by
  have hd := reconcilable_persisted hfit hserves
  have hstored : (Repository.store {} pair).amphorae.get? "amp-1" =
        some (amphora "amp-1" "vm-1") ∧
      (Repository.store {} pair).amphorae.get? "amp-2" = some (amphora "amp-2" "vm-2") := by
    decide +kernel
  refine ⟨hd.capable, hd.networked, ⟨hstored.1, rfl, hd.registered⟩,
    ⟨hstored.2, rfl, hd.registered⟩, ?_⟩
  obtain ⟨-, -, -, -, -, -, -, hroom⟩ := hserves
  intro subnetId subnet cidr hsubnet hcidr n _ hhigh
  exact hroom (subnetId, subnet) (IdMap.mem_entries_iff.mpr hsubnet) cidr hcidr n hhigh

end Sample

namespace Step

open Deployment

/-- The deltas of two amphorae on different instances were computed from `s`, which left `s₂`, and
there are addresses for both. However their runs are interleaved, both succeed; the instances are
linked as each run alone leaves them, and the records are those of the ports that the amphorae keep
and of the new ones. -/
theorem applyDelta_interleaved {s s₁ s₂ : Substrate} {r : Repository} {audit : AuditLog}
    (hs : s.Sound) (hx : s.Exclusive) (hcapable : Capable ⟨s, r, audit⟩)
    (hnetworked : ∀ {id subnet}, s.subnets.get? id = some subnet →
      ∃ network, s.networks.get? subnet.networkId = some network)
    {management management' : List String} {lb lb' : LoadBalancer} {a a' : Amphora}
    {c c' : String} (ha : Awaits ⟨s, r, audit⟩ lb a c) (ha' : Awaits ⟨s, r, audit⟩ lb' a' c')
    (hne : c ≠ c') {delta delta' : Delta}
    (hcompute : (computeDelta management lb a).runOn s = (.ok delta, s₁))
    (hcompute' : (computeDelta management' lb' a').runOn s₁ = (.ok delta', s₂))
    (hroom : ∀ subnetId, s.Room subnetId (delta.asked subnetId + delta'.asked subnetId))
    (turns : List Turn) (context : Context) :
    ∃ out out' d alone run alone' run',
      interleave turns (Thread.applyDelta a.id delta) (Thread.applyDelta a'.id delta')
        ⟨s₂, r, audit⟩ = ((.ok out, .ok out'), d) ∧
      (applyDelta a.id delta).execute.runOn { context, state := ⟨s₂, r, audit⟩ } =
        (.ok alone, run) ∧
      (applyDelta a'.id delta').execute.runOn { context, state := ⟨s₂, r, audit⟩ } =
        (.ok alone', run') ∧
      Fared ⟨s₂, r, audit⟩ (delta.givenUp ++ delta'.givenUp) a c run.state d ∧
      Fared ⟨s₂, r, audit⟩ (delta'.givenUp ++ delta.givenUp) a' c' run'.state d := by
  obtain ⟨hheard, rfl, hcomputable⟩ := (ends_computeDelta_iff management lb a s).of_ok hcompute
  obtain ⟨hheard', rfl, hcomputable'⟩ :=
    (ends_computeDelta_iff management' lb' a' s₁).of_ok hcompute'
  rw [hheard.delta_eq] at hroom ⊢
  have hboth : s.Heard s₂ := hheard.trans hheard'
  have hready : Ready ⟨s₂, r, audit⟩ (s.delta management lb a) a c :=
    ha.ready hs hboth hcomputable hnetworked
  have hready' : Ready ⟨s₂, r, audit⟩ (s.delta management' lb' a') a' c' :=
    ha'.ready hs hboth (hheard.computable.mp hcomputable') hnetworked
  have hcapable' : Capable ⟨s₂, r, audit⟩ :=
    hcapable.of_removed hboth.sameNetworks hboth.drawn
      (fun {id q} hget => ⟨q, hboth.ports ▸ hget, rfl⟩) (.inl (.refl r))
  refine hready.interleave (hboth.sound hs) (hboth.exclusive hx) hcapable' hready' hne ?_ turns
    context
  intro subnetId
  have hallocated : s₂.allocated subnetId = s.allocated subnetId := by
    simp only [allocated, hboth.allocations]
  exact (hroom subnetId).later hboth.subnets (Nat.le_of_eq hallocated.symm)
    (Nat.le_of_eq (by rw [hallocated]))

/-- The first instance leaves a network while both join that of the virtual address. -/
theorem applyDelta_interleaved_wired : ∃ delta delta' s₁ s₂,
    (computeDelta ["mgmt-net"] Sample.pair (Sample.amphora "amp-1" "vm-1")).runOn Sample.wired =
      (.ok delta, s₁) ∧
    (computeDelta ["mgmt-net"] Sample.pair (Sample.amphora "amp-2" "vm-2")).runOn s₁ =
      (.ok delta', s₂) ∧
    ∃ out out' d alone run alone' run',
      interleave [.right, .left, .left, .right, .left, .right, .right]
        (Thread.applyDelta "amp-1" delta) (Thread.applyDelta "amp-2" delta')
        (Sample.persisted s₂) = ((.ok out, .ok out'), d) ∧
      (applyDelta "amp-1" delta).execute.runOn (Sample.startPair s₂) = (.ok alone, run) ∧
      (applyDelta "amp-2" delta').execute.runOn (Sample.startPair s₂) = (.ok alone', run') ∧
      (Sample.persisted s₂).Fared (delta.givenUp ++ delta'.givenUp)
        (Sample.amphora "amp-1" "vm-1") "vm-1" run.state d ∧
      (Sample.persisted s₂).Fared (delta'.givenUp ++ delta.givenUp)
        (Sample.amphora "amp-2" "vm-2") "vm-2" run'.state d := by
  have hserves : Sample.Serves Sample.wired := by decide +kernel
  obtain ⟨hcapable, hnetworked, hfirst, hsecond, hroom⟩ :=
    Sample.prepared Sample.wired_fit hserves
  obtain ⟨hfaults, -, -, -, hhosted, -⟩ := hserves
  obtain ⟨delta, s₁, hcompute⟩ := exists_of_isSome
    (computeDelta ["mgmt-net"] Sample.pair (Sample.amphora "amp-1" "vm-1")) Sample.wired
    (by decide +kernel)
  obtain ⟨hheard, rfl, hcomputable⟩ := (ends_computeDelta_iff _ _ _ _).of_ok hcompute
  have hcomputable' : s₁.Computable Sample.pair (Sample.amphora "amp-2" "vm-2") :=
    hheard.computable.mpr ⟨hcomputable.answered, hhosted⟩
  obtain ⟨s₂, hcompute'⟩ :=
    computeDelta_eq (hheard.faults_nil hfaults) ["mgmt-net"] hcomputable'
  refine ⟨_, _, s₁, s₂, hcompute, hcompute', ?_⟩
  refine applyDelta_interleaved Sample.wired_fit.1 Sample.wired_fit.2 hcapable hnetworked
    hfirst hsecond (by decide) hcompute hcompute' ?_ _ {}
  intro subnetId
  refine (hroom subnetId).mono ?_
  exact Nat.add_le_add (Delta.asked_delta_le Sample.wired ["mgmt-net"] Sample.pair
    (Sample.amphora "amp-1" "vm-1") subnetId) (Delta.asked_delta_le s₁ ["mgmt-net"] Sample.pair
    (Sample.amphora "amp-2" "vm-2") subnetId)

end Step

end AmphoraWiring
