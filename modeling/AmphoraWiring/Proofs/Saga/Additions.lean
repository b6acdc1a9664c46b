import AmphoraWiring.Proofs.Saga.ManagementNetworks
import AmphoraWiring.Proofs.Substrate.NewPorts

/-!
What applying deltas adds. The ports that are made on the way are made for the new interfaces, one
for each, and what the step gives back leads from the interfaces to these ports. Where a delta only
adds, nothing else is changed.
-/
namespace AmphoraWiring

open Action Substrate

namespace Deployment

variable {d d' d'' : Deployment} {ids ids' : List String}

/-- Only the ports under the ids and the records of them may differ. -/
structure SameBut (ids : List String) (d d' : Deployment) : Prop where
  substrate : Substrate.SameBut ids d.substrate d'.substrate
  networks : d.substrate.SameNetworks d'.substrate
  bindings : d'.repository.bindings.filter (·.portId ∉ ids) =
    d.repository.bindings.filter (·.portId ∉ ids)

namespace SameBut

theorem refl (ids : List String) (d : Deployment) : SameBut ids d d :=
  ⟨.refl ids d.substrate, .refl d.substrate, rfl⟩

theorem trans (h : SameBut ids d d') (h' : SameBut ids d' d'') : SameBut ids d d'' :=
  ⟨h.substrate.trans h'.substrate, h.networks.trans h'.networks, h'.bindings.trans h.bindings⟩

theorem mono (h : SameBut ids d d') (hsub : ids ⊆ ids') : SameBut ids' d d' := by
  refine ⟨h.substrate.mono hsub, h.networks, ?_⟩
  have hfilter : ∀ l : List MemberPortBinding, (l.filter (·.portId ∉ ids)).filter
      (·.portId ∉ ids') = l.filter (·.portId ∉ ids') := by
    intro l
    rw [List.filter_filter]
    apply List.filter_congr
    intro b _
    by_cases hb : b.portId ∈ ids
    · simp [hb, hsub hb]
    · simp [hb]
  rw [← hfilter, h.bindings, hfilter]

theorem bound_iff (h : SameBut ids d d') {id : String} (hid : id ∉ ids) :
    d'.repository.Bound id ↔ d.repository.Bound id := by
  have hmem : ∀ r : Repository, r.Bound id ↔
      ∃ b ∈ r.bindings.filter (·.portId ∉ ids), b.portId = id := by
    intro r
    simp only [Repository.Bound, List.mem_filter, decide_eq_true_eq]
    constructor
    · intro h
      obtain ⟨b, hb, rfl⟩ := h
      exact ⟨b, ⟨hb, hid⟩, rfl⟩
    · intro h
      obtain ⟨b, ⟨hb, -⟩, rfl⟩ := h
      exact ⟨b, hb, rfl⟩
  rw [hmem, hmem, h.bindings]

/-- Reading the repository is of no account. -/
theorem of_heard (hsubstrate : d'.substrate = d.substrate)
    (hheard : d.repository.Heard d'.repository) : SameBut ids d d' := by
  constructor
  case substrate => exact hsubstrate ▸ .refl ids _
  case networks => exact hsubstrate ▸ .refl _
  case bindings => rw [hheard.bindings]

end SameBut

/-- Since `d` nothing was done but to ports under the ids, and these had no record then. -/
structure Added (ids : List String) (d d' : Deployment) : Prop where
  same : d.SameBut ids d'
  unbound : ∀ id ∈ ids, ¬ d.repository.Bound id

namespace Added

theorem refl (d : Deployment) : Added [] d d := ⟨.refl [] d, by simp⟩

theorem append (h : Added ids d d') (h' : Added ids' d' d'') : Added (ids ++ ids') d d'' := by
  constructor
  case same =>
    exact (h.same.mono (List.subset_append_left _ _)).trans
      (h'.same.mono (List.subset_append_right _ _))
  case unbound =>
    intro id hid
    by_cases hmem : id ∈ ids
    · exact h.unbound id hmem
    · rw [← h.same.bound_iff hmem]
      exact h'.unbound id ((List.mem_append.mp hid).resolve_left hmem)

/-- What was added may be changed afterwards. -/
theorem touched (h : Added ids d d') (h' : d'.SameBut ids d'') : Added ids d d'' :=
  ⟨h.same.trans h', h.unbound⟩

end Added

end Deployment

namespace Delta

variable {changed changed' : ChangedPorts} {s : Substrate} {d : Deployment} {delta : Delta}
  {run run' : Run Deployment}

/-- The port that is counted for a network. -/
def countedOn (changed : ChangedPorts) (networkId : String) : Option String :=
  (changed.get? networkId).map (·.id)

theorem countedOn_insert (changed : ChangedPorts) (networkId other : String) (q : Port) :
    countedOn (changed.insert networkId q) other =
      if other = networkId then some q.id else countedOn changed other := by
  unfold countedOn
  rw [IdMap.get?_insert]
  split <;> rfl

theorem countedOn_erase (changed : ChangedPorts) {networkId other : String}
    (h : other ≠ networkId) : countedOn (changed.erase networkId) other =
      countedOn changed other := by
  unfold countedOn
  rw [IdMap.get?_erase, if_neg h]

/-- Among the counted ports that of a new interface is found by its network. -/
theorem portOf_values (h : ∀ networkId q, changed.get? networkId = some q →
    q.networkId = networkId) {nic : Interface} (hnic : nic.portId = none) :
    portOf changed.values nic = countedOn changed nic.networkId := by
  have hfind : changed.values.find? (fun p => p.networkId = nic.networkId) =
      changed.get? nic.networkId := by
    cases hfound : changed.values.find? (fun p => p.networkId = nic.networkId) with
    | none =>
      cases hget : changed.get? nic.networkId with
      | none => rfl
      | some q =>
        have hnot := List.find?_eq_none.mp hfound q (IdMap.mem_values_iff.mpr ⟨_, hget⟩)
        simp [h _ q hget] at hnot
    | some q =>
      obtain ⟨networkId, hget⟩ := IdMap.mem_values_iff.mp (List.mem_of_find?_eq_some hfound)
      have hnet : q.networkId = nic.networkId := by simpa using List.find?_some hfound
      rw [← hnet, h networkId q hget, hget]
  rw [portOf, hnic, Option.none_or, hfind]
  rfl

/-- The delta does nothing but add interfaces and addresses to these. -/
@[mk_iff]
structure Additive (delta : Delta) : Prop where
  deleteNics : delta.deleteNics = []
  deleteSubnets : delta.deleteSubnets = []
  addSubnets : ∀ change ∈ delta.addSubnets, ∃ nic ∈ delta.addNics,
    nic.networkId = change.networkId

instance (delta : Delta) : Decidable delta.Additive := decidable_of_iff' _ delta.additive_iff

/-- Every new interface is on a network of its own, on which nothing else is named. -/
structure Orderly (delta : Delta) (s : Substrate) : Prop where
  placed : delta.Placed s
  distinct : (delta.addNics.map (·.networkId)).Nodup
  unnamed : ∀ nic ∈ delta.addNics, ∀ change ∈ delta.addSubnets,
    change.networkId = nic.networkId → change.portId = none
  kept : ∀ nic ∈ delta.addNics, ∀ change ∈ delta.deleteSubnets,
    nic.networkId ≠ change.networkId
  stays : ∀ nic ∈ delta.addNics, ∀ stale ∈ delta.deleteNics, nic.networkId ≠ stale.networkId

theorem Orderly.later {t : Substrate} (h : delta.Orderly s) (hlater : s.Later t) :
    delta.Orderly t :=
  ⟨h.placed.later hlater, h.distinct, h.unnamed, h.kept, h.stays⟩

section

variable {management : List String} {amphora : Amphora} {wanted : Topology} {c : String}

/-- Where no management network is to be reached, an interface is added only on a network where
the instance has no port. -/
theorem portsOn_eq_nil_of_mem_addNics (hunwanted : ∀ networkId ∈ management,
      networkId ∉ wanted.networks) {nic : Interface}
    (hnic : nic ∈ (between amphora wanted (s.attached management c)).addNics) :
    s.portsOn c nic.networkId = [] := by
  obtain ⟨networkId, hwanted, hfree, rfl⟩ := mem_addNics.mp hnic
  exact hfree.resolve_left fun hmem => hunwanted networkId hmem hwanted

/-- A delta that was computed from what is plugged in is in order. -/
theorem orderly_between (hs : s.Sound) :
    (between amphora wanted (s.attached management c)).Orderly s := by
  constructor
  case placed => exact placed_between hs
  case distinct => exact addNics_nodup _
  case unnamed =>
    intro nic hnic change hchange hnet
    obtain ⟨subnetId, networkId, -, -, rfl⟩ := mem_addSubnets.mp hchange
    change networkId = nic.networkId at hnet
    rw [hnet]
    exact namedPort_of_mem_addNics hnic
  case kept =>
    intro nic hnic change hchange hnet
    obtain ⟨subnetId, networkId, p, hmanagement, hp, -, -, rfl⟩ :=
      (mem_deleteSubnets hs).mp hchange
    have hnone := namedPort_of_mem_addNics hnic
    rw [hnet] at hnone
    simp [namedPort, hmanagement, hp] at hnone
  case stays =>
    intro nic hnic stale hstale hnet
    obtain ⟨networkId, hwanted, -, rfl⟩ := mem_addNics.mp hnic
    obtain ⟨n, p, -, hunwanted, hp, rfl⟩ := mem_deleteNics.mp hstale
    change networkId = p.networkId at hnet
    rw [carrier_networkId hp] at hnet
    exact hunwanted (hnet ▸ hwanted)

end

/-- An interface that was added is told by its port alone. -/
theorem added_of_nicAdded {amphora : Amphora} {nic : Interface} {d' : Deployment} {c : String}
    {p q : Port} (h : NicAdded amphora nic changed d changed' d' c p q) : d.Added [p.id] d' := by
  refine ⟨⟨.of_adopts h.adopts h.hosted, h.adopts.sameNetworks, ?_⟩, by simpa using h.unbound⟩
  rw [h.bindings.bindings]
  simp [Repository.addBinding]

end Delta

/-- The amphora of the load balancer with the id. -/
def Repository.amphoraOf (r : Repository) (loadBalancerId id : String) : Option Amphora :=
  (r.amphoraeOf loadBalancerId).find? fun a => a.id = id

/-- A delta and the amphora to whose instance it is applied. -/
structure Application where
  amphora : Amphora
  delta : Delta

namespace Application

/-- The instance is to be given an interface on the network. -/
def Gives (x : Application) (c networkId : String) : Prop :=
  x.amphora.computeId = some c ∧ ∃ nic ∈ x.delta.addNics, nic.networkId = networkId

variable {x : Application} {done : List Interface} {d : Deployment}
  {changed changed' : ChangedPorts} {run run' : Run Deployment}

open Delta

/-- The delta is being applied since `d`, and the ports for the interfaces in `done` have been
made. They are counted by their networks, in the order in which they were made. -/
structure Advancing (x : Application) (done : List Interface) (d : Deployment)
    (changed : ChangedPorts) (run : Run Deployment) : Prop where
  sparing : SparingRun [] d.substrate changed run
  extended : d.substrate.Extends x.Gives run.state.substrate
  counted : done.filterMap (fun nic => countedOn changed nic.networkId) =
    d.substrate.newIds run.state.substrate
  added : x.delta.Additive →
    d.Added (d.substrate.newIds run.state.substrate) run.state

namespace Advancing

theorem begin (hs : run.state.substrate.Sound) (hx : run.state.substrate.Exclusive) :
    x.Advancing [] run.state .empty run where
  sparing := by
    refine ⟨.refl hs hx, fun n q hq => ?_⟩
    cases hq
  extended := .refl _
  counted := by simp
  added := by
    intro _
    rw [newIds_self]
    exact .refl _

/-- A change that makes no port keeps to it that the ports made before stay counted. -/
theorem next (h : x.Advancing done d changed run)
    (hsparing : SparingRun [] d.substrate changed' run')
    (hextended : run.state.substrate.Extends x.Gives run'.state.substrate)
    (hdrawn : run'.state.substrate.drawn = run.state.substrate.drawn)
    (hcounted : ∀ nic ∈ done,
      countedOn changed' nic.networkId = countedOn changed nic.networkId)
    (hsame : x.delta.Additive →
      run.state.SameBut (d.substrate.newIds run.state.substrate) run'.state) :
    x.Advancing done d changed' run' where
  sparing := hsparing
  extended := h.extended.trans hextended
  counted := by
    rw [newIds_congr hdrawn, ← h.counted]
    exact List.filterMap_congr hcounted
  added := by
    intro hadditive
    rw [newIds_congr hdrawn]
    exact (h.added hadditive).touched (hsame hadditive)

theorem nicAdded {nic : Interface} {rest : List Interface} {c : String} {p q : Port}
    (h : x.Advancing done d changed run) (hsplit : x.delta.addNics = done ++ nic :: rest)
    (hdistinct : (x.delta.addNics.map (·.networkId)).Nodup)
    (hadded : NicAdded x.amphora nic changed run.state changed' run'.state c p q)
    (hsparing : SparingRun [] d.substrate changed' run') :
    x.Advancing (done ++ [nic]) d changed' run' := by
  have hnic : nic ∈ x.delta.addNics := by simp [hsplit]
  have hnew : d.substrate.newIds run'.state.substrate =
      d.substrate.newIds run.state.substrate ++ [p.id] := by
    have hdrawn := hadded.adopts.drawn
    rw [newIds_append h.extended.later.drawn (by omega), newIds_of_drawn_succ hdrawn,
      hadded.adopts.created.id]
  have hnet : q.networkId = nic.networkId :=
    hadded.filled.networkId.trans hadded.adopts.created.network
  constructor
  case sparing => exact hsparing
  case extended =>
    exact h.extended.trans (.of_adopts h.sparing.1.sound h.sparing.1.exclusive hadded.adopts
      ⟨hadded.computeId, nic, hnic, rfl⟩)
  case counted =>
    have hother : ∀ n ∈ done, n.networkId ≠ nic.networkId := by
      rw [hsplit, List.map_append, List.map_cons, List.nodup_append] at hdistinct
      intro n hn
      exact hdistinct.2.2 _ (List.mem_map_of_mem hn) _ List.mem_cons_self
    rw [hnew, ← h.counted, List.filterMap_append, hadded.counted, hnet]
    congr 1
    · apply List.filterMap_congr
      intro n hn
      rw [countedOn_insert, if_neg (hother n hn)]
    · simp [countedOn_insert, hadded.filled.id]
  case added =>
    intro hadditive
    rw [hnew]
    exact (h.added hadditive).append (added_of_nicAdded hadded)

theorem subnetAdded {change : SubnetChange} (h : x.Advancing x.delta.addNics d changed run)
    (horderly : x.delta.Orderly d.substrate) (hchange : change ∈ x.delta.addSubnets)
    (hadded : SubnetAdded changed change run.state changed' run'.state)
    (hsparing : SparingRun [] d.substrate changed' run') :
    x.Advancing x.delta.addNics d changed' run' := by
  -- on the network of a new interface it is the new port that gains the address
  have htarget : ∀ nic ∈ x.delta.addNics, nic.networkId = change.networkId → ∀ id,
      change.target changed = some id → countedOn changed nic.networkId = some id := by
    intro nic hnic hnet id hid
    rwa [SubnetChange.target, horderly.unnamed nic hnic change hchange hnet.symm, Option.none_or,
      ← hnet] at hid
  cases hadded with
  | present q hport hsubnet hchanged hstate =>
    subst hchanged
    refine h.next hsparing (hstate ▸ .refl _) (by rw [hstate]) (fun _ _ => rfl) fun _ => ?_
    exact hstate ▸ .refl _ _
  | gained id p ips q hid hgains hmatches hchanged hrecords habsent =>
    have hpid : p.id = id := h.sparing.1.sound.own_id hgains.port
    have hown : q.id = id := hmatches.id.trans hpid
    refine h.next hsparing (.of_amended hgains.amended fun _ => rfl) hgains.amended.drawn ?_ ?_
    · intro nic hnic
      rw [hchanged, countedOn_insert]
      split
      next hnet => rw [htarget nic hnic hnet id hid, hown]
      next => rfl
    · intro hadditive
      obtain ⟨nic, hnic, hnet⟩ := hadditive.addSubnets change hchange
      have hmade : id ∈ d.substrate.newIds run.state.substrate := by
        rw [← h.counted]
        exact List.mem_filterMap.mpr ⟨nic, hnic, htarget nic hnic hnet id hid⟩
      refine ⟨(Substrate.SameBut.of_gains hgains).mono (by simpa using hmade),
        hgains.sameNetworks, ?_⟩
      rw [hrecords.1]

theorem subnetDeleted {change : SubnetChange} (h : x.Advancing x.delta.addNics d changed run)
    (horderly : x.delta.Orderly d.substrate) (hchange : change ∈ x.delta.deleteSubnets)
    (hdeleted : SubnetDeleted changed change run.state changed' run'.state)
    (hsparing : SparingRun [] d.substrate changed' run') :
    x.Advancing x.delta.addNics d changed' run' := by
  have hnot : ¬ x.delta.Additive := by
    intro hadditive
    rw [hadditive.deleteSubnets] at hchange
    cases hchange
  cases hdeleted with
  | unnamed hport hchanged hstate =>
    subst hchanged
    exact h.next hsparing (hstate ▸ .refl _) (by rw [hstate]) (fun _ _ => rfl)
      fun hadditive => absurd hadditive hnot
  | lost id p q hport hloses hmatches hchanged hrecords =>
    refine h.next hsparing (.of_amended hloses.amended fun _ => Port.release_networkId _ _ _)
      hloses.amended.drawn ?_ fun hadditive => absurd hadditive hnot
    intro nic hnic
    rw [hchanged]
    split
    next => rfl
    next => rw [countedOn_insert, if_neg (horderly.kept nic hnic change hchange)]

theorem nicDeleted {nic : Interface} (h : x.Advancing x.delta.addNics d changed run)
    (horderly : x.delta.Orderly d.substrate) (hnic : nic ∈ x.delta.deleteNics)
    (hdeleted : NicDeleted x.amphora.instanceId nic run.state run'.state)
    (hsparing : SparingRun [] d.substrate (changed.erase nic.networkId) run') :
    x.Advancing x.delta.addNics d (changed.erase nic.networkId) run' := by
  refine h.next hsparing (.of_removal hdeleted.removal) hdeleted.removal.drawn ?_ ?_
  · intro n hn
    exact countedOn_erase changed (horderly.stays n hn nic hnic)
  · intro hadditive
    rw [hadditive.deleteNics] at hnic
    cases hnic

end Advancing

/-! A whole delta -/

/-- The delta has been applied. The ports that were made are those that its new interfaces lead to
among the ports that were given back. -/
structure Applied (x : Application) (ports : List Port) (d d' : Deployment) : Prop where
  sound : d'.substrate.Sound
  exclusive : d'.substrate.Exclusive
  extended : d.substrate.Extends x.Gives d'.substrate
  found : x.delta.addNics.filterMap (portOf ports) = d.substrate.newIds d'.substrate
  added : x.delta.Additive → d.Added (d.substrate.newIds d'.substrate) d'

theorem Advancing.applied (h : x.Advancing x.delta.addNics d changed run)
    (hplaced : x.delta.Placed d.substrate) : x.Applied changed.values d run.state where
  sound := h.sparing.1.sound
  exclusive := h.sparing.1.exclusive
  extended := h.extended
  found := by
    rw [← h.counted]
    apply List.filterMap_congr
    intro nic hnic
    exact portOf_values (fun n q hq => (h.sparing.2 n q hq).1) (hplaced.added nic hnic)
  added := h.added

/-- A delta that is applied has made and counted what its changes say. -/
theorem ends_apply (hs : run.state.substrate.Sound) (hx : run.state.substrate.Exclusive)
    (horderly : x.delta.Orderly run.state.substrate) :
    Action.Ends (x.delta.apply x.amphora) run
      (fun ports run' => x.Applied ports run.state run'.state) fun _ _ => True := by
  have hspared : ∀ networkId : String, networkId ∉ ([] : List String) := fun _ => List.not_mem_nil
  have hplaced := horderly.placed
  refine (Ends.foldlM_done (fun done changed run' => x.Advancing done run.state changed run')
    ?_ (.begin hs hx)).bind ?_ (fun e t h => h)
  · intro done nic rest hsplit changed run₁ h
    apply ((ends_addNic x.amphora changed nic run₁).and
      (ends_addNic_sparing (hspared _) h.sparing)).mono
    · intro changed' run₂ hend
      obtain ⟨⟨c, p, q, hadded⟩, hsparing⟩ := hend
      exact h.nicAdded hsplit horderly.distinct hadded hsparing
    · exact fun _ _ _ => trivial
  intro changed₁ run₁ h₁
  refine (Ends.foldlM_mem ?_ h₁).bind ?_ (fun e t h => h)
  · intro change hchange changed run₂ h
    have hnamed := hplaced.changed change (List.mem_append_left _ hchange)
    apply ((ends_addSubnet changed change run₂).and (ends_addSubnet_sparing (hspared _)
      (fun id hid => h.sparing.1.later.onlyOn (hnamed id hid)) h.sparing)).mono
    · exact fun changed' run₃ hend => h.subnetAdded horderly hchange hend.1 hend.2
    · exact fun _ _ _ => trivial
  intro changed₂ run₂ h₂
  refine (Ends.foldlM_mem ?_ h₂).bind ?_ (fun e t h => h)
  · intro change hchange changed run₃ h
    have hnamed := hplaced.changed change (List.mem_append_right _ hchange)
    apply ((ends_deleteSubnet changed change run₃).and (ends_deleteSubnet_sparing (hspared _)
      (fun id hid => h.sparing.1.later.onlyOn (hnamed id hid)) h.sparing)).mono
    · exact fun changed' run₄ hend => h.subnetDeleted horderly hchange hend.1 hend.2
    · exact fun _ _ _ => trivial
  intro changed₃ run₃ h₃
  refine (Ends.foldlM_mem ?_ h₃).bind ?_ (fun e t h => h)
  · intro nic hnic changed run₄ h
    apply ((ends_deleteNic x.amphora changed nic run₄).and (ends_deleteNic_sparing (hspared _)
      (fun id hid => h.sparing.1.later.onlyOn (hplaced.deleted nic hnic id hid)) h.sparing)).mono
    · intro changed' run₅ hend
      obtain ⟨⟨rfl, hdeleted⟩, hsparing⟩ := hend
      exact h.nicDeleted horderly hnic hdeleted hsparing
    · exact fun _ _ _ => trivial
  intro changed₄ run₄ h₄
  exact ends_pure (h₄.applied hplaced)

/-! Several deltas -/

/-- The deltas of the entries, for the amphorae that are found. -/
def ofEntries (find : String → Option Amphora) (entries : List (String × Delta)) :
    List Application :=
  entries.filterMap fun e => (find e.1).map fun amphora => ⟨amphora, e.2⟩

theorem forall_mem_ofEntries {P : Delta → Prop} {find : String → Option Amphora}
    {entries : List (String × Delta)} (h : ∀ e ∈ entries, P e.2) :
    ∀ x ∈ ofEntries find entries, P x.delta := by
  intro x hx
  obtain ⟨e, he, hfound⟩ := List.mem_filterMap.mp hx
  obtain ⟨amphora, -, rfl⟩ := Option.map_eq_some_iff.mp hfound
  exact h e he

/-- The ports that the new interfaces lead to among those that were given back. -/
def foundPorts (entries : List (String × Delta)) (changed : IdMap (List Port)) : List String :=
  entries.flatMap fun e => e.2.addNics.filterMap (portOf ((changed.get? e.1).getD []))

/-- The deltas have been applied, those of the entries in `done`. -/
structure AllApplied (applied : List Application) (done : List (String × Delta))
    (changed : IdMap (List Port)) (d d' : Deployment) : Prop where
  sound : d'.substrate.Sound
  exclusive : d'.substrate.Exclusive
  extended : d.substrate.Extends (fun c networkId => ∃ x ∈ applied, x.Gives c networkId)
    d'.substrate
  found : foundPorts done changed = d.substrate.newIds d'.substrate
  added : (∀ x ∈ applied, x.delta.Additive) → d.Added (d.substrate.newIds d'.substrate) d'

namespace AllApplied

variable {applied : List Application} {entries : List (String × Delta)}
  {changed : IdMap (List Port)} {d' d'' : Deployment}

theorem begin (hs : d.substrate.Sound) (hx : d.substrate.Exclusive)
    (hsubstrate : d'.substrate = d.substrate) (hheard : d.repository.Heard d'.repository) :
    AllApplied [] [] .empty d d' where
  sound := hsubstrate ▸ hs
  exclusive := hsubstrate ▸ hx
  extended := hsubstrate ▸ .refl _
  found := by simp [foundPorts, hsubstrate]
  added := by
    intro _
    rw [hsubstrate, newIds_self]
    exact (Deployment.Added.refl d).touched (.of_heard hsubstrate hheard)

theorem step {e : String × Delta} {amphora : Amphora} {ports : List Port}
    (h : AllApplied applied entries changed d d') (hnew : e.1 ∉ entries.map (·.1))
    (happlied : Applied ⟨amphora, e.2⟩ ports d' d'') :
    AllApplied (applied ++ [⟨amphora, e.2⟩]) (entries ++ [e]) (changed.insert e.1 ports) d d'' := by
  have hids := newIds_append h.extended.later.drawn happlied.extended.later.drawn
  constructor
  case sound => exact happlied.sound
  case exclusive => exact happlied.exclusive
  case extended =>
    refine (h.extended.mono ?_).trans (happlied.extended.mono ?_)
    · intro c n hgives
      obtain ⟨x, hx, hgives⟩ := hgives
      exact ⟨x, List.mem_append_left _ hx, hgives⟩
    · exact fun c n hgives => ⟨_, List.mem_append_right _ (List.mem_singleton_self _), hgives⟩
  case found =>
    have hother : ∀ e' ∈ entries, (changed.insert e.1 ports).get? e'.1 = changed.get? e'.1 := by
      intro e' he'
      have hne : e'.1 ≠ e.1 := fun heq => hnew (heq ▸ List.mem_map_of_mem he')
      rw [IdMap.get?_insert, if_neg hne]
    rw [hids, ← h.found, ← happlied.found, foundPorts, List.flatMap_append]
    congr 1
    · apply List.flatMap_congr
      intro e' he'
      rw [hother e' he']
    · simp
  case added =>
    intro hadditive
    rw [hids]
    refine (h.added fun x hx => hadditive x (List.mem_append_left _ hx)).append ?_
    exact happlied.added (hadditive _ (List.mem_append_right _ (List.mem_singleton_self _)))

end AllApplied

theorem ofEntries_concat {find : String → Option Amphora} {e : String × Delta}
    {amphora : Amphora} (hfind : find e.1 = some amphora) (entries : List (String × Delta)) :
    ofEntries find (entries ++ [e]) = ofEntries find entries ++ [⟨amphora, e.2⟩] := by
  simp [ofEntries, hfind]

/-- The delta is applied to the amphora that is stored. -/
theorem ends_applyDelta (hs : run.state.substrate.Sound) (hx : run.state.substrate.Exclusive)
    {amphoraId : String} {delta : Delta} (horderly : delta.Orderly run.state.substrate) :
    Action.Ends (Step.applyDelta amphoraId delta).execute run
      (fun changed run' => ∃ stored,
        run.state.repository.amphorae.get? amphoraId = some stored ∧
        AllApplied [⟨stored, delta⟩] [(amphoraId, delta)] changed run.state run'.state)
      fun _ _ => True := by
  refine (Deployment.ends_onRepository (Repository.ends_getAmphora amphoraId _)).bind ?_
    (fun _ _ _ => trivial)
  intro stored run₁ hend
  obtain ⟨⟨hheard, hget⟩, hsubstrate, -⟩ := hend
  have hbegin := AllApplied.begin hs hx hsubstrate hheard
  refine (ends_apply (x := ⟨stored, delta⟩) hbegin.sound hbegin.exclusive
    (hsubstrate ▸ horderly)).bind ?_ (fun e t h => h)
  intro ports run₂ happlied
  exact ends_pure ⟨stored, hget, hbegin.step (e := (amphoraId, delta)) List.not_mem_nil happlied⟩

/-- The deltas are applied one after the other, each to its own amphora. -/
theorem ends_applyDeltas (hs : run.state.substrate.Sound) (hx : run.state.substrate.Exclusive)
    {loadBalancerId : String} {deltas : IdMap Delta}
    (horderly : ∀ e ∈ deltas.entries, e.2.Orderly run.state.substrate) :
    Action.Ends (Step.applyDeltas loadBalancerId deltas).execute run
      (fun changed run' => AllApplied
        (ofEntries (run.state.repository.amphoraOf loadBalancerId) deltas.entries)
        deltas.entries changed run.state run'.state)
      fun _ _ => True := by
  refine (Deployment.ends_onRepository (Repository.ends_getLoadBalancer loadBalancerId _)).bind ?_
    (fun _ _ _ => trivial)
  intro lb run₁ hend
  obtain ⟨⟨hheard, stored, -, rfl⟩, hsubstrate, -⟩ := hend
  refine Ends.foldlM_done (fun done changed (run' : Run Deployment) =>
    AllApplied (ofEntries (run.state.repository.amphoraOf loadBalancerId) done) done changed
      run.state run'.state) ?_ (.begin hs hx hsubstrate hheard)
  intro done e rest hsplit changed run₂ h
  have hnew : e.1 ∉ done.map (·.1) := IdMap.key_not_mem_of_entries_eq hsplit
  refine (ends_orFail _ _ run₂).bind ?_ (fun _ _ _ => trivial)
  intro amphora run₃ hend
  obtain ⟨rfl, hfind⟩ := hend
  have hdelta := (horderly e (by simp [hsplit])).later h.extended.later
  refine (ends_apply (x := ⟨amphora, e.2⟩) h.sound h.exclusive hdelta).bind ?_ (fun e t h => h)
  intro ports run₄ happlied
  rw [ofEntries_concat hfind]
  exact ends_pure (h.step hnew happlied)

end Application

end AmphoraWiring
