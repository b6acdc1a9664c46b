import AmphoraWiring.Proofs.Delta.Entries
import AmphoraWiring.Proofs.Saga.Capability
import AmphoraWiring.Proofs.Seeding
import AmphoraWiring.Proofs.Substrate.Places

/-!
The records of whom a port belongs to, against what is plugged in. They are kept by different calls
in different phases of a delta, but while no call fails both change together: an interface that is
added comes last in both, and one that is removed goes from both, whatever else the instance
carries. So over all updates of load balancers the records of an amphora stay the ports of its
instance outside the management networks, in the same order.
-/
namespace AmphoraWiring

open Action Substrate

namespace Repository

variable {r r' : Repository} {amphoraId : String}

/-- The recorded ports of an amphora with their networks, the oldest record first. -/
def records (r : Repository) (amphoraId : String) : List (String × String) :=
  (r.bindings.filter fun b => b.amphoraId = amphoraId).map fun b => (b.portId, b.networkId)

theorem Heard.records (h : r.Heard r') (amphoraId : String) :
    r'.records amphoraId = r.records amphoraId := by
  unfold Repository.records
  rw [h.bindings]

theorem records_addBinding (b : MemberPortBinding) (amphoraId : String) :
    (r.addBinding b).records amphoraId =
      if b.amphoraId = amphoraId then r.records amphoraId ++ [(b.portId, b.networkId)]
      else r.records amphoraId := by
  unfold records addBinding
  split
  next heq => simp [List.filter_append, heq]
  next hne => simp [List.filter_append, hne]

theorem records_dropBinding (portId amphoraId : String) :
    (r.dropBinding portId).records amphoraId =
      (r.records amphoraId).filter fun e => e.1 ≠ portId := by
  unfold records dropBinding
  rw [List.filter_map, List.filter_filter, List.filter_filter]
  congr 1
  apply List.filter_congr
  intro b _
  simp [Bool.and_comm]

theorem bound_of_mem_records {e : String × String} (h : e ∈ r.records amphoraId) :
    r.Bound e.1 := by
  obtain ⟨b, hb, rfl⟩ := List.mem_map.mp h
  exact ⟨b, List.mem_of_mem_filter hb, rfl⟩

end Repository

/-- The places of an instance outside the management networks. -/
def Substrate.members (s : Substrate) (management : List String) (c : String) :
    List (String × String) :=
  (s.places c).filter fun e => e.2 ∉ management

theorem Substrate.members_eq (s : Substrate) (management : List String) (c : String) :
    s.members management c =
      ((s.pluggedPorts c).filter fun p => p.networkId ∉ management).map place := by
  rw [members, places, List.filter_map]
  rfl

theorem Substrate.Sound.members_nodup {s : Substrate} (hs : s.Sound) (management : List String)
    (c : String) : ((s.members management c).map (·.1)).Nodup := by
  have hsub : ((s.members management c).map (·.1)).Sublist ((s.places c).map (·.1)) :=
    List.filter_sublist.map _
  rw [hs.places_ids] at hsub
  exact hsub.nodup (hs.nodup c)

theorem Substrate.Adopts.members {s t : Substrate} {request : PortRequest} {c : String} {p : Port}
    {management : List String} (h : s.Adopts t request c p) (hs : s.Sound)
    (hnetwork : request.networkId ∉ management) (c' : String) : t.members management c' =
      if c' = c then s.members management c ++ [(p.id, request.networkId)]
      else s.members management c' := by
  unfold Substrate.members
  rw [h.places hs]
  split
  · simp [List.filter_append, hnetwork]
  · rfl

/-- A place of an instance was one before, or it is that of the new port. -/
theorem Substrate.Adopts.mem_places_or {s t : Substrate} {request : PortRequest} {c : String}
    {p : Port} (h : s.Adopts t request c p) (hs : s.Sound) {c' : String} {e : String × String}
    (he : e ∈ t.places c') : e ∈ s.places c' ∨ c' = c ∧ e.1 = p.id := by
  rw [h.places hs] at he
  split at he
  next heq =>
    subst heq
    refine (List.mem_append.mp he).imp_right fun hnew => ⟨rfl, ?_⟩
    rw [List.mem_singleton.mp hnew]
  next => exact .inl he

/-- A new port is not among the places of any instance. -/
theorem Substrate.Adopts.not_mem_places {s t : Substrate} {request : PortRequest} {c : String}
    {p : Port} (h : s.Adopts t request c p) (hs : s.Sound) (c' networkId : String) :
    (p.id, networkId) ∉ s.places c' := by
  intro hmem
  obtain ⟨q, hq, hid⟩ := mem_places.mp hmem
  obtain ⟨-, hget, -⟩ := hs.mem_portsOn.mp hq
  rw [hid, h.is_new hs] at hget
  cases hget

/-- The records of every amphora are the ports that are plugged into its instance outside the
management networks. There is at most one of them on a network, and none is plugged into another
instance. -/
structure Recorded (home : String → String) (management : List String) (d : Deployment) :
    Prop where
  sound : d.substrate.Sound
  faults : d.substrate.faults = []
  harmless : d.repository.Harmless
  listed : ∀ a, d.repository.records a = d.substrate.members management (home a)
  single : ∀ c, ((d.substrate.members management c).map (·.2)).Nodup
  own : ∀ {c c' id n n'}, (id, n) ∈ d.substrate.members management c →
    (id, n') ∈ d.substrate.places c' → c' = c

namespace Recorded

variable {home : String → String} {management : List String} {d d' : Deployment} {c : String}
  {amphora : Amphora} {nic : Interface} {changed changed' : ChangedPorts}

/-- Without records, and with nothing plugged in outside the management networks. -/
theorem start (hs : d.substrate.Sound) (hfaults : d.substrate.faults = [])
    (hharmless : d.repository.Harmless)
    (hplain : ∀ c, ∀ p ∈ d.substrate.pluggedPorts c, p.networkId ∈ management)
    (hrecords : d.repository.bindings = []) : Recorded home management d := by
  have hmembers : ∀ c, d.substrate.members management c = [] := by
    intro c
    rw [members_eq, List.map_eq_nil_iff, List.filter_eq_nil_iff]
    intro p hp
    simpa using hplain c p hp
  refine ⟨hs, hfaults, hharmless, ?_, ?_, ?_⟩
  · intro a
    rw [hmembers, Repository.records, hrecords]
    rfl
  · intro c
    simp [hmembers]
  · intro c c' id n n' hmem
    rw [hmembers] at hmem
    cases hmem

/-- Where neither the places of an instance nor a record has changed. -/
theorem of_places (h : Recorded home management d) (hs : d'.substrate.Sound)
    (hsame : d.substrate.SameNetworks d'.substrate)
    (hplaces : ∀ c, d'.substrate.places c = d.substrate.places c)
    (hrepository : d.repository.Heard d'.repository) : Recorded home management d' := by
  have hmembers : ∀ c, d'.substrate.members management c = d.substrate.members management c := by
    intro c
    unfold members
    rw [hplaces]
  refine ⟨hs, hsame.faults_nil h.faults, hrepository.harmless h.harmless, ?_, ?_, ?_⟩
  · intro a
    rw [hrepository.records, hmembers, h.listed]
  · intro c
    rw [hmembers]
    exact h.single c
  · intro c c' id n n' hmem hmem'
    rw [hmembers] at hmem
    rw [hplaces] at hmem'
    exact h.own hmem hmem'

/-- A port that is made for a network on which its instance has none is recorded. -/
theorem nicAdded (h : Recorded home management d) (hhome : Function.Injective home)
    {p q : Port} (hend : Delta.NicAdded amphora nic changed d changed' d' c p q)
    (hc : home amphora.id = c) (hnetwork : nic.networkId ∉ management)
    (hvacant : ∀ id, (id, nic.networkId) ∉ d.substrate.places c) :
    Recorded home management d' := by
  have hmembers : ∀ c', d'.substrate.members management c' =
      if c' = c then d.substrate.members management c ++ [(p.id, nic.networkId)]
      else d.substrate.members management c' := hend.adopts.members h.sound hnetwork
  have hunlisted := hend.adopts.not_mem_places h.sound
  constructor
  case sound => exact hend.adopts.sound h.sound
  case faults => exact hend.adopts.sameNetworks.faults_nil h.faults
  case harmless => exact hend.bindings.harmless h.harmless
  case listed =>
    intro a
    rw [hend.bindings.records, Repository.records_addBinding, hmembers, h.listed, ← hc]
    by_cases ha : amphora.id = a
    · subst ha
      simp
    · have hother : home a ≠ home amphora.id := fun heq => ha (hhome heq).symm
      simp [ha, hother]
  case single =>
    intro c'
    rw [hmembers]
    split
    next heq =>
      rw [List.map_append, List.nodup_append]
      refine ⟨h.single c, by simp, ?_⟩
      intro n hn n' hn' heq'
      obtain ⟨e, he, rfl⟩ := List.mem_map.mp hn
      have hnew : n' = nic.networkId := by simpa using hn'
      have hmem : (e.1, nic.networkId) ∈ d.substrate.places c := by
        rw [← hnew, ← heq']
        exact List.mem_of_mem_filter he
      exact hvacant e.1 hmem
    next => exact h.single c'
  case own =>
    intro c₁ c₂ id n n' hmem hmem'
    obtain ⟨hmem, hn⟩ := List.mem_filter.mp hmem
    rcases hend.adopts.mem_places_or h.sound hmem with hmem | ⟨rfl, rfl⟩
    · rcases hend.adopts.mem_places_or h.sound hmem' with hmem' | ⟨rfl, rfl⟩
      · exact h.own (List.mem_filter.mpr ⟨hmem, hn⟩) hmem'
      · exact absurd hmem (hunlisted _ _)
    · rcases hend.adopts.mem_places_or h.sound hmem' with hmem' | ⟨rfl, -⟩
      · exact absurd hmem' (hunlisted _ _)
      · rfl

/-- Where an instance gives up a network outside the management networks, one port goes from among
the ports outside them, the one that was on the network. -/
theorem members_removed (h : Recorded home management d) {id networkId : String}
    (hmember : (id, networkId) ∈ d.substrate.members management c)
    (hplaces : ∀ c', d'.substrate.places c' =
      if c' = c then (d.substrate.places c).filter fun e => e.2 ≠ networkId
      else d.substrate.places c') (c' : String) : d'.substrate.members management c' =
      (d.substrate.members management c').filter fun e => e.1 ≠ id := by
  unfold members
  rw [hplaces]
  split
  next heq =>
    subst heq
    rw [List.filter_filter, List.filter_filter]
    apply List.filter_congr
    intro e he
    obtain ⟨k, n⟩ := e
    by_cases hn : n ∈ management
    · simp [hn]
    · -- the port is the only one on its network, and it is on no other
      have hsame : n = networkId ↔ k = id := by
        constructor
        · intro hnet
          have hmem : (k, n) ∈ d.substrate.members management c' :=
            List.mem_filter.mpr ⟨he, by simpa using hn⟩
          have heq := List.inj_on_of_nodup_map (h.single c') hmem hmember hnet
          exact congrArg (·.1) heq
        · intro heq
          subst heq
          exact h.sound.places_unique (List.mem_of_mem_filter hmember) he
      simp [hn, hsame]
  next hne =>
    rw [eq_comm, List.filter_eq_self]
    intro e he
    obtain ⟨k, n⟩ := e
    have hother : k ≠ id := by
      intro heq
      subst heq
      exact hne (h.own hmember (List.mem_of_mem_filter he))
    simpa using hother

/-- With an interface that is given up every record of its port goes. -/
theorem records_removed (h : Recorded home management d) (hend : Delta.NicDeleted c nic d d')
    {id : String} (hport : nic.portId = some id) (a : String) : d'.repository.records a =
      (d.repository.records a).filter fun e => e.1 ≠ id := by
  rcases hend.repository with hheard | ⟨dropped, hdropped, hheard⟩
  · rw [hheard.records, eq_comm, List.filter_eq_self]
    intro e he
    have hbound := (hheard.bound_iff e.1).mpr (Repository.bound_of_mem_records he)
    have hother : e.1 ≠ id := fun heq => hend.unbound h.harmless id hport (heq ▸ hbound)
    simpa using hother
  · cases hport.symm.trans hdropped
    rw [hheard.records, Repository.records_dropBinding]

/-- A port that is given up outside the management networks is forgotten. -/
theorem nicDeleted (h : Recorded home management d) (hend : Delta.NicDeleted c nic d d')
    (hhosted : d.substrate.plugged.contains c) {id : String} (hport : nic.portId = some id)
    (hnetwork : nic.networkId ∉ management) (hid : (id, nic.networkId) ∈ d.substrate.places c) :
    Recorded home management d' ∧ ∀ c', d'.substrate.places c' =
      if c' = c then (d.substrate.places c).filter fun e => e.2 ≠ nic.networkId
      else d.substrate.places c' := by
  have hmember : (id, nic.networkId) ∈ d.substrate.members management c :=
    List.mem_filter.mpr ⟨hid, by simpa using hnetwork⟩
  have hremoval := hend.removal
  rw [hport] at hremoval
  have hplaces := hremoval.places h.sound h.faults hhosted hid fun c' n hmem => h.own hmember hmem
  have hmembers := h.members_removed hmember hplaces
  refine ⟨?_, hplaces⟩
  constructor
  case sound => exact hremoval.sound h.sound
  case faults => exact hremoval.sameNetworks.faults_nil h.faults
  case harmless =>
    rcases hend.repository with hheard | ⟨dropped, -, hheard⟩
    · exact hheard.harmless h.harmless
    · exact hheard.harmless h.harmless
  case listed =>
    intro a
    rw [h.records_removed hend hport, hmembers, h.listed]
  case single =>
    intro c'
    rw [hmembers]
    exact (h.single c').sublist (List.filter_sublist.map _)
  case own =>
    intro c₁ c₂ id' n n' hmem hmem'
    rw [hmembers] at hmem
    have hbefore : (id', n') ∈ d.substrate.places c₂ := by
      rw [hplaces] at hmem'
      split at hmem'
      next heq => exact heq ▸ List.mem_of_mem_filter hmem'
      next => exact hmem'
    exact h.own (List.mem_of_mem_filter hmem) hbefore

end Recorded

namespace Delta

variable {home : String → String} {management : List String} {c : String} {amphora : Amphora}
  {delta : Delta} {adds deletes : List Interface} {places : List (String × String)}

/-- The interfaces to be added are on networks without a port and those to be removed name a port
on their network, all of them outside the management networks and each network once. -/
structure Fitting (management : List String) (adds deletes : List Interface)
    (places : List (String × String)) : Prop where
  added : ∀ nic ∈ adds, nic.networkId ∉ management ∧ ∀ id, (id, nic.networkId) ∉ places
  added_nodup : (adds.map (·.networkId)).Nodup
  deleted : ∀ nic ∈ deletes, nic.networkId ∉ management ∧
    ∃ id, nic.portId = some id ∧ (id, nic.networkId) ∈ places
  deleted_nodup : (deletes.map (·.networkId)).Nodup

theorem Fitting.next_added {nic : Interface}
    (h : Fitting management (nic :: adds) deletes places) (id : String) :
    Fitting management adds deletes (places ++ [(id, nic.networkId)]) := by
  obtain ⟨hnic, hnodup⟩ := List.nodup_cons.mp h.added_nodup
  constructor
  case added =>
    intro other hother
    obtain ⟨hnetwork, hvacant⟩ := h.added other (List.mem_cons_of_mem _ hother)
    refine ⟨hnetwork, fun k hmem => ?_⟩
    rcases List.mem_append.mp hmem with hmem | hmem
    · exact hvacant k hmem
    · have hsame : other.networkId = nic.networkId :=
        (Prod.mk.inj (List.mem_singleton.mp hmem)).2
      exact hnic (List.mem_map.mpr ⟨other, hother, hsame⟩)
  case added_nodup => exact hnodup
  case deleted =>
    intro other hother
    obtain ⟨hnetwork, k, hk, hmem⟩ := h.deleted other hother
    exact ⟨hnetwork, k, hk, List.mem_append_left _ hmem⟩
  case deleted_nodup => exact h.deleted_nodup

theorem Fitting.next_deleted {nic : Interface}
    (h : Fitting management adds (nic :: deletes) places) :
    Fitting management adds deletes (places.filter fun e => e.2 ≠ nic.networkId) := by
  obtain ⟨hnic, hnodup⟩ := List.nodup_cons.mp h.deleted_nodup
  constructor
  case added =>
    intro other hother
    obtain ⟨hnetwork, hvacant⟩ := h.added other hother
    exact ⟨hnetwork, fun k hmem => hvacant k (List.mem_of_mem_filter hmem)⟩
  case added_nodup => exact h.added_nodup
  case deleted =>
    intro other hother
    obtain ⟨hnetwork, k, hk, hmem⟩ := h.deleted other (List.mem_cons_of_mem _ hother)
    have hne : other.networkId ≠ nic.networkId :=
      fun heq => hnic (List.mem_map.mpr ⟨other, hother, heq⟩)
    exact ⟨hnetwork, k, hk, List.mem_filter.mpr ⟨hmem, decide_eq_true hne⟩⟩
  case deleted_nodup => exact hnodup

/-- Between `d` and `d'` the instance was worked on, and records and places are still the same. -/
structure Keeping (home : String → String) (management : List String) (c : String)
    (d d' : Deployment) : Prop where
  recorded : Recorded home management d'
  sameNetworks : d.substrate.SameNetworks d'.substrate
  instances : d.substrate.KeepsInstances d'.substrate
  others : ∀ c' ≠ c, d'.substrate.places c' = d.substrate.places c'

variable {d : Deployment} {run : Run Deployment}

/-- The delta is being applied, and the rest of it fits what the instance carries by now. -/
def KeepingRun (home : String → String) (management : List String) (c : String) (d : Deployment)
    (adds deletes : List Interface) (_ : ChangedPorts) (run : Run Deployment) : Prop :=
  Keeping home management c d run.state ∧
    Fitting management adds deletes (run.state.substrate.places c)

theorem ends_addNic_keeping (hhome : Function.Injective home)
    (hcompute : amphora.computeId = some c) (hc : home amphora.id = c)
    {changed : ChangedPorts} {nic : Interface}
    (h : KeepingRun home management c d (nic :: adds) deletes changed run) :
    Action.Ends (addNic amphora changed nic) run
      (KeepingRun home management c d adds deletes) fun _ _ => True := by
  obtain ⟨h, hfits⟩ := h
  obtain ⟨hnetwork, hvacant⟩ := hfits.added nic List.mem_cons_self
  apply (ends_addNic amphora changed nic run).mono
  · intro changed' run' hend
    obtain ⟨c', p, q, hend⟩ := hend
    cases hcompute.symm.trans hend.computeId
    have hplaces := hend.adopts.places h.recorded.sound
    refine ⟨⟨h.recorded.nicAdded hhome hend hc hnetwork hvacant,
      h.sameNetworks.trans hend.adopts.sameNetworks, ?_, ?_⟩, ?_⟩
    · exact fun c' hc' => hend.adopts.keepsInstances c' (h.instances c' hc')
    · intro c' hc'
      rw [hplaces, if_neg hc', h.others c' hc']
    · rw [hplaces, if_pos rfl]
      exact hfits.next_added p.id
  · exact fun _ _ _ => trivial

/-- Where only the addresses of a port have changed. -/
theorem Keeping.of_places {d' d'' : Deployment} (h : Keeping home management c d d')
    (hs : d''.substrate.Sound) (hsame : d'.substrate.SameNetworks d''.substrate)
    (hkeeps : d'.substrate.KeepsInstances d''.substrate)
    (hplaces : ∀ c, d''.substrate.places c = d'.substrate.places c)
    (hrecords : d'.SameRecords d'') : Keeping home management c d d'' where
  recorded := h.recorded.of_places hs hsame hplaces (hrecords.1 ▸ .refl _)
  sameNetworks := h.sameNetworks.trans hsame
  instances c' hc' := hkeeps c' (h.instances c' hc')
  others c' hc' := by rw [hplaces, h.others c' hc']

theorem ends_addSubnet_keeping {changed : ChangedPorts} {change : SubnetChange}
    (h : KeepingRun home management c d adds deletes changed run) :
    Action.Ends (addSubnet changed change) run
      (KeepingRun home management c d adds deletes) fun _ _ => True := by
  obtain ⟨h, hfits⟩ := h
  apply (ends_addSubnet changed change run).mono
  · intro changed' run' hend
    cases hend with
    | present q hport hsubnet hchanged hstate =>
      rw [KeepingRun, hstate]
      exact ⟨h, hfits⟩
    | gained id p ips q htarget hgains hmatches hchanged hrecords habsent =>
      have hplaces := hgains.amended.places h.recorded.sound fun _ => rfl
      refine ⟨h.of_places (hgains.sound h.recorded.sound) hgains.sameNetworks
        hgains.amended.keepsInstances hplaces hrecords, ?_⟩
      rwa [hplaces]
  · exact fun _ _ _ => trivial

theorem ends_deleteSubnet_keeping {changed : ChangedPorts} {change : SubnetChange}
    (h : KeepingRun home management c d adds deletes changed run) :
    Action.Ends (deleteSubnet changed change) run
      (KeepingRun home management c d adds deletes) fun _ _ => True := by
  obtain ⟨h, hfits⟩ := h
  apply (ends_deleteSubnet changed change run).mono
  · intro changed' run' hend
    cases hend with
    | unnamed hport hchanged hstate =>
      rw [KeepingRun, hstate]
      exact ⟨h, hfits⟩
    | lost id p q hport hloses hmatches hchanged hrecords =>
      have hplaces := hloses.amended.places h.recorded.sound fun p => by simp [place]
      refine ⟨h.of_places (hloses.sound h.recorded.sound) hloses.sameNetworks
        hloses.amended.keepsInstances hplaces hrecords, ?_⟩
      rwa [hplaces]
  · exact fun _ _ _ => trivial

theorem ends_deleteNic_keeping (hinstance : amphora.instanceId = c)
    (hhosted : d.substrate.plugged.contains c) {changed : ChangedPorts} {nic : Interface}
    (h : KeepingRun home management c d adds (nic :: deletes) changed run) :
    Action.Ends (deleteNic amphora changed nic) run
      (KeepingRun home management c d adds deletes) fun _ _ => True := by
  obtain ⟨h, hfits⟩ := h
  obtain ⟨hnetwork, id, hport, hid⟩ := hfits.deleted nic List.mem_cons_self
  apply (ends_deleteNic amphora changed nic run).mono
  · intro changed' run' hend
    obtain ⟨-, hend⟩ := hend
    rw [hinstance] at hend
    obtain ⟨hrecorded, hplaces⟩ :=
      h.recorded.nicDeleted hend (h.instances c hhosted) hport hnetwork hid
    refine ⟨⟨hrecorded, h.sameNetworks.trans hend.removal.sameNetworks, ?_, ?_⟩, ?_⟩
    · exact fun c' hc' => hend.removal.keepsInstances c' (h.instances c' hc')
    · intro c' hc'
      rw [hplaces, if_neg hc', h.others c' hc']
    · rw [hplaces, if_pos rfl]
      exact hfits.next_deleted
  · exact fun _ _ _ => trivial

/-- Applying a delta that fits its instance keeps records and places the same. -/
theorem ends_apply_keeping (hhome : Function.Injective home)
    (hcompute : amphora.computeId = some c) (hc : home amphora.id = c)
    (hrecorded : Recorded home management run.state)
    (hhosted : run.state.substrate.plugged.contains c)
    (hfits : Fitting management delta.addNics delta.deleteNics (run.state.substrate.places c)) :
    Action.Ends (delta.apply amphora) run
      (fun _ run' => Keeping home management c run.state run'.state) fun _ _ => True := by
  have hstart : KeepingRun home management c run.state delta.addNics delta.deleteNics .empty run :=
    ⟨⟨hrecorded, .refl _, fun _ h => h, fun _ _ => rfl⟩, hfits⟩
  have hadd := @Ends.foldlM _ _ _ _ _
    (fun adds => KeepingRun home management c run.state adds delta.deleteNics) _
    fun _ _ _ _ => ends_addNic_keeping hhome hcompute hc
  have hdelete := @Ends.foldlM _ _ _ _ _ (KeepingRun home management c run.state []) _
    fun _ _ _ _ => ends_deleteNic_keeping (Amphora.instanceId_eq hcompute) hhosted
  refine (hadd _ _ _ hstart).bind ?_ fun _ _ h => h
  intro changed run₁ h₁
  refine (Ends.foldlM_mem (fun _ _ _ _ h => ends_addSubnet_keeping h) h₁).bind ?_ fun _ _ h => h
  intro changed run₂ h₂
  refine (Ends.foldlM_mem (fun _ _ _ _ h => ends_deleteSubnet_keeping h) h₂).bind ?_ fun _ _ h => h
  intro changed run₃ h₃
  refine (hdelete _ _ _ h₃).bind ?_ fun _ _ h => h
  intro changed run₄ h₄
  exact ends_pure h₄.1

end Delta

end AmphoraWiring
