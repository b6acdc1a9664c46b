import AmphoraWiring.Proofs.Saga.Reports
import AmphoraWiring.Proofs.Saga.Retraction

/-!
Which port is made for which new interface. While a delta is applied, every port that is made is
counted under the network of its interface and stays there to the end, whichever ports are plugged
in elsewhere. So each interface that a computed delta adds leads to the port that was made for it,
and the ports are made in the order of the interfaces.
-/
namespace AmphoraWiring

open Action Substrate

namespace Substrate

variable {s t : Substrate} {id : String} {p : Port}

/-- The port is still there, and on the same network. -/
def Keeps (t : Substrate) (id networkId : String) : Prop :=
  ∃ p, t.ports.get? id = some p ∧ p.networkId = networkId

/-- A port that is there is kept when another one is made. -/
theorem Adopts.keeps {request : PortRequest} {c : String} {q : Port}
    (h : s.Adopts t request c q) (hs : s.Sound) (hp : s.ports.get? id = some p) :
    t.Keeps id p.networkId := by
  have hne : id ≠ q.id := by
    rintro rfl
    rw [h.is_new hs] at hp
    cases hp
  exact ⟨p, by rw [h.get?, if_neg hne, hp], rfl⟩

theorem Amended.keeps {k : String} {f : Port → Port} (h : s.Amended t k f)
    (hnet : ∀ p, (f p).networkId = p.networkId) (hp : s.ports.get? id = some p) :
    t.Keeps id p.networkId := by
  rw [Keeps, h.get?, hp]
  split
  · exact ⟨f p, rfl, hnet p⟩
  · exact ⟨p, rfl, rfl⟩

theorem Detached.keeps {c networkId : String} (h : s.Detached t c networkId)
    (hp : s.ports.get? id = some p) : t.Keeps id p.networkId := by
  unfold Keeps
  rcases h with h | ⟨h, -⟩
  · rw [h.ports, get?_ports_detach, hp]
    split
    · exact ⟨_, rfl, rfl⟩
    · exact ⟨p, rfl, rfl⟩
  · rw [h.ports, hp]
    exact ⟨p, rfl, rfl⟩

/-- A port is kept when an interface with another one is removed. -/
theorem Removal.keeps {c networkId : String} {portId : Option String}
    (h : s.Removal t c networkId portId) (hp : s.ports.get? id = some p) (hid : portId ≠ some id) :
    t.Keeps id p.networkId := by
  obtain ⟨u, hdetached, hremoved⟩ := h
  obtain ⟨q, hq, hnet⟩ := hdetached.keeps hp
  rcases hremoved with hheard | ⟨removed, hremoved, hheard⟩
  · exact ⟨q, hheard.ports ▸ hq, hnet⟩
  · have hne : id ≠ removed := fun heq => hid (heq ▸ hremoved)
    exact ⟨q, by rw [hheard.ports, get?_ports_removePort, if_neg hne, hq], hnet⟩

end Substrate

namespace Delta

variable {delta : Delta} {done : List Interface} {start s t : Substrate}
  {changed changed' : ChangedPorts}

/-- The delta is being applied since `start`, and ports have been made for the interfaces in
`done`. Those that were there before are still there, unless the delta removes them. -/
structure Making (delta : Delta) (done : List Interface) (start : Substrate)
    (changed : ChangedPorts) (s : Substrate) : Prop where
  sound : s.Sound
  later : start.Later s
  kept : ∀ {id p}, start.ports.get? id = some p →
    (∀ nic ∈ delta.deleteNics, nic.portId ≠ some id) → s.Keeps id p.networkId
  counted : ∀ {networkId q}, changed.get? networkId = some q →
    q.networkId = networkId ∧ s.Keeps q.id networkId
  made : done.map (fun nic => countedOn changed nic.networkId) = (start.newIds s).map some

theorem making_start (hs : s.Sound) : delta.Making [] s .empty s where
  sound := hs
  later := .refl s
  kept := fun hp _ => ⟨_, hp, rfl⟩
  counted := by
    intro networkId q hq
    cases hq
  made := by simp

namespace Making

/-- A change that makes no port, and of those that are counted touches one on the network alone. -/
theorem next (h : delta.Making done start changed s) (ht : t.Sound) (hlater : s.Later t)
    (hdrawn : t.drawn = s.drawn) (networkId : String)
    (hkept : ∀ {id p}, s.ports.get? id = some p →
      (p.networkId ≠ networkId ∨ ∀ nic ∈ delta.deleteNics, nic.portId ≠ some id) →
        t.Keeps id p.networkId)
    (hold : ∀ n ≠ networkId, changed'.get? n = changed.get? n)
    (hnew : ∀ q, changed'.get? networkId = some q →
      q.networkId = networkId ∧ t.Keeps q.id networkId)
    (hmade : ∀ nic ∈ done, nic.networkId = networkId →
      countedOn changed' networkId = countedOn changed networkId) :
    delta.Making done start changed' t where
  sound := ht
  later := h.later.trans hlater
  kept := by
    intro id p hp hnot
    obtain ⟨q, hq, hnet⟩ := h.kept hp hnot
    exact hnet ▸ hkept hq (.inr hnot)
  counted := by
    intro n q hq
    by_cases hn : n = networkId
    · subst hn
      exact hnew q hq
    · rw [hold n hn] at hq
      obtain ⟨hqnet, p, hp, hnet⟩ := h.counted hq
      exact ⟨hqnet, hnet ▸ hkept hp (.inl (hnet ▸ hn))⟩
  made := by
    rw [newIds_congr hdrawn, ← h.made]
    apply List.map_congr_left
    intro nic hnic
    by_cases hn : nic.networkId = networkId
    · exact hn ▸ hmade nic hnic hn
    · unfold countedOn
      rw [hold _ hn]

/-- Each interface that is added leads to one more port. -/
theorem nicAdded {amphora : Amphora} {nic : Interface} {c : String} {p q : Port}
    (h : delta.Making done start changed s) (hother : ∀ n ∈ done, n.networkId ≠ nic.networkId)
    (hadopts : s.Adopts t (portRequest amphora nic) c p) (hfilled : p.Matches q) :
    delta.Making (done ++ [nic]) start (changed.insert q.networkId q) t := by
  have hnet : q.networkId = nic.networkId := hfilled.networkId.trans hadopts.created.network
  have hnew : start.newIds t = start.newIds s ++ [p.id] := by
    have hdrawn := hadopts.drawn
    rw [newIds_append h.later.drawn (by omega), newIds_of_drawn_succ hdrawn, hadopts.created.id]
  constructor
  case sound => exact hadopts.sound h.sound
  case later => exact h.later.trans hadopts.later
  case kept =>
    intro id p' hp' hnot
    obtain ⟨q', hq', hnet'⟩ := h.kept hp' hnot
    exact hnet' ▸ hadopts.keeps h.sound hq'
  case counted =>
    intro n q' hq'
    rw [IdMap.get?_insert] at hq'
    split at hq'
    next heq =>
      cases hq'
      refine ⟨heq.symm, { p with deviceId := some c }, ?_, ?_⟩
      · rw [hfilled.id, hadopts.get?, if_pos rfl]
      · exact (hfilled.networkId.symm.trans heq.symm)
    next =>
      obtain ⟨hqnet, p', hp', hnet'⟩ := h.counted hq'
      exact ⟨hqnet, hnet' ▸ hadopts.keeps h.sound hp'⟩
  case made =>
    rw [hnew, List.map_append, List.map_append, ← h.made]
    congr 1
    · apply List.map_congr_left
      intro n hn
      rw [countedOn_insert, if_neg (hnet ▸ hother n hn)]
    · simp [countedOn_insert, hnet, hfilled.id]

/-- A port on the network that changes its addresses is counted there. -/
theorem amended {id networkId : String} {f : Port → Port} {p q : Port}
    (h : delta.Making done start changed s) (hamended : s.Amended t id f) (ht : t.Sound)
    (hid : ∀ p, (f p).id = p.id) (hnet : ∀ p, (f p).networkId = p.networkId)
    (hp : s.ports.get? id = some p) (hon : p.networkId = networkId) (hmatches : (f p).Matches q)
    (hmade : ∀ nic ∈ done, nic.networkId = networkId → countedOn changed networkId = some id) :
    delta.Making done start (changed.insert networkId q) t := by
  have hqid : q.id = id := hmatches.id.trans ((hid p).trans (h.sound.own_id hp))
  refine h.next ht (hamended.later hnet) hamended.drawn networkId
    (fun hp' _ => hamended.keeps hnet hp') ?_ ?_ ?_
  · intro n hn
    rw [IdMap.get?_insert, if_neg hn]
  · intro q' hq'
    rw [IdMap.get?_insert_self] at hq'
    cases hq'
    refine ⟨hmatches.networkId.trans ((hnet p).trans hon), ?_⟩
    rw [hqid, ← hon]
    exact hamended.keeps hnet hp
  · intro nic hnic hn
    rw [countedOn_insert, if_pos rfl, hmade nic hnic hn, hqid]

/-- A port that gains a subnet keeps its network, and none is made. -/
theorem subnetAdded {d d' : Deployment} {change : SubnetChange}
    (h : delta.Making delta.addNics start changed d.substrate) (horderly : delta.Orderly start)
    (hchange : change ∈ delta.addSubnets) (hadded : SubnetAdded changed change d changed' d') :
    delta.Making delta.addNics start changed' d'.substrate := by
  cases hadded with
  | present q hport hsubnet hchanged hstate =>
    subst hchanged hstate
    exact h
  | gained id p ips q htarget hgains hmatches hchanged hrecords habsent =>
    subst hchanged
    refine h.amended hgains.amended (hgains.sound h.sound) (fun _ => rfl) (fun _ => rfl)
      hgains.port ?_ hmatches ?_
    · rw [SubnetChange.target, Option.or_eq_some_iff] at htarget
      rcases htarget with hnamed | ⟨-, hcounted⟩
      · exact (h.later.onlyOn (horderly.placed.changed change
          (List.mem_append_left _ hchange) id hnamed)).network hgains.port
      · obtain ⟨q', hq', rfl⟩ := Option.map_eq_some_iff.mp hcounted
        obtain ⟨-, p', hp', hnet⟩ := h.counted hq'
        rw [hgains.port] at hp'
        cases hp'
        exact hnet
    · -- on the network of a new interface it is the new port that gains the address
      intro nic hnic hnet
      rwa [SubnetChange.target, horderly.unnamed nic hnic change hchange hnet.symm,
        Option.none_or] at htarget

/-- A port that loses a subnet keeps its network, and none is made. -/
theorem subnetDeleted {d d' : Deployment} {change : SubnetChange}
    (h : delta.Making delta.addNics start changed d.substrate) (horderly : delta.Orderly start)
    (hchange : change ∈ delta.deleteSubnets)
    (hdeleted : SubnetDeleted changed change d changed' d') :
    delta.Making delta.addNics start changed' d'.substrate := by
  cases hdeleted with
  | unnamed hport hchanged hstate =>
    subst hchanged hstate
    exact h
  | lost id p q hport hloses hmatches hchanged hrecords =>
    have hnet := fun p : Port => Port.release_networkId p change.subnetId
      (d.substrate.keepsAddresses change.subnetId)
    have hother : ∀ nic ∈ delta.addNics, nic.networkId ≠ change.networkId :=
      fun nic hnic => horderly.kept nic hnic change hchange
    rw [hchanged]
    split
    next =>
      exact h.next (hloses.sound h.sound) (hloses.amended.later hnet) hloses.amended.drawn
        change.networkId (fun hp' _ => hloses.amended.keeps hnet hp') (fun _ _ => rfl)
        (fun q' hq' => by
          obtain ⟨hqnet, p', hp', hp'net⟩ := h.counted hq'
          exact ⟨hqnet, hp'net ▸ hloses.amended.keeps hnet hp'⟩)
        fun nic hnic hn => absurd hn (hother nic hnic)
    next =>
      exact h.amended hloses.amended (hloses.sound h.sound) (fun _ => Port.release_id _ _ _) hnet
        hloses.port ((h.later.onlyOn (horderly.placed.changed change
          (List.mem_append_right _ hchange) id hport)).network hloses.port) hmatches
        fun nic hnic hn => absurd hn (hother nic hnic)

/-- No interface that is removed is a new one. -/
theorem nicDeleted {c : String} {nic : Interface}
    (h : delta.Making delta.addNics start changed s) (horderly : delta.Orderly start)
    (hnic : nic ∈ delta.deleteNics) (hremoval : s.Removal t c nic.networkId nic.portId) :
    delta.Making delta.addNics start (changed.erase nic.networkId) t := by
  refine h.next (hremoval.sound h.sound) hremoval.later hremoval.drawn nic.networkId ?_ ?_ ?_ ?_
  · intro id p hp hwhy
    refine hremoval.keeps hp fun hid => ?_
    rcases hwhy with hnet | hnot
    · exact hnet ((h.later.onlyOn (horderly.placed.deleted nic hnic id hid)).network hp)
    · exact hnot nic hnic hid
  · intro n hn
    rw [IdMap.get?_erase, if_neg hn]
  · intro q hq
    rw [IdMap.get?_erase, if_pos rfl] at hq
    cases hq
  · exact fun n hn heq => absurd heq (horderly.stays n hn nic hnic)

end Making

/-- The ports for all new interfaces of the delta have been made since `start`. -/
def AllMade (delta : Delta) (start : Substrate) (changed : ChangedPorts)
    (run : Run Deployment) : Prop :=
  delta.Making delta.addNics start changed run.state.substrate

/-- A delta that is applied makes a port for each of its new interfaces. -/
theorem ends_apply_making {run : Run Deployment} (amphora : Amphora)
    (hs : run.state.substrate.Sound) (horderly : delta.Orderly run.state.substrate) :
    Action.Ends (delta.apply amphora) run
      (fun ports run' => ∃ changed, ports = changed.values ∧
        delta.AllMade run.state.substrate changed run') fun _ _ => True := by
  have hnics : Action.Ends (delta.addNics.foldlM (addNic amphora) .empty) run
      (delta.AllMade run.state.substrate) fun _ _ => True := by
    refine Ends.foldlM_done (fun done changed (run' : Run Deployment) =>
      delta.Making done run.state.substrate changed run'.state.substrate) ?_ (making_start hs)
    intro done nic rest hsplit changed run₁ h
    apply (ends_addNic amphora changed nic run₁).mono
    · intro changed' run₂ hend
      obtain ⟨c, p, q, hadded⟩ := hend
      have hdistinct := horderly.distinct
      rw [hsplit, List.map_append, List.map_cons, List.nodup_append] at hdistinct
      rw [hadded.counted]
      exact h.nicAdded (fun n hn => hdistinct.2.2 _ (List.mem_map_of_mem hn) _ List.mem_cons_self)
        hadded.adopts hadded.filled
    · exact fun _ _ _ => trivial
  refine hnics.bind ?_ (fun _ _ h => h)
  intro changed₁ run₁ h₁
  refine (Ends.foldlM_mem ?_ h₁).bind ?_ (fun _ _ h => h)
  · intro change hchange changed run₂ h
    exact (ends_addSubnet changed change run₂).mono
      (fun _ _ hadded => h.subnetAdded horderly hchange hadded) fun _ _ _ => trivial
  intro changed₂ run₂ h₂
  refine (Ends.foldlM_mem ?_ h₂).bind ?_ (fun _ _ h => h)
  · intro change hchange changed run₃ h
    exact (ends_deleteSubnet changed change run₃).mono
      (fun _ _ hdeleted => h.subnetDeleted horderly hchange hdeleted) fun _ _ _ => trivial
  intro changed₃ run₃ h₃
  refine (Ends.foldlM_mem ?_ h₃).bind ?_ (fun _ _ h => h)
  · intro nic hnic changed run₄ h
    apply (ends_deleteNic amphora changed nic run₄).mono
    · intro changed' run₅ hend
      obtain ⟨rfl, hdeleted⟩ := hend
      exact h.nicDeleted horderly hnic hdeleted.removal
    · exact fun _ _ _ => trivial
  exact fun changed₄ run₄ h₄ => ends_pure ⟨changed₄, rfl, h₄⟩

variable {start s t : Substrate} {changed : ChangedPorts} {run : Run Deployment}

theorem AllMade.portOf_values (h : delta.AllMade t changed run) (horderly : delta.Orderly s)
    {nic : Interface} (hnic : nic ∈ delta.addNics) :
    portOf changed.values nic = countedOn changed nic.networkId :=
  Delta.portOf_values (fun _ _ hq => (h.counted hq).1) (horderly.placed.added nic hnic)

/-- The new interfaces lead to the ports that were made, in the same order. -/
theorem AllMade.map_portOf (h : delta.AllMade t changed run) (horderly : delta.Orderly s) :
    delta.addNics.map (portOf changed.values) = (t.newIds run.state.substrate).map some := by
  rw [← h.made]
  exact List.map_congr_left fun nic hnic => h.portOf_values horderly hnic

/-- The new interfaces lead to the ports that were made, in order. -/
theorem AllMade.filterMap_portOf (h : delta.AllMade t changed run) (horderly : delta.Orderly s) :
    delta.addNics.filterMap (portOf changed.values) = t.newIds run.state.substrate := by
  calc
    _ = (delta.addNics.map (portOf changed.values)).filterMap id := by
      rw [List.filterMap_map]
      rfl
    _ = _ := by
      rw [h.map_portOf horderly, List.filterMap_map]
      exact List.filterMap_some

theorem AllMade.isSome_portOf (h : delta.AllMade t changed run) (horderly : delta.Orderly s)
    {nic : Interface} (hnic : nic ∈ delta.addNics) : (portOf changed.values nic).isSome := by
  have hmem := List.mem_map_of_mem (f := portOf changed.values) hnic
  rw [h.map_portOf horderly] at hmem
  obtain ⟨id, -, hid⟩ := List.mem_map.mp hmem
  rw [← hid]
  rfl

end Delta

/-! Several deltas -/

/-- A port that was made for a new interface of an instance. -/
structure MadePort where
  computeId : String
  networkId : String
  portId : String

namespace MadePort

open Delta

/-- The new interfaces of the deltas, each with its instance, in the order in which they are
added. -/
def interfaces (entries : List (String × Delta)) : List (String × String) :=
  entries.flatMap fun e => e.2.addNics.map fun nic => (e.2.computeId, nic.networkId)

/-- The ports that the new interfaces of a delta lead to among those that were given back. -/
def ofDelta (delta : Delta) (ports : List Port) : List MadePort :=
  delta.addNics.filterMap fun nic =>
    (portOf ports nic).map fun id => ⟨delta.computeId, nic.networkId, id⟩

def ofEntries (entries : List (String × Delta)) (changed : IdMap (List Port)) : List MadePort :=
  entries.flatMap fun e => ofDelta e.2 ((changed.get? e.1).getD [])

variable {delta : Delta} {start s t : Substrate} {ports : List Port}
  {entries : List (String × Delta)} {changed : IdMap (List Port)}

theorem portId_ofDelta (delta : Delta) (ports : List Port) :
    (ofDelta delta ports).map (·.portId) = delta.addNics.filterMap (portOf ports) := by
  rw [ofDelta, List.map_filterMap]
  apply List.filterMap_congr
  intro nic _
  cases portOf ports nic <;> rfl

theorem interface_ofDelta (h : ∀ nic ∈ delta.addNics, (portOf ports nic).isSome) :
    (ofDelta delta ports).map (fun m => (m.computeId, m.networkId)) =
      delta.addNics.map fun nic => (delta.computeId, nic.networkId) := by
  rw [ofDelta, List.map_filterMap, ← List.filterMap_eq_map]
  apply List.filterMap_congr
  intro nic hnic
  obtain ⟨id, hid⟩ := Option.isSome_iff_exists.mp (h nic hnic)
  simp [hid]

/-- Each new interface of the deltas leads to the port that was made for it since `s`. -/
structure Traced (entries : List (String × Delta)) (changed : IdMap (List Port))
    (s t : Substrate) : Prop where
  sound : t.Sound
  later : s.Later t
  found : ∀ e ∈ entries, ∀ nic ∈ e.2.addNics,
    (portOf ((changed.get? e.1).getD []) nic).isSome
  ids : (ofEntries entries changed).map (·.portId) = s.newIds t
  there : ∀ m ∈ ofEntries entries changed, t.Keeps m.portId m.networkId

theorem traced_start (hs : s.Sound) : Traced [] .empty s s where
  sound := hs
  later := .refl s
  found := by simp
  ids := by simp [ofEntries]
  there := by simp [ofEntries]

/-- One port was made for each new interface of the deltas, in order. -/
theorem Traced.interfaces (h : Traced entries changed s t) :
    (ofEntries entries changed).map (fun m => (m.computeId, m.networkId)) =
      interfaces entries := by
  rw [ofEntries, List.map_flatMap]
  exact List.flatMap_congr fun e he => interface_ofDelta (h.found e he)

/-- What is noted for an entry is not lost with the next one. -/
theorem get?_insert_of_new {e e' : String × Delta} (hnew : e.1 ∉ entries.map (·.1))
    (he' : e' ∈ entries) : (changed.insert e.1 ports).get? e'.1 = changed.get? e'.1 := by
  have hne : e'.1 ≠ e.1 := fun heq => hnew (heq ▸ List.mem_map_of_mem he')
  rw [IdMap.get?_insert, if_neg hne]

theorem ofEntries_concat {e : String × Delta} (hnew : e.1 ∉ entries.map (·.1))
    (changed : IdMap (List Port)) (ports : List Port) :
    ofEntries (entries ++ [e]) (changed.insert e.1 ports) =
      ofEntries entries changed ++ ofDelta e.2 ports := by
  unfold ofEntries
  rw [List.flatMap_append]
  congr 1
  · apply List.flatMap_congr
    intro e' he'
    rw [get?_insert_of_new hnew he']
  · simp

theorem Traced.next {e : String × Delta} {changedPorts : ChangedPorts} {run : Run Deployment}
    (h : Traced entries changed s t) (hnew : e.1 ∉ entries.map (·.1))
    (horderly : e.2.Orderly s) (hmade : e.2.AllMade t changedPorts run) :
    Traced (entries ++ [e]) (changed.insert e.1 changedPorts.values) s
      run.state.substrate := by
  have hlater := hmade.later
  have hports := ofEntries_concat hnew changed changedPorts.values
  constructor
  case sound => exact hmade.sound
  case later => exact h.later.trans hlater
  case found =>
    rw [forall_mem_concat_iff]
    refine ⟨fun e' he' => ?_, ?_⟩
    · rw [get?_insert_of_new hnew he']
      exact h.found e' he'
    · simpa using fun nic hnic => hmade.isSome_portOf horderly hnic
  case ids =>
    rw [hports, List.map_append, h.ids, portId_ofDelta, hmade.filterMap_portOf horderly,
      newIds_append h.later.drawn hlater.drawn]
  case there =>
    intro m hm
    rw [hports, List.mem_append] at hm
    rcases hm with hm | hm
    · -- a stale port was there before, so it is none of those that were made
      obtain ⟨p, hp, hnet⟩ := h.there m hm
      refine hnet ▸ hmade.kept hp fun nic hnic hid => ?_
      have hmem := List.mem_map_of_mem (f := (·.portId)) hm
      rw [h.ids] at hmem
      obtain ⟨n, hlow, -, heq⟩ := mem_newIds.mp hmem
      exact (horderly.placed.deleted nic hnic _ hid).drawn n hlow heq
    · obtain ⟨nic, hnic, hm⟩ := List.mem_filterMap.mp hm
      obtain ⟨id, hid, rfl⟩ := Option.map_eq_some_iff.mp hm
      rw [hmade.portOf_values horderly hnic] at hid
      obtain ⟨q, hq, rfl⟩ := Option.map_eq_some_iff.mp hid
      exact (hmade.counted hq).2

/-- The ports of one delta can be traced. -/
theorem ends_applyDelta_traced {run : Run Deployment} {amphoraId : String}
    (hs : run.state.substrate.Sound) (horderly : delta.Orderly run.state.substrate) :
    Action.Ends (Step.applyDelta amphoraId delta).execute run
      (fun changed run' => Traced [(amphoraId, delta)] changed run.state.substrate
        run'.state.substrate) fun _ _ => True := by
  refine (Deployment.ends_onRepository (Repository.ends_getAmphora amphoraId _)).bind ?_
    (fun _ _ _ => trivial)
  intro amphora run₁ hend
  obtain ⟨-, hsubstrate, -⟩ := hend
  rw [← hsubstrate] at hs horderly ⊢
  refine (ends_apply_making amphora hs horderly).bind ?_ (fun _ _ h => h)
  intro ports run₂ hend
  obtain ⟨changed, rfl, hmade⟩ := hend
  exact ends_pure ((traced_start hs).next List.not_mem_nil horderly hmade)

/-- The ports of several deltas can be traced. -/
theorem ends_applyDeltas_traced {run : Run Deployment} {loadBalancerId : String}
    {deltas : IdMap Delta} (hs : run.state.substrate.Sound)
    (horderly : ∀ e ∈ deltas.entries, e.2.Orderly run.state.substrate) :
    Action.Ends (Step.applyDeltas loadBalancerId deltas).execute run
      (fun changed run' => Traced deltas.entries changed run.state.substrate
        run'.state.substrate) fun _ _ => True := by
  refine (Deployment.ends_onRepository (Repository.ends_getLoadBalancer loadBalancerId _)).bind ?_
    (fun _ _ _ => trivial)
  intro lb run₁ hend
  obtain ⟨-, hsubstrate, -⟩ := hend
  have hbegin : Traced [] .empty run.state.substrate run₁.state.substrate := by
    rw [hsubstrate]
    exact traced_start hs
  refine Ends.foldlM_done (fun done changed (run' : Run Deployment) =>
    Traced done changed run.state.substrate run'.state.substrate) ?_ hbegin
  intro done e rest hsplit changed run₂ h
  have hnew : e.1 ∉ done.map (·.1) := IdMap.key_not_mem_of_entries_eq hsplit
  refine (ends_orFail _ _ run₂).bind ?_ (fun _ _ _ => trivial)
  intro amphora run₃ hend
  obtain ⟨rfl, -⟩ := hend
  have hdelta := horderly e (by simp [hsplit])
  refine (ends_apply_making amphora h.sound (hdelta.later h.later)).bind ?_ (fun _ _ h => h)
  intro ports run₄ hend
  obtain ⟨changedPorts, rfl, hmade⟩ := hend
  exact ends_pure (h.next hnew hdelta hmade)

end MadePort

end AmphoraWiring
