import AmphoraWiring.Proofs.Substrate.Views

/-!
What two states of a substrate have in common when only certain ports were touched in between.
Work that makes ports, plugs them in and removes them again leaves everything else as it was; once
the ports that it touched are gone, and if they were not there before, nothing of it can be seen.
-/
namespace AmphoraWiring.Substrate

variable {s t u : Substrate} {ids ids' : List String}

/-- Only the ports under the ids may differ, and every instance lists the same ports beside
them. -/
structure SameBut (ids : List String) (s t : Substrate) : Prop where
  ports : ∀ id, id ∉ ids → t.ports.get? id = s.ports.get? id
  plugged : ∀ c, (t.plugged.get? c).map (·.filter (· ∉ ids)) =
    (s.plugged.get? c).map (·.filter (· ∉ ids))
  securityGroups : t.securityGroups = s.securityGroups

/-- Ports, instances and security groups are as they were. -/
structure Restored (s t : Substrate) : Prop where
  ports : t.ports = s.ports
  plugged : t.plugged = s.plugged
  securityGroups : t.securityGroups = s.securityGroups

/-- There is no port under the id, and no instance lists it. -/
structure Absent (s : Substrate) (id : String) : Prop where
  port : s.ports.get? id = none
  unplugged : ∀ c, id ∉ s.pluggedPortIds c

namespace SameBut

theorem refl (ids : List String) (s : Substrate) : SameBut ids s s :=
  ⟨fun _ _ => rfl, fun _ => rfl, rfl⟩

theorem trans (h : SameBut ids s t) (h' : SameBut ids t u) : SameBut ids s u :=
  ⟨fun id hid => (h'.ports id hid).trans (h.ports id hid),
    fun c => (h'.plugged c).trans (h.plugged c), h'.securityGroups.trans h.securityGroups⟩

theorem mono (h : SameBut ids s t) (hsub : ids ⊆ ids') : SameBut ids' s t := by
  constructor
  case ports => exact fun id hid => h.ports id fun hmem => hid (hsub hmem)
  case plugged =>
    intro c
    have hfilter : ∀ l : List String,
        (l.filter (· ∉ ids)).filter (· ∉ ids') = l.filter (· ∉ ids') := by
      intro l
      rw [List.filter_filter]
      apply List.filter_congr
      intro id _
      by_cases hid : id ∈ ids
      · simp [hid, hsub hid]
      · simp [hid]
    have heq := congrArg (Option.map (·.filter (· ∉ ids'))) (h.plugged c)
    simpa only [Option.map_map, Function.comp_def, hfilter] using heq
  case securityGroups => exact h.securityGroups

/-- Where no list of an instance has changed. -/
theorem of_ports (hports : ∀ id, id ∉ ids → t.ports.get? id = s.ports.get? id)
    (hplugged : t.plugged = s.plugged) (hgroups : t.securityGroups = s.securityGroups) :
    SameBut ids s t :=
  ⟨hports, fun c => by rw [hplugged], hgroups⟩

theorem of_heard (h : s.Heard t) : SameBut ids s t := by
  obtain ⟨calls, faults, rfl, -⟩ := h
  exact of_ports (fun _ _ => rfl) rfl rfl

theorem of_allocating {subnetIds : List String} (h : s.Allocating t subnetIds) :
    SameBut ids s t := by
  obtain ⟨m, rfl, -⟩ := h
  exact of_ports (fun _ _ => rfl) rfl rfl

theorem of_serving {request : PortRequest} (h : s.Serving t request) : SameBut ids s t := by
  obtain ⟨subnetIds, hallocating, -⟩ := h
  exact of_allocating hallocating

theorem of_addPort {p : Port} (hid : p.id ∈ ids) : SameBut ids s (s.addPort p) := by
  refine of_ports (fun id hmem => ?_) rfl rfl
  have hne : id ≠ p.id := fun heq => hmem (heq ▸ hid)
  exact (IdMap.get?_insert _ _ _ _).trans (if_neg hne)

theorem of_amend {id : String} (hid : id ∈ ids) (f : Port → Port) :
    SameBut ids s (s.amend id f) := by
  refine of_ports (fun k hmem => ?_) rfl rfl
  have hne : k ≠ id := fun heq => hmem (heq ▸ hid)
  exact (IdMap.get?_modify _ _ _ _).trans (if_neg hne)

/-- A list that is written anew for an instance is the old one but for the ids. -/
theorem of_relisted {c : String} {l : List String}
    (hports : ∀ id, id ∉ ids → t.ports.get? id = s.ports.get? id)
    (hplugged : t.plugged = s.plugged.insert c l) (hgroups : t.securityGroups = s.securityGroups)
    (hhosted : s.plugged.contains c)
    (hl : l.filter (· ∉ ids) = (s.pluggedPortIds c).filter (· ∉ ids)) : SameBut ids s t := by
  refine ⟨hports, fun c' => ?_, hgroups⟩
  rw [hplugged, IdMap.get?_insert]
  split
  next heq =>
    obtain ⟨old, hold⟩ := IdMap.contains_iff.mp hhosted
    have hids : s.pluggedPortIds c = old := by simp [Substrate.pluggedPortIds, hold]
    rw [heq, hold, Option.map_some, Option.map_some, hl, hids]
  next => rfl

theorem of_attach {c id : String} (hid : id ∈ ids) (hhosted : s.plugged.contains c) :
    SameBut ids s (s.attach c id) := by
  refine of_relisted (c := c) (fun k hmem => ?_) rfl rfl hhosted ?_
  · have hne : k ≠ id := fun heq => hmem (heq ▸ hid)
    exact (IdMap.get?_modify _ _ _ _).trans (if_neg hne)
  · split
    · rfl
    · simp [hid]

theorem of_detach {c networkId : String} (hids : ∀ id ∈ s.idsOn c networkId, id ∈ ids)
    (hhosted : s.plugged.contains c) : SameBut ids s (s.detach c networkId) := by
  refine of_relisted (c := c) (fun k hmem => ?_) rfl rfl hhosted ?_
  · rw [get?_ports_detach, if_neg fun hon => hmem (hids k hon)]
  · rw [List.filter_filter]
    apply List.filter_congr
    intro id _
    by_cases hid : id ∈ ids
    · simp [hid]
    · have hnot : id ∉ s.idsOn c networkId := fun hon => hid (hids id hon)
      simp [hid, hnot]

theorem of_removePort {id : String} (hid : id ∈ ids) : SameBut ids s (s.removePort id) := by
  constructor
  case ports =>
    intro k hmem
    have hne : k ≠ id := fun heq => hmem (heq ▸ hid)
    rw [get?_ports_removePort, if_neg hne]
  case plugged =>
    intro c
    have hfilter : ∀ l : List String,
        (l.filter (· ≠ id)).filter (· ∉ ids) = l.filter (· ∉ ids) := by
      intro l
      rw [List.filter_filter]
      apply List.filter_congr
      intro k _
      by_cases hk : k = id
      · simp [hk, hid]
      · simp [hk]
    unfold removePort
    rw [IdMap.get?_map, Option.map_map]
    cases s.plugged.get? c with
    | none => rfl
    | some l => exact congrArg some (hfilter l)
  case securityGroups => rfl

/-- A new port on an instance that is there is the only difference. -/
theorem of_adopts {request : PortRequest} {c : String} {p : Port}
    (h : s.Adopts t request c p) (hhosted : s.plugged.contains c) : SameBut [p.id] s t := by
  obtain ⟨u, hserving, hheard⟩ := h.result
  have hhosted' : (u.addPort p).plugged.contains c := by
    obtain ⟨subnetIds, ⟨m, rfl, -⟩, -⟩ := hserving
    exact hhosted
  have hadded : SameBut [p.id] s (u.addPort p) :=
    (of_serving hserving).trans (of_addPort (List.mem_singleton_self _))
  exact hadded.trans ((of_attach (List.mem_singleton_self _) hhosted').trans (of_heard hheard))

theorem of_gains {id subnetId : String} {p : Port} {ips : List FixedIp}
    (h : s.Gains t id subnetId p ips) : SameBut [id] s t := by
  obtain ⟨u, hallocating, hheard⟩ := h.result
  have hamended : SameBut [id] s (u.amend id fun p => p.addIps ips) :=
    (of_allocating hallocating).trans (of_amend (List.mem_singleton_self _) _)
  exact hamended.trans (of_heard hheard)

/-- Beside the ports that may differ an instance lists the same ones in the same order. -/
theorem pluggedPortIds (h : SameBut ids s t) (c : String) :
    (t.pluggedPortIds c).filter (· ∉ ids) = (s.pluggedPortIds c).filter (· ∉ ids) := by
  have heq := h.plugged c
  unfold Substrate.pluggedPortIds
  cases hold : s.plugged.get? c <;> cases hnew : t.plugged.get? c <;> rw [hold, hnew] at heq
  case none.some => cases heq
  case some.none => cases heq
  case some.some old new => exact Option.some.inj heq

theorem idsOn_subset (h : SameBut ids s t) {c networkId : String}
    (hs : s.idsOn c networkId ⊆ ids) : t.idsOn c networkId ⊆ ids := by
  intro id hid
  by_contra hnot
  obtain ⟨hlisted, p, hget, hnet⟩ := mem_idsOn.mp hid
  rw [h.ports id hnot] at hget
  have hkept : id ∈ (t.pluggedPortIds c).filter (· ∉ ids) :=
    List.mem_filter.mpr ⟨hlisted, by simpa using hnot⟩
  rw [h.pluggedPortIds] at hkept
  exact hnot (hs (mem_idsOn.mpr ⟨List.mem_of_mem_filter hkept, p, hget, hnet⟩))

/-- Where the ports are gone, instances list what they listed without them. -/
theorem pluggedPortIds_eq (h : SameBut ids s t) (ht : ∀ id ∈ ids, t.Absent id) (c : String) :
    t.pluggedPortIds c = (s.pluggedPortIds c).filter (· ∉ ids) := by
  rw [← h.pluggedPortIds, eq_comm, List.filter_eq_self]
  intro id hid
  simpa using fun hmem => (ht id hmem).unplugged c hid

/-- Once the ports that may differ are gone, the instance has the ports it had. -/
theorem portsOn_eq (h : SameBut ids s t) (ht : ∀ id ∈ ids, t.Absent id) (hs : s.Sound)
    {c networkId : String} (hother : ∀ p ∈ s.portsOn c networkId, p.id ∉ ids) :
    t.portsOn c networkId = s.portsOn c networkId := by
  have hget : ∀ l : List String, (l.filter (· ∉ ids)).filterMap t.ports.get? =
      (l.filterMap s.ports.get?).filter fun p => p.id ∉ ids := by
    intro l
    rw [List.filterMap_filter, List.filter_filterMap]
    apply List.filterMap_congr
    intro id _
    by_cases hid : id ∈ ids
    · cases hold : s.ports.get? id with
      | none => simp [hid]
      | some p => simp [hid, hs.own_id hold, Option.filter]
    · rw [if_pos (by simpa using hid), h.ports id hid]
      cases hold : s.ports.get? id with
      | none => rfl
      | some p => simp [hid, hs.own_id hold, Option.filter]
  unfold Substrate.portsOn Substrate.pluggedPorts
  rw [h.pluggedPortIds_eq ht, hget, List.filter_filter]
  apply List.filter_congr
  intro p hp
  by_cases hnet : p.networkId = networkId
  · have hnot : p.id ∉ ids :=
      hother p (List.mem_filter.mpr ⟨hp, decide_eq_true hnet⟩)
    simp [hnet, hnot]
  · simp [hnet]

/-- Ports that are there on neither side leave no trace. -/
theorem restored (h : SameBut ids s t) (hs : ∀ id ∈ ids, s.Absent id)
    (ht : ∀ id ∈ ids, t.Absent id) : s.Restored t := by
  have hall : ∀ {r : Substrate} {c l}, (∀ id ∈ ids, r.Absent id) → r.plugged.get? c = some l →
      l.filter (· ∉ ids) = l := by
    intro r c l hr hl
    rw [List.filter_eq_self]
    intro id hid
    have hmem : id ∈ r.pluggedPortIds c := by simpa [Substrate.pluggedPortIds, hl] using hid
    simpa using fun hin => (hr id hin).unplugged c hmem
  constructor
  case ports =>
    apply IdMap.ext_get?
    intro id
    by_cases hid : id ∈ ids
    · rw [(ht id hid).port, (hs id hid).port]
    · exact h.ports id hid
  case plugged =>
    apply IdMap.ext_get?
    intro c
    have heq := h.plugged c
    cases hold : s.plugged.get? c <;> cases hnew : t.plugged.get? c <;> rw [hold, hnew] at heq
    case none.some => cases heq
    case some.none => cases heq
    case some.some old new =>
      rwa [Option.map_some, Option.map_some, hall hs hold, hall ht hnew] at heq
  case securityGroups => exact h.securityGroups

end SameBut

namespace Absent

variable {id : String}

/-- An id without a port is listed nowhere, where ids and ports agree. -/
theorem of_new (hs : s.Sound) (hnew : s.ports.get? id = none) : s.Absent id :=
  ⟨hnew, hs.not_plugged hnew⟩

theorem of_eq (h : s.Absent id) (hports : t.ports = s.ports) (hplugged : t.plugged = s.plugged) :
    t.Absent id := by
  refine ⟨hports ▸ h.port, fun c => ?_⟩
  unfold pluggedPortIds
  rw [hplugged]
  exact h.unplugged c

theorem heard (h : s.Absent id) (hheard : s.Heard t) : t.Absent id :=
  h.of_eq hheard.ports hheard.plugged

theorem of_removePort (s : Substrate) (id : String) : (s.removePort id).Absent id := by
  refine ⟨?_, fun c => ?_⟩
  · rw [get?_ports_removePort, if_pos rfl]
  · simp [pluggedPortIds_removePort]

theorem removePort (h : s.Absent id) (removed : String) : (s.removePort removed).Absent id := by
  refine ⟨?_, fun c hmem => ?_⟩
  · rw [get?_ports_removePort, h.port, ite_self]
  · rw [pluggedPortIds_removePort] at hmem
    exact h.unplugged c (List.mem_of_mem_filter hmem)

theorem detach (h : s.Absent id) (c networkId : String) : (s.detach c networkId).Absent id := by
  refine ⟨?_, fun c' hmem => ?_⟩
  · rw [get?_ports_detach, h.port, Option.map_none, ite_self]
  · rw [pluggedPortIds_detach] at hmem
    split at hmem
    next heq => exact h.unplugged c (List.mem_of_mem_filter hmem)
    next => exact h.unplugged c' hmem

end Absent

end AmphoraWiring.Substrate
