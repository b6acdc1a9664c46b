import AmphoraWiring.Proofs.Substrate.Addresses

/-!
How the base port of an amphora is found again. It is looked up by the id that the amphora names or
else by its name, the first one in the order of ids. So a port that is made for want of one is the
only one with its name, and plugging ports in changes nothing that the look-up sees.
-/
namespace AmphoraWiring

namespace IdMap

variable {α β : Type}

/-- A search that the change of a record does not affect finds the same before and after it. -/
theorem find?_values_modify (m : IdMap α) (id : String) {f : α → α} {q : α → Bool} {g : α → β}
    (hq : ∀ v, q (f v) = q v) (hg : ∀ v, g (f v) = g v) :
    ((m.modify id f).values.find? q).map g = (m.values.find? q).map g := by
  obtain ⟨l, hl⟩ := m
  simp only [values, modify]
  clear hl
  induction l with
  | nil => rfl
  | cons head rest ih =>
    by_cases hid : head.1 = id
    · simp only [List.map_cons, if_pos hid, List.find?_cons, hq]
      split
      · simp [hg]
      · exact ih
    · simp only [List.map_cons, if_neg hid, List.find?_cons]
      split
      · rfl
      · exact ih

/-- Where a search had found nothing it finds the record that is added. -/
theorem find?_values_insert (m : IdMap α) (id : String) {v : α} {q : α → Bool}
    (hnone : m.values.find? q = none) (hv : q v) : (m.insert id v).values.find? q = some v := by
  have hmem : v ∈ (m.insert id v).values := mem_values_iff.mpr ⟨id, get?_insert_self m id v⟩
  cases hfind : (m.insert id v).values.find? q with
  | none => exact absurd hv (List.find?_eq_none.mp hfind v hmem)
  | some w =>
    obtain ⟨k, hk⟩ := mem_values_iff.mp (List.mem_of_find?_eq_some hfind)
    rw [get?_insert] at hk
    split at hk
    · exact hk.symm
    next =>
      have hold : w ∈ m.values := mem_values_iff.mpr ⟨k, hk⟩
      exact absurd (List.find?_some hfind) (List.find?_eq_none.mp hnone w hold)

end IdMap

namespace Substrate

variable {s t : Substrate} {amphora : Amphora} {c id : String}

/-- A base port that is found by its name has it. -/
theorem byName_eq_some (h : basePortOf.byName s amphora = some id) :
    ∃ k p, s.ports.get? k = some p ∧ p.id = id ∧ p.name = basePortName amphora.id := by
  obtain ⟨p, hfind, hid⟩ := Option.map_eq_some_iff.mp h
  obtain ⟨k, hk⟩ := IdMap.mem_values_iff.mp (List.mem_of_find?_eq_some hfind)
  exact ⟨k, p, hk, hid, by simpa using List.find?_some hfind⟩

/-- The base port exists. -/
theorem contains_basePortOf (hown : ∀ {id p}, s.ports.get? id = some p → p.id = id)
    (h : s.basePortOf amphora = some id) : s.ports.contains id := by
  have hbyName : basePortOf.byName s amphora = some id → s.ports.contains id := by
    intro hfound
    obtain ⟨k, p, hp, rfl, -⟩ := byName_eq_some hfound
    rw [hown hp]
    exact IdMap.contains_iff.mpr ⟨p, hp⟩
  unfold basePortOf at h
  split at h
  next vrrp hnamed =>
    split at h
    next hcontains =>
      cases h
      exact hcontains
    next => exact hbyName h
  next => exact hbyName h

/-- Only ids and names of ports matter. -/
theorem basePortOf_congr (hcontains : ∀ id, t.ports.contains id = s.ports.contains id)
    (hname : basePortOf.byName t amphora = basePortOf.byName s amphora) :
    t.basePortOf amphora = s.basePortOf amphora := by
  unfold basePortOf
  simp only [hcontains, hname]

theorem basePortOf_attach (s : Substrate) (c id : String) (amphora : Amphora) :
    (s.attach c id).basePortOf amphora = s.basePortOf amphora := by
  apply basePortOf_congr
  · intro k
    change ((s.ports.modify id _).get? k).isSome = (s.ports.get? k).isSome
    rw [IdMap.get?_modify]
    split <;> simp
  · exact IdMap.find?_values_modify _ _ (fun _ => rfl) fun _ => rfl

/-- The base port that was made for want of one is found from then on. -/
theorem basePortOf_addPort {p : Port} (hnone : s.basePortOf amphora = none)
    (hname : p.name = basePortName amphora.id) :
    (s.addPort p).basePortOf amphora = some p.id := by
  have hbyName : basePortOf.byName s amphora = none →
      basePortOf.byName (s.addPort p) amphora = some p.id := by
    intro h
    have hfind := IdMap.find?_values_insert s.ports p.id (Option.map_eq_none_iff.mp h)
      (decide_eq_true hname)
    exact congrArg (Option.map (·.id)) hfind
  unfold basePortOf at hnone ⊢
  cases hvrrp : amphora.vrrpPortId with
  | none =>
    rw [hvrrp] at hnone
    exact hbyName hnone
  | some vrrp =>
    simp only [hvrrp] at hnone ⊢
    split at hnone
    · cases hnone
    next habsent =>
      -- the id that the amphora names may be the one that was drawn
      by_cases hid : vrrp = p.id
      · rw [if_pos (by simp [addPort, IdMap.contains, hid]), hid]
      · have hcontains : (s.addPort p).ports.contains vrrp = s.ports.contains vrrp := by
          change ((s.ports.insert p.id p).get? vrrp).isSome = (s.ports.get? vrrp).isSome
          rw [IdMap.get?_insert, if_neg hid]
        rw [hcontains, if_neg habsent]
        exact hbyName hnone

end Substrate

end AmphoraWiring
