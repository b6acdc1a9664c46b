import AmphoraWiring.IdMap
import Mathlib.Data.List.Induction
import Mathlib.Data.List.Nodup
import Mathlib.Data.List.Perm.Basic

/-!
The listings of a map, given through its look-ups: which pairs, ids and records are listed, and
which of several pairs with one id a map made from a list keeps.
-/
namespace AmphoraWiring.IdMap

variable {α β : Type}

theorem lookup_eq_some_iff {id : String} {v : α} {l : List (String × α)}
    (h : l.Pairwise fun a b => a.1 < b.1) : lookup id l = some v ↔ (id, v) ∈ l := by
  induction l with
  | nil => simp [lookup]
  | cons head rest ih =>
    obtain ⟨k, w⟩ := head
    obtain ⟨hk, hrest⟩ := List.pairwise_cons.mp h
    by_cases hid : k = id
    · subst hid
      have hnot : (k, v) ∉ rest := fun hmem => String.lt_irrefl k (hk _ hmem)
      simp [lookup, hnot, eq_comm]
    · simp [lookup, hid, ih hrest, Ne.symm hid]

theorem mem_entries_iff {m : IdMap α} {id : String} {v : α} :
    (id, v) ∈ m.entries ↔ m.get? id = some v :=
  (lookup_eq_some_iff m.ascending).symm

theorem mem_values_iff {m : IdMap α} {v : α} : v ∈ m.values ↔ ∃ id, m.get? id = some v := by
  simp only [values, List.mem_map, Prod.exists, mem_entries_iff]
  constructor
  · intro h
    obtain ⟨id, w, hget, rfl⟩ := h
    exact ⟨id, hget⟩
  · intro h
    obtain ⟨id, hget⟩ := h
    exact ⟨id, v, hget, rfl⟩

theorem mem_keys_iff {m : IdMap α} {id : String} : id ∈ m.keys ↔ ∃ v, m.get? id = some v := by
  simp only [keys, List.mem_map, Prod.exists, mem_entries_iff]
  constructor
  · intro h
    obtain ⟨k, v, hget, rfl⟩ := h
    exact ⟨v, hget⟩
  · intro h
    obtain ⟨v, hget⟩ := h
    exact ⟨id, v, hget, rfl⟩

theorem contains_iff {m : IdMap α} {id : String} : m.contains id ↔ ∃ v, m.get? id = some v :=
  Option.isSome_iff_exists

theorem contains_eq_false_iff {m : IdMap α} {id : String} :
    m.contains id = false ↔ m.get? id = none :=
  Option.isSome_eq_false_iff.trans Option.isNone_iff_eq_none

theorem insert_insert (m : IdMap α) (id : String) (v w : α) :
    (m.insert id v).insert id w = m.insert id w := by
  apply ext_get?
  intro k
  simp only [get?_insert]
  split <;> rfl

theorem get?_modify_self {m : IdMap α} {id : String} {v : α} (h : m.get? id = some v)
    (f : α → α) : (m.modify id f).get? id = some (f v) := by
  rw [get?_modify, if_pos rfl, h, Option.map_some]

theorem erase_of_get?_eq_none {m : IdMap α} {id : String} (h : m.get? id = none) :
    m.erase id = m := by
  apply ext_get?
  intro k
  rw [get?_erase]
  split
  next heq => rw [heq, h]
  next => rfl

theorem erase_insert (m : IdMap α) (id : String) (v : α) :
    (m.insert id v).erase id = m.erase id := by
  apply ext_get?
  intro k
  simp only [get?_erase, get?_insert]
  split <;> rfl

theorem ofList_concat (l : List (String × α)) (e : String × α) :
    ofList (l ++ [e]) = (ofList l).insert e.1 e.2 := by
  simp [ofList]

/-- Of several pairs with one id the last is kept. -/
theorem get?_ofList (l : List (String × α)) (id : String) :
    (ofList l).get? id = ((l.filter fun e => e.1 = id).getLast?).map (·.2) := by
  induction l using List.reverseRecOn with
  | nil => rfl
  | append_singleton l e ih =>
    rw [ofList_concat, get?_insert, List.filter_append]
    by_cases hid : e.1 = id
    · simp [hid]
    · simp [hid, Ne.symm hid, ih]

theorem get?_ofList_isSome_iff {l : List (String × α)} {id : String} :
    ((ofList l).get? id).isSome ↔ ∃ v, (id, v) ∈ l := by
  rw [get?_ofList, Option.isSome_map]
  constructor
  · intro h
    obtain ⟨⟨k, v⟩, hlast⟩ := Option.isSome_iff_exists.mp h
    have hmem := List.mem_filter.mp (List.mem_of_getLast? hlast)
    simp only [decide_eq_true_eq] at hmem
    obtain ⟨hmem, rfl⟩ := hmem
    exact ⟨v, hmem⟩
  · intro h
    obtain ⟨v, hmem⟩ := h
    rw [Option.isSome_iff_ne_none, Ne, List.getLast?_eq_none_iff]
    exact List.ne_nil_of_mem (List.mem_filter.mpr ⟨hmem, by simp⟩)

theorem mem_of_get?_ofList {l : List (String × α)} {id : String} {v : α}
    (h : (ofList l).get? id = some v) : (id, v) ∈ l := by
  rw [get?_ofList, Option.map_eq_some_iff] at h
  obtain ⟨⟨k, w⟩, hlast, rfl⟩ := h
  have hmem := List.mem_of_getLast? hlast
  simp only [List.mem_filter, decide_eq_true_eq] at hmem
  obtain ⟨hmem, rfl⟩ := hmem
  exact hmem

/-- Where the records are listed in ascending order, the greatest of those with the id is kept. -/
theorem le_of_get?_ofList {l : List (String × String)} (hl : l.Pairwise fun a b => a.2 ≤ b.2)
    {id v w : String} (h : (ofList l).get? id = some v) (hmem : (id, w) ∈ l) : w ≤ v := by
  induction l using List.reverseRecOn with
  | nil => cases hmem
  | append_singleton l e ih =>
    obtain ⟨hl, -, hle⟩ := List.pairwise_append.mp hl
    rw [ofList_concat, get?_insert] at h
    rcases List.mem_append.mp hmem with hmem | hmem
    · split at h
      next =>
        cases h
        exact hle _ hmem e List.mem_cons_self
      next => exact ih hl h hmem
    · cases List.mem_singleton.mp hmem
      rw [if_pos rfl] at h
      cases h
      exact String.le_refl w

theorem get?_ofList_eq_some_iff {l : List (String × String)}
    (hl : l.Pairwise fun a b => a.2 ≤ b.2) {id v : String} :
    (ofList l).get? id = some v ↔ (id, v) ∈ l ∧ ∀ w, (id, w) ∈ l → w ≤ v := by
  constructor
  · exact fun h => ⟨mem_of_get?_ofList h, fun w hmem => le_of_get?_ofList hl h hmem⟩
  · intro h
    obtain ⟨hmem, hle⟩ := h
    obtain ⟨w, hw⟩ := Option.isSome_iff_exists.mp (get?_ofList_isSome_iff.mpr ⟨v, hmem⟩)
    rw [hw, String.le_antisymm (hle w (mem_of_get?_ofList hw)) (le_of_get?_ofList hl hw hmem)]

theorem keys_ascending (m : IdMap α) : m.keys.Pairwise (· < ·) := List.pairwise_map.mpr m.ascending

theorem keys_nodup (m : IdMap α) : m.keys.Nodup := by
  apply m.keys_ascending.imp
  intro a b hlt heq
  rw [heq] at hlt
  exact String.lt_irrefl _ hlt

/-- A key is found at one place only among the entries. -/
theorem key_not_mem_of_entries_eq {m : IdMap α} {done rest : List (String × α)} {e : String × α}
    (h : m.entries = done ++ e :: rest) : e.1 ∉ done.map (·.1) := by
  have hnodup := m.keys_nodup
  rw [keys, h, List.map_append, List.map_cons, List.nodup_append] at hnodup
  exact fun hmem => hnodup.2.2 _ hmem _ List.mem_cons_self rfl

/-- A map made from pairs with different ids lists just these pairs, in the order of the ids. -/
theorem entries_ofList_perm {l : List (String × α)} (h : (l.map (·.1)).Nodup) :
    (ofList l).entries.Perm l := by
  have hentries : (ofList l).entries.Nodup := (keys_nodup (ofList l)).of_map _
  refine (List.perm_ext_iff_of_nodup hentries (h.of_map _)).mpr ?_
  intro e
  obtain ⟨id, v⟩ := e
  rw [mem_entries_iff]
  constructor
  · exact mem_of_get?_ofList
  · intro hmem
    obtain ⟨w, hw⟩ := Option.isSome_iff_exists.mp (get?_ofList_isSome_iff.mpr ⟨v, hmem⟩)
    have heq := List.inj_on_of_nodup_map h hmem (mem_of_get?_ofList hw) rfl
    cases heq
    exact hw

/-- Two ascending listings with the same members are the same. -/
theorem eq_of_mem_iff {l r : List (String × α)} (hl : l.Pairwise fun a b => a.1 < b.1)
    (hr : r.Pairwise fun a b => a.1 < b.1) (h : ∀ e, e ∈ l ↔ e ∈ r) : l = r := by
  have hlookup : ∀ k, (⟨l, hl⟩ : IdMap α).get? k = (⟨r, hr⟩ : IdMap α).get? k := by
    intro k
    apply Option.ext
    intro v
    rw [← mem_entries_iff, ← mem_entries_iff]
    exact h (k, v)
  exact congrArg entries (ext_get? hlookup)

end AmphoraWiring.IdMap
