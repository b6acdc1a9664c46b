/-!
Finite maps from ids to records, kept in ascending order of the ids. The order is part of the
type, so two maps with the same look-ups are equal and a listing of a map needs no sorting.
The lemmas give every operation through `get?`.
-/
namespace AmphoraWiring

structure IdMap (α : Type) where
  entries : List (String × α)
  ascending : entries.Pairwise fun a b => a.1 < b.1

namespace IdMap

variable {α β : Type}

def empty : IdMap α := ⟨[], .nil⟩

instance : Inhabited (IdMap α) := ⟨empty⟩

def lookup (id : String) : List (String × α) → Option α
  | [] => none
  | (k, v) :: rest => if k = id then some v else lookup id rest

def get? (m : IdMap α) (id : String) : Option α := lookup id m.entries

def contains (m : IdMap α) (id : String) : Bool := (m.get? id).isSome

def put (id : String) (v : α) : List (String × α) → List (String × α)
  | [] => [(id, v)]
  | (k, w) :: rest =>
    if id < k then (id, v) :: (k, w) :: rest
    else if k = id then (id, v) :: rest
    else (k, w) :: put id v rest

theorem mem_put {id : String} {v : α} {l : List (String × α)} {e : String × α}
    (h : e ∈ put id v l) : e = (id, v) ∨ e ∈ l := by
  induction l with
  | nil => simpa [put] using h
  | cons head rest ih =>
    obtain ⟨k, w⟩ := head
    simp only [put] at h
    split at h
    · simpa using h
    · split at h
      · simp only [List.mem_cons] at h ⊢
        exact h.imp (fun h => h) .inr
      · simp only [List.mem_cons] at h ⊢
        rcases h with h | h
        · exact .inr (.inl h)
        · exact (ih h).imp (fun h => h) .inr

private theorem ne_of_lt {a b : String} (h : a < b) : b ≠ a := by
  intro heq
  subst heq
  exact String.lt_irrefl _ h

private theorem lt_of_not_lt_of_ne {a b : String} (h : ¬ a < b) (hne : b ≠ a) : b < a := by
  have hle : b ≤ a := String.not_lt.mp h
  apply Classical.byContradiction
  intro hnot
  exact hne (String.le_antisymm hle (String.not_lt.mp hnot))

theorem ascending_put {id : String} {v : α} {l : List (String × α)}
    (h : l.Pairwise fun a b => a.1 < b.1) : (put id v l).Pairwise fun a b => a.1 < b.1 := by
  induction l with
  | nil => simp [put]
  | cons head rest ih =>
    obtain ⟨k, w⟩ := head
    have ⟨hk, hrest⟩ := List.pairwise_cons.mp h
    simp only [put]
    split
    next hlt =>
      refine List.pairwise_cons.mpr ⟨?_, h⟩
      intro e he
      rcases List.mem_cons.mp he with rfl | he
      · exact hlt
      · exact String.lt_trans hlt (hk e he)
    next hlt =>
      split
      next heq =>
        subst heq
        exact List.pairwise_cons.mpr ⟨hk, hrest⟩
      next hne =>
        refine List.pairwise_cons.mpr ⟨?_, ih hrest⟩
        intro e he
        rcases mem_put he with rfl | he
        · exact lt_of_not_lt_of_ne hlt hne
        · exact hk e he

/-- Adds a record, or replaces the one stored under the id. -/
def insert (m : IdMap α) (id : String) (v : α) : IdMap α :=
  ⟨put id v m.entries, ascending_put m.ascending⟩

def erase (m : IdMap α) (id : String) : IdMap α :=
  ⟨m.entries.filter fun e => e.1 ≠ id, m.ascending.sublist List.filter_sublist⟩

/-- The records that satisfy `p`. -/
def filter (p : α → Bool) (m : IdMap α) : IdMap α :=
  ⟨m.entries.filter fun e => p e.2, m.ascending.sublist List.filter_sublist⟩

def map (f : α → β) (m : IdMap α) : IdMap β :=
  ⟨m.entries.map fun e => (e.1, f e.2), List.pairwise_map.mpr m.ascending⟩

/-- Changes the record stored under the id, if there is one. -/
def modify (m : IdMap α) (id : String) (f : α → α) : IdMap α :=
  ⟨m.entries.map fun e => if e.1 = id then (e.1, f e.2) else e, by
    refine List.pairwise_map.mpr (m.ascending.imp ?_)
    intro a b h
    split <;> split <;> exact h⟩

def keys (m : IdMap α) : List String := m.entries.map (·.1)

def values (m : IdMap α) : List α := m.entries.map (·.2)

/-- Later pairs replace earlier ones of the same id. -/
def ofList (l : List (String × α)) : IdMap α := l.foldl (fun m e => m.insert e.1 e.2) empty

/-! Look-up -/

theorem lookup_eq_none {id : String} {l : List (String × α)} (h : ∀ e ∈ l, e.1 ≠ id) :
    lookup id l = none := by
  induction l with
  | nil => rfl
  | cons head rest ih =>
    obtain ⟨k, v⟩ := head
    have hk : k ≠ id := h (k, v) (by simp)
    simp [lookup, hk, ih fun e he => h e (by simp [he])]

@[simp] theorem get?_empty (id : String) : (empty : IdMap α).get? id = none := rfl

theorem lookup_put (id k : String) (v : α) (l : List (String × α))
    (h : l.Pairwise fun a b => a.1 < b.1) :
    lookup k (put id v l) = if k = id then some v else lookup k l := by
  induction l with
  | nil => simp [put, lookup, eq_comm]
  | cons head rest ih =>
    obtain ⟨k', w⟩ := head
    have ⟨hk', hrest⟩ := List.pairwise_cons.mp h
    simp only [put]
    split
    next => simp [lookup, eq_comm (a := id)]
    next hlt =>
      split
      next heq =>
        subst heq
        by_cases hk : k = k' <;> simp [lookup, hk, eq_comm]
      next hne =>
        by_cases hk : k = id
        · subst hk
          simp [lookup, hne, ih hrest]
        · simp [lookup, hk, ih hrest]

/-- An insertion replaces what stood under the id and leaves the other ids alone. -/
theorem get?_insert (m : IdMap α) (id k : String) (v : α) :
    (m.insert id v).get? k = if k = id then some v else m.get? k :=
  lookup_put id k v m.entries m.ascending

@[simp] theorem get?_insert_self (m : IdMap α) (id : String) (v : α) :
    (m.insert id v).get? id = some v := by simp [get?_insert]

/-- Only the erased id is gone. -/
theorem get?_erase (m : IdMap α) (id k : String) :
    (m.erase id).get? k = if k = id then none else m.get? k := by
  obtain ⟨l, hl⟩ := m
  simp only [get?, erase]
  clear hl
  induction l with
  | nil => simp [lookup]
  | cons head rest ih =>
    obtain ⟨k', w⟩ := head
    by_cases hk' : k' = id
    · subst hk'
      by_cases hk : k = k'
      · subst hk
        simpa [lookup] using ih
      · simpa [lookup, hk, Ne.symm hk] using ih
    · by_cases hk : k' = k
      · subst hk
        simp [lookup, hk']
      · simpa [lookup, hk', hk] using ih

theorem get?_filter (p : α → Bool) (m : IdMap α) (k : String) :
    (m.filter p).get? k = (m.get? k).filter p := by
  obtain ⟨l, hl⟩ := m
  simp only [get?, filter]
  induction l with
  | nil => rfl
  | cons head rest ih =>
    obtain ⟨k', w⟩ := head
    have ⟨hk', hrest⟩ := List.pairwise_cons.mp hl
    by_cases hk : k' = k
    · subst hk
      have hnone : lookup k' (rest.filter fun e => p e.2) = none :=
        lookup_eq_none fun e he => ne_of_lt (hk' e (List.mem_filter.mp he).1)
      cases hp : p w <;> simp [lookup, hp, hnone, Option.filter]
    · cases hp : p w <;> simp [lookup, hp, hk, ih hrest]

theorem get?_map (f : α → β) (m : IdMap α) (k : String) :
    (m.map f).get? k = (m.get? k).map f := by
  obtain ⟨l, hl⟩ := m
  simp only [get?, map]
  clear hl
  induction l with
  | nil => rfl
  | cons head rest ih =>
    obtain ⟨k', w⟩ := head
    by_cases hk : k' = k <;> simp [lookup, hk, ih]

theorem get?_modify (m : IdMap α) (id k : String) (f : α → α) :
    (m.modify id f).get? k = if k = id then (m.get? k).map f else m.get? k := by
  obtain ⟨l, hl⟩ := m
  simp only [get?, modify]
  clear hl
  induction l with
  | nil => simp [lookup]
  | cons head rest ih =>
    obtain ⟨k', w⟩ := head
    simp only [List.map_cons]
    by_cases hid : k' = id
    · subst hid
      simp only [if_true, lookup]
      by_cases hk : k' = k
      · simp [hk]
      · simpa [hk] using ih
    · simp only [hid, if_false, lookup]
      by_cases hk : k' = k
      · subst hk
        simp [hid]
      · simpa [hk] using ih

theorem lookup_isSome_iff {id : String} {l : List (String × α)} :
    (lookup id l).isSome ↔ ∃ e ∈ l, e.1 = id := by
  induction l with
  | nil => simp [lookup]
  | cons head rest ih =>
    obtain ⟨k, v⟩ := head
    by_cases hk : k = id <;> simp [lookup, hk, ih]

private theorem ext_entries {l r : List (String × α)}
    (hl : l.Pairwise fun a b => a.1 < b.1) (hr : r.Pairwise fun a b => a.1 < b.1)
    (h : ∀ k, lookup k l = lookup k r) : l = r := by
  induction l generalizing r with
  | nil =>
    cases r with
    | nil => rfl
    | cons head rest => simpa [lookup] using h head.1
  | cons head rest ih =>
    obtain ⟨k, v⟩ := head
    cases r with
    | nil => simpa [lookup] using h k
    | cons head' rest' =>
      obtain ⟨k', v'⟩ := head'
      have ⟨hk, hrest⟩ := List.pairwise_cons.mp hl
      have ⟨hk', hrest'⟩ := List.pairwise_cons.mp hr
      have hkk : k = k' := by
        apply Classical.byContradiction
        intro hne
        have h1 := h k
        have h2 := h k'
        simp only [lookup, if_true, Ne.symm hne, hne, if_false] at h1 h2
        have hs1 : (lookup k rest').isSome := by simp [← h1]
        have hs2 : (lookup k' rest).isSome := by simp [h2]
        obtain ⟨e, he, hek⟩ := lookup_isSome_iff.mp hs1
        obtain ⟨e', he', hek'⟩ := lookup_isSome_iff.mp hs2
        have l1 : k' < k := hek ▸ hk' e he
        have l2 : k < k' := hek' ▸ hk e' he'
        exact String.lt_asymm l1 l2
      subst hkk
      have hv := h k
      simp only [lookup, if_true, Option.some.injEq] at hv
      subst hv
      congr 1
      refine ih hrest hrest' fun j => ?_
      by_cases hj : k = j
      · subst hj
        rw [lookup_eq_none fun e he => ne_of_lt (hk e he),
          lookup_eq_none fun e he => ne_of_lt (hk' e he)]
      · simpa [lookup, hj] using h j

/-- A map is determined by its look-ups. -/
theorem ext_get? {m n : IdMap α} (h : ∀ k, m.get? k = n.get? k) : m = n := by
  obtain ⟨l, hl⟩ := m
  obtain ⟨r, hr⟩ := n
  have := ext_entries hl hr h
  subst this
  rfl

end IdMap

end AmphoraWiring
