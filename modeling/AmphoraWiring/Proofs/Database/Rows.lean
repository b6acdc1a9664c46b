import AmphoraWiring.Database.Tables
import AmphoraWiring.Proofs.Listing

/-!
Rows of a table as records under their keys. A table tabulates a map when each record has one row,
in whatever order the rows are. What the statements make of such a table is what the operations make
of the map, and a selection in the order of the keys is a listing of the map.
-/
namespace AmphoraWiring.Tables

variable {α ρ : Type} {key : ρ → String} {rowOf : String → α → ρ} {update : ρ → ρ → ρ}
  {rows : List ρ} {m : IdMap α} {id : String} {a v : α}

/-- The rows are those of the records, each under the key of its record. -/
structure Tabulates (key : ρ → String) (rowOf : String → α → ρ) (rows : List ρ) (m : IdMap α) :
    Prop where
  distinct : (rows.map key).Nodup
  mem_iff : ∀ row, row ∈ rows ↔ ∃ a, m.get? (key row) = some a ∧ row = rowOf (key row) a

theorem tabulates_nil : Tabulates key rowOf [] .empty := ⟨.nil, by simp⟩

/-- What is in the table after an insertion, where an update makes the row the inserted one. -/
theorem mem_upsert {row other : ρ}
    (hupdate : ∀ old ∈ rows, key old = key row → update old row = row) :
    other ∈ upsert key update row rows ↔ other = row ∨ other ∈ rows ∧ key other ≠ key row := by
  unfold upsert
  split
  next hany =>
    simp only [List.any_eq_true, decide_eq_true_eq] at hany
    obtain ⟨old, hold, hkey⟩ := hany
    simp only [List.mem_map]
    constructor
    · rintro ⟨r, hr, rfl⟩
      split
      next heq => exact .inl (hupdate r hr heq)
      next hne => exact .inr ⟨hr, hne⟩
    · rintro (rfl | ⟨hmem, hne⟩)
      · exact ⟨old, hold, by rw [if_pos hkey, hupdate old hold hkey]⟩
      · exact ⟨other, hmem, if_neg hne⟩
  next hnone =>
    have habsent : ∀ r ∈ rows, key r ≠ key row := by simpa using hnone
    simp only [List.mem_append, List.mem_singleton]
    constructor
    · rintro (hmem | rfl)
      · exact .inr ⟨hmem, habsent other hmem⟩
      · exact .inl rfl
    · rintro (rfl | ⟨hmem, -⟩)
      · exact .inr rfl
      · exact .inl hmem

/-- An insertion leaves one row for each key. -/
theorem nodup_upsert {row : ρ} (hupdate : ∀ old ∈ rows, key old = key row → update old row = row)
    (h : (rows.map key).Nodup) : ((upsert key update row rows).map key).Nodup := by
  unfold upsert
  split
  next hany =>
    have hkeys : (rows.map fun other => if key other = key row then update other row else other).map
        key = rows.map key := by
      rw [List.map_map]
      refine List.map_congr_left fun old hold => ?_
      simp only [Function.comp_apply]
      split
      next heq => rw [hupdate old hold heq, heq]
      next => rfl
    rwa [hkeys]
  next hnone =>
    have habsent : ∀ r ∈ rows, key r ≠ key row := by simpa using hnone
    rw [List.map_append, List.map_singleton]
    refine List.nodup_append.mpr ⟨h, by simp, fun k hk k' hk' heq => ?_⟩
    obtain ⟨r, hr, rfl⟩ := List.mem_map.mp hk
    exact habsent r hr (heq.trans (List.mem_singleton.mp hk'))

namespace Tabulates

variable (h : Tabulates key rowOf rows m) (hkey : ∀ id a, key (rowOf id a) = id)

include h hkey

/-- The row of a key is the row of the record under the key. -/
theorem find? : (rows.find? fun row => key row = id) = (m.get? id).map (rowOf id) := by
  cases hget : m.get? id with
  | none =>
    refine List.find?_eq_none.mpr fun row hrow hid => ?_
    obtain ⟨a, hstored, -⟩ := (h.mem_iff row).mp hrow
    rw [of_decide_eq_true hid, hget] at hstored
    cases hstored
  | some a =>
    have hmem : rowOf id a ∈ rows := (h.mem_iff _).mpr ⟨a, by rw [hkey, hget], by rw [hkey]⟩
    cases hfind : rows.find? fun row => key row = id with
    | none => exact absurd (decide_eq_true (hkey id a)) (List.find?_eq_none.mp hfind _ hmem)
    | some row =>
      obtain ⟨b, hstored, hrow⟩ := (h.mem_iff row).mp (List.mem_of_find?_eq_some hfind)
      have hid : key row = id := by simpa using List.find?_some hfind
      rw [hid] at hstored hrow
      cases hget.symm.trans hstored
      exact congrArg some hrow

/-- An insertion that updates the row in conflict with it is an insertion into the map. -/
theorem upsert (hupdate : ∀ a, m.get? id = some a → update (rowOf id a) (rowOf id v) = rowOf id v) :
    Tabulates key rowOf (upsert key update (rowOf id v) rows) (m.insert id v) := by
  have hrow : ∀ old ∈ rows, key old = key (rowOf id v) → update old (rowOf id v) = rowOf id v := by
    intro old hold heq
    obtain ⟨a, hstored, hrow⟩ := (h.mem_iff old).mp hold
    rw [heq, hkey] at hstored hrow
    rw [hrow]
    exact hupdate a hstored
  refine ⟨nodup_upsert hrow h.distinct, fun row => ?_⟩
  rw [mem_upsert hrow, hkey, IdMap.get?_insert, h.mem_iff]
  by_cases hid : key row = id
  · simp [hid]
  · have hne : row ≠ rowOf id v := fun heq => hid (heq ▸ hkey id v)
    simp [hid, hne]

/-- Writing the row of a stored record anew is an insertion into the map. -/
theorem rewrite {write : ρ → ρ} (hget : m.get? id = some a)
    (hwrite : write (rowOf id a) = rowOf id v) :
    Tabulates key rowOf (rows.map fun row => if key row = id then write row else row)
      (m.insert id v) := by
  have hupsert : Tables.upsert key (fun old _ => write old) (rowOf id v) rows =
      rows.map fun row => if key row = id then write row else row := by
    have hmem : rowOf id a ∈ rows := (h.mem_iff _).mpr ⟨a, by rw [hkey, hget], by rw [hkey]⟩
    have hany : (rows.any fun row => key row = key (rowOf id v)) = true :=
      List.any_eq_true.mpr ⟨_, hmem, decide_eq_true (by rw [hkey, hkey])⟩
    rw [Tables.upsert, if_pos hany, hkey]
  rw [← hupsert]
  refine h.upsert hkey fun b hb => ?_
  cases hget.symm.trans hb
  exact hwrite

omit hkey in
/-- A selection of rows is a selection of records. -/
theorem filter {p : ρ → Bool} {q : α → Bool}
    (hpq : ∀ id a, m.get? id = some a → p (rowOf id a) = q a) :
    Tabulates key rowOf (rows.filter p) (m.filter q) := by
  refine ⟨h.distinct.sublist (List.filter_sublist.map key), fun row => ?_⟩
  simp only [List.mem_filter, h.mem_iff, IdMap.get?_filter, Option.filter_eq_some_iff]
  constructor
  · rintro ⟨⟨a, hget, hrow⟩, hp⟩
    rw [hrow, hpq _ a hget] at hp
    exact ⟨a, ⟨hget, hp⟩, hrow⟩
  · rintro ⟨a, ⟨hget, hq⟩, hrow⟩
    refine ⟨⟨a, hget, hrow⟩, ?_⟩
    rw [hrow, hpq _ a hget]
    exact hq

omit h in
/-- The rows of a listing ascend as the listing does. -/
theorem rows_ascending (m : IdMap α) :
    (m.entries.map fun e => rowOf e.1 e.2).Pairwise fun a b => key a < key b :=
  List.pairwise_map.mpr (m.ascending.imp fun hlt => by rwa [hkey, hkey])

/-- But for their order the rows are those of a listing of the map. -/
theorem perm_entries : rows.Perm (m.entries.map fun e => rowOf e.1 e.2) := by
  have hnodup : (m.entries.map fun e => rowOf e.1 e.2).Nodup :=
    List.nodup_iff_pairwise_ne.mpr ((rows_ascending hkey m).imp fun {a b} hlt heq => by
      rw [heq] at hlt
      exact String.lt_irrefl _ hlt)
  refine (List.perm_ext_iff_of_nodup (.of_map _ h.distinct) hnodup).mpr fun row => ?_
  rw [h.mem_iff, List.mem_map]
  constructor
  · rintro ⟨a, hget, hrow⟩
    exact ⟨(key row, a), IdMap.mem_entries_iff.mpr hget, hrow.symm⟩
  · rintro ⟨⟨id, a⟩, he, rfl⟩
    exact ⟨a, by rw [hkey]; exact IdMap.mem_entries_iff.mp he, by rw [hkey]⟩

/-- In the order of their keys the rows list the map. -/
theorem mergeSort :
    (rows.mergeSort fun a b => key a ≤ key b) = m.entries.map fun e => rowOf e.1 e.2 := by
  let le (a b : ρ) : Bool := key a ≤ key b
  have htrans : ∀ a b c, le a b → le b c → le a c := fun a b c hab hbc =>
    decide_eq_true (String.le_trans (of_decide_eq_true hab) (of_decide_eq_true hbc))
  have htotal : ∀ a b, le a b || le b a := by
    intro a b
    simpa [le] using String.le_total (key a) (key b)
  have hsorted : (rows.mergeSort le).Pairwise fun a b => le a b :=
    List.pairwise_mergeSort htrans htotal rows
  have hlisted : (m.entries.map fun e => rowOf e.1 e.2).Pairwise fun a b => le a b :=
    (rows_ascending hkey m).imp fun hlt =>
      decide_eq_true (String.not_lt.mp (String.lt_asymm hlt))
  have hperm := h.perm_entries hkey
  refine List.Perm.eq_of_pairwise ?_ hsorted hlisted ((List.mergeSort_perm _ _).trans hperm)
  intro a b ha hb hab hba
  have heq : key a = key b := String.le_antisymm (of_decide_eq_true hab) (of_decide_eq_true hba)
  exact List.inj_on_of_nodup_map h.distinct (List.mem_mergeSort.mp ha) (hperm.mem_iff.mpr hb) heq

end Tabulates

end AmphoraWiring.Tables
