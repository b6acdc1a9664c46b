import AmphoraWiring.Address.Reader
import Mathlib.Algebra.GroupWithZero.Nat
import Mathlib.Data.List.Basic
import Mathlib.Data.Nat.Init

/-!
Numbers in the text of addresses. A number that is written to a base is read back by a reader of
that base as far as its digits go, where the text after it goes on with no further digit. The
places of a number are put together again in the same way.
-/
namespace AmphoraWiring

/-- Only the number zero is written with a zero in front. -/
theorem head?_toDigits_ne_zero {base n : Nat} (hbase : 1 < base) (hn : 0 < n) :
    (Nat.toDigits base n).head? ≠ some '0' := by
  induction n using Nat.strong_induction_on with
  | _ n ih =>
    rw [Nat.toDigits_eq_if hbase]
    split
    next hlt => simp [Nat.digitChar_eq_zero, Nat.ne_of_gt hn]
    next hge =>
      rw [List.head?_append_of_ne_nil _ Nat.toDigits_ne_nil]
      exact ih (n / base) (Nat.div_lt_self hn hbase) (Nat.div_pos (by omega) (by omega))

namespace Address

theorem digitValue_digitChar {d : Nat} (h : d < 16) : digitValue (Nat.digitChar d) = d := by
  decide +revert

/-- A numeral has only digits of its base. -/
theorem digitValue_of_mem_toDigits {base n : Nat} (hbase : 1 < base) (hle : base ≤ 16) {c : Char}
    (h : c ∈ Nat.toDigits base n) : digitValue c < base := by
  induction n using Nat.strong_induction_on with
  | _ n ih =>
    rw [Nat.toDigits_eq_if hbase] at h
    split at h
    next hlt =>
      rw [List.mem_singleton] at h
      rw [h, digitValue_digitChar (by omega)]
      exact hlt
    next hge =>
      have hmod : n % base < base := Nat.mod_lt n (by omega)
      rcases List.mem_append.mp h with h | h
      · exact ih (n / base) (Nat.div_lt_self (by omega) hbase) h
      · rw [List.mem_singleton] at h
        rw [h, digitValue_digitChar (by omega)]
        exact hmod

theorem ofPlaces_concat (base : Nat) (digits : List Nat) (d : Nat) :
    ofPlaces base (digits ++ [d]) = ofPlaces base digits * base + d := by
  simp [ofPlaces]

/-- Reading a numeral gives back the number that was written. -/
theorem ofPlaces_toDigits {base : Nat} (hbase : 1 < base) (hle : base ≤ 16) (n : Nat) :
    ofPlaces base ((Nat.toDigits base n).map digitValue) = n := by
  induction n using Nat.strong_induction_on with
  | _ n ih =>
    rw [Nat.toDigits_eq_if hbase]
    split
    next hlt => simp [ofPlaces, digitValue_digitChar (show n < 16 by omega)]
    next hge =>
      have hmod : n % base < base := Nat.mod_lt n (by omega)
      rw [List.map_append, List.map_singleton, ofPlaces_concat,
        ih (n / base) (Nat.div_lt_self (by omega) hbase),
        digitValue_digitChar (by omega), Nat.div_add_mod']

/-- The text goes on with no digit of the base. -/
def Stops (base : Nat) (rest : List Char) : Prop := ∀ c ∈ rest.head?, base ≤ digitValue c

theorem stops_nil (base : Nat) : Stops base [] := by simp [Stops]

theorem stops_cons {base : Nat} {c : Char} (h : base ≤ digitValue c) (rest : List Char) :
    Stops base (c :: rest) := by simpa [Stops] using h

/-- A reading takes the digits and stops where they stop. -/
theorem takeWhile_digits {base : Nat} {digits rest : List Char}
    (hdigits : ∀ c ∈ digits, digitValue c < base) (hrest : Stops base rest) :
    (digits ++ rest).takeWhile (fun c => digitValue c < base) = digits := by
  rw [List.takeWhile_append_of_pos (by simpa using hdigits)]
  cases rest with
  | nil => simp
  | cons c rest =>
    have hc : base ≤ digitValue c := hrest c rfl
    simp [Nat.not_lt.mpr hc]

/-- A number is read back from its digits, whether or not zeros may stand in front. -/
theorem readNumber_toDigits {base most bound n : Nat} (hbase : 1 < base) (hle : base ≤ 16)
    (hmost : 0 < most) (hdigits : n < base ^ most) (hn : n < bound) (leadingZeros : Bool)
    {rest : List Char} (hrest : Stops base rest) :
    readNumber base most bound leadingZeros (Nat.toDigits base n ++ rest) = some (n, rest) := by
  have htake := takeWhile_digits (fun c => digitValue_of_mem_toDigits hbase hle (n := n)) hrest
  have hlength := (Nat.length_toDigits_le_iff hbase hmost).mpr hdigits
  have hzero : ¬ ((Nat.toDigits base n).head? = some '0' ∧ 1 < (Nat.toDigits base n).length) := by
    intro h
    obtain ⟨hhead, hlong⟩ := h
    rcases Nat.eq_zero_or_pos n with rfl | hpos
    · simp at hlong
    · exact head?_toDigits_ne_zero hbase hpos hhead
  have hempty : (Nat.toDigits base n).isEmpty = false := by simp [Nat.toDigits_ne_nil]
  unfold readNumber
  simp only [htake, ofPlaces_toDigits hbase hle, hempty, Bool.false_or, Bool.or_eq_true,
    decide_eq_true_eq, List.drop_left]
  rw [if_neg (by omega), if_neg ?_]
  intro h
  simp only [Bool.and_eq_true, beq_iff_eq, decide_eq_true_eq] at h
  exact hzero ⟨h.1.2, h.2⟩

/-- Without a digit in front no number is read. -/
theorem readNumber_of_stops {base most bound : Nat} {leadingZeros : Bool} {cs : List Char}
    (h : Stops base cs) : readNumber base most bound leadingZeros cs = none := by
  have htake := takeWhile_digits (List.forall_mem_nil _) h
  rw [List.nil_append] at htake
  simp [readNumber, htake]

/-- The places of a number hold as much of it as there are places. -/
theorem ofPlaces_places (base count n : Nat) :
    ofPlaces base (places base count n) = n % base ^ count := by
  induction count generalizing n with
  | zero => simp [places, ofPlaces, Nat.mod_one]
  | succ count ih => rw [places, ofPlaces_concat, ih, Nat.pow_succ', Nat.mod_mul, Nat.mul_comm,
      Nat.add_comm]

end Address

end AmphoraWiring
