import AmphoraWiring.Flow.Retry
import Mathlib.Algebra.Order.Field.Rat
import Mathlib.Algebra.Order.GroupWithZero.Basic
import Mathlib.Tactic.Linarith

/-!
The wait between two attempts lies between the least and the greatest wait, and it grows from
attempt to attempt as long as the doubled multiplier is a double. Past every double the product
is infinite, which counts as no wait at all: from there on only the least wait is kept.
-/
namespace AmphoraWiring

namespace Floating

variable {s : Nat} {e e' : Int}

theorem ratio_den_pos (s : Nat) (e : Int) : 0 < (ratio s e).2 :=
  Nat.pow_pos (n := (-e).toNat) (by decide : 0 < 2)

/-- The two numbers of the ratio stand for the significand scaled by the power of two. -/
theorem ratio_value (s : Nat) (e : Int) :
    ((ratio s e).1 : ℚ) = s * 2 ^ e * (ratio s e).2 := by
  have hpow : (2 : ℚ) ^ e * 2 ^ ((-e).toNat : Int) = 2 ^ (e.toNat : Int) := by
    rw [← zpow_add₀ (by norm_num)]
    congr 1
    omega
  simp only [ratio, powerOfTwo, Nat.pow_eq, Nat.cast_mul, Nat.cast_pow, Nat.cast_ofNat]
  simp only [zpow_natCast] at hpow
  rw [mul_assoc, hpow]

/-- The pair of numbers is compared as the rational number that it stands for. -/
theorem pow_le_ratio_iff (n s : Nat) (e : Int) :
    Nat.pow 2 n * (ratio s e).2 ≤ (ratio s e).1 ↔ (2 : ℚ) ^ n ≤ s * 2 ^ e := by
  have hpos : (0 : ℚ) < (ratio s e).2 := by exact_mod_cast ratio_den_pos s e
  rw [← Nat.cast_le (α := ℚ), ratio_value, Nat.cast_mul, mul_le_mul_iff_left₀ hpos, Nat.pow_eq,
    Nat.cast_pow, Nat.cast_ofNat]

theorem value_mono (s : Nat) (h : e ≤ e') : (s : ℚ) * 2 ^ e ≤ s * 2 ^ e' :=
  mul_le_mul_of_nonneg_left (zpow_le_zpow_right₀ (by norm_num) h) (Nat.cast_nonneg s)

theorem ratio_mono (s : Nat) (h : e ≤ e') :
    (ratio s e).1 * (ratio s e').2 ≤ (ratio s e').1 * (ratio s e).2 := by
  rw [← Nat.cast_le (α := ℚ), Nat.cast_mul, Nat.cast_mul, ratio_value, ratio_value,
    mul_right_comm]
  exact mul_le_mul_of_nonneg_right
    (mul_le_mul_of_nonneg_right (value_mono s h) (Nat.cast_nonneg _)) (Nat.cast_nonneg _)

end Floating

namespace RetryPolicy

open Floating

variable {p : RetryPolicy} {a b : Nat} {wait wait' : Duration}

theorem doublings_mono (h : a ≤ b) : doublings a ≤ doublings b := by
  unfold doublings
  omega

/-- The lower bound is applied last, so it holds even where it is above the upper bound. -/
theorem minWait_le_clamp (p : RetryPolicy) (wait : Duration) : p.minWait ≤ p.clamp wait :=
  le_max_left ..

/-- The upper bound holds unless the lower one is above it. -/
theorem clamp_le_max (p : RetryPolicy) (wait : Duration) :
    p.clamp wait ≤ max p.minWait p.maxWait :=
  max_le (le_max_left ..) ((min_le_right ..).trans (max_comm ..).le)

theorem clamp_mono (p : RetryPolicy) (h : wait ≤ wait') : p.clamp wait ≤ p.clamp wait' :=
  max_le_max_left _ (min_le_min_right _ h)

theorem clamp_maxWait (p : RetryPolicy) : p.clamp p.maxWait = max p.minWait p.maxWait := by
  rw [clamp, min_eq_left (le_max_left ..)]

theorem clamp_zero (p : RetryPolicy) : p.clamp 0 = p.minWait := by
  rw [clamp, min_eq_left (Nat.zero_le _), max_eq_left (Nat.zero_le _)]

/-- The multiplier, doubled once for each attempt before this one, is past every double. -/
def Overflows (p : RetryPolicy) (attempt : Nat) : Prop :=
  ∃ s e, p.multiplier = .finite false s e ∧ (2 : ℚ) ^ 1024 ≤ s * 2 ^ (e + doublings attempt)

/-- A finite multiplier gives nothing when the product overflows, the greatest wait when it has no
place in a duration, and the rounded product otherwise. -/
theorem scaledWait_finite {s : Nat} {e : Int} (hs : p.multiplier = .finite false s e) (n : Nat) :
    p.scaledWait n =
      if Nat.pow 2 1024 * (ratio s (e + n)).2 ≤ (ratio s (e + n)).1 then 0
      else if Nat.pow 2 64 * (ratio s (e + n)).2 ≤ (ratio s (e + n)).1 then p.maxWait
      else roundedQuotient ((ratio s (e + n)).1 * 1000000000) (ratio s (e + n)).2 := by
  rw [scaledWait, hs]

/-- A product that overflows counts as zero, so the shortest wait is left. -/
theorem backoff_of_overflows (h : p.Overflows b) : p.backoff b = p.minWait := by
  obtain ⟨s, e, hs, hover⟩ := h
  rw [← pow_le_ratio_iff] at hover
  rw [backoff, scaledWait_finite hs, if_pos hover, clamp_zero]

/-- Within the doubles the span grows with the doublings, up to the greatest wait. -/
theorem backoff_mono_of_not_overflows (h : a ≤ b) (hin : ¬ p.Overflows b) :
    p.backoff a ≤ p.backoff b := by
  cases hs : p.multiplier
  case undefined => simp [backoff, scaledWait, hs]
  case infinite => simp [backoff, scaledWait, hs]
  case finite negative s e =>
    cases negative
    case true => simp [backoff, scaledWait, hs]
    case false =>
      have hexp : e + doublings a ≤ e + doublings b :=
        Int.add_le_add_left (Int.ofNat_le.2 (doublings_mono h)) e
      have hpast : ∀ n : Nat,
          Nat.pow 2 n * (ratio s (e + doublings a)).2 ≤ (ratio s (e + doublings a)).1 →
          Nat.pow 2 n * (ratio s (e + doublings b)).2 ≤ (ratio s (e + doublings b)).1 := by
        intro n hn
        rw [pow_le_ratio_iff] at hn ⊢
        exact hn.trans (value_mono s hexp)
      have hdouble : ¬ Nat.pow 2 1024 * (ratio s (e + doublings b)).2 ≤
          (ratio s (e + doublings b)).1 := by
        rw [pow_le_ratio_iff]
        exact fun hover => hin ⟨s, e, hs, hover⟩
      rw [backoff, backoff, scaledWait_finite hs, scaledWait_finite hs, if_neg hdouble,
        if_neg fun hn => hdouble (hpast 1024 hn)]
      by_cases hspan : Nat.pow 2 64 * (ratio s (e + doublings b)).2 ≤
          (ratio s (e + doublings b)).1
      · rw [if_pos hspan, clamp_maxWait]
        exact clamp_le_max ..
      · rw [if_neg hspan, if_neg fun hn => hspan (hpast 64 hn)]
        apply clamp_mono
        apply roundedQuotient_mono (ratio_den_pos ..) (ratio_den_pos ..)
        rw [mul_right_comm, mul_right_comm _ 1000000000]
        exact Nat.mul_le_mul_right _ (ratio_mono s hexp)

/-- Every wait is within the bounds. A later wait is no shorter, unless the doubled multiplier
is past every double by then and the earlier wait was more than the least one. -/
theorem backoff_bounded_grows_iff (p : RetryPolicy) (h : a ≤ b) :
    (∀ n, p.minWait ≤ p.backoff n ∧ p.backoff n ≤ max p.minWait p.maxWait) ∧
      (p.backoff a ≤ p.backoff b ↔ (p.Overflows b → p.backoff a = p.minWait)) := by
  refine ⟨fun n => ⟨minWait_le_clamp .., clamp_le_max ..⟩, ?_⟩
  by_cases hover : p.Overflows b
  · rw [backoff_of_overflows hover]
    exact ⟨fun hle _ => hle.antisymm (minWait_le_clamp ..), fun heq => (heq hover).le⟩
  · exact ⟨fun _ hover' => absurd hover' hover,
      fun _ => backoff_mono_of_not_overflows h hover⟩

end RetryPolicy

namespace Sample

/-- The multiplier is the double nearest to `10 ^ 308`, which is the largest but for one more
doubling. -/
def steepRetries : RetryPolicy where
  maxAttempts := 15
  multiplier := .finite false 5010420900022432 971
  minWait := .ofSeconds 1
  maxWait := .ofSeconds 10

end Sample

namespace RetryPolicy

/-- A multiplier so great that the second product overflows while the first one is finite. -/
theorem backoff_bounded_grows_iff_steep :
    (∀ n, Sample.steepRetries.minWait ≤ Sample.steepRetries.backoff n ∧
        Sample.steepRetries.backoff n ≤
          max Sample.steepRetries.minWait Sample.steepRetries.maxWait) ∧
      (Sample.steepRetries.backoff 1 ≤ Sample.steepRetries.backoff 2 ↔
        (Sample.steepRetries.Overflows 2 →
          Sample.steepRetries.backoff 1 = Sample.steepRetries.minWait)) :=
  backoff_bounded_grows_iff Sample.steepRetries (by decide)

/-- The first wait is the greatest, the second the least. -/
theorem steep_wait_shrinks :
    1 ≤ 2 ∧ ¬ Sample.steepRetries.backoff 1 ≤ Sample.steepRetries.backoff 2 := by
  decide +kernel

end RetryPolicy

end AmphoraWiring
