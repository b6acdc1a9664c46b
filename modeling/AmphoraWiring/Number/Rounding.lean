/-!
Division of naturals rounded to the nearest integer, a half going to the even neighbour. Every
conversion in the library that loses digits goes through this one function.
-/
namespace AmphoraWiring

def roundedQuotient (num den : Nat) : Nat :=
  let q := num / den
  let twice := 2 * (num % den)
  if twice < den then q
  else if den < twice then q + 1
  else if q % 2 = 0 then q else q + 1

/-- Only the quotient counts, not the two numbers. -/
theorem roundedQuotient_scale {k : Nat} (hk : 0 < k) (num den : Nat) :
    roundedQuotient (k * num) (k * den) = roundedQuotient num den := by
  have hbelow : 2 * (k * (num % den)) < k * den ↔ 2 * (num % den) < den := by
    rw [Nat.mul_left_comm, Nat.mul_lt_mul_left hk]
  have habove : k * den < 2 * (k * (num % den)) ↔ den < 2 * (num % den) := by
    rw [Nat.mul_left_comm, Nat.mul_lt_mul_left hk]
  simp only [roundedQuotient, Nat.mul_div_mul_left _ _ hk, Nat.mul_mod_mul_left, hbelow, habove]

/-- Rounding goes to one of the two neighbours. -/
theorem roundedQuotient_bounds (num den : Nat) :
    num / den ≤ roundedQuotient num den ∧ roundedQuotient num den ≤ num / den + 1 := by
  simp only [roundedQuotient]
  repeat' split
  all_goals omega

/-- Rounding keeps the order of the numerators. -/
theorem roundedQuotient_le_of_num_le {num num' : Nat} (h : num ≤ num') (den : Nat) :
    roundedQuotient num den ≤ roundedQuotient num' den := by
  have hdiv : num / den ≤ num' / den := Nat.div_le_div_right h
  rcases Nat.lt_or_eq_of_le hdiv with hlt | heq
  · -- The quotients are apart by one at least, which is all that rounding can add.
    have := (roundedQuotient_bounds num den).2
    have := (roundedQuotient_bounds num' den).1
    omega
  · have hmod : num % den ≤ num' % den := by
      have hnum := Nat.div_add_mod num den
      have hnum' := Nat.div_add_mod num' den
      rw [← heq] at hnum'
      omega
    simp only [roundedQuotient, ← heq]
    repeat' split
    all_goals omega

/-- A larger quotient is not rounded to less. -/
theorem roundedQuotient_mono {num den num' den' : Nat} (hden : 0 < den) (hden' : 0 < den')
    (h : num * den' ≤ num' * den) : roundedQuotient num den ≤ roundedQuotient num' den' := by
  rw [← roundedQuotient_scale hden' num den, ← roundedQuotient_scale hden num' den',
    Nat.mul_comm den den']
  apply roundedQuotient_le_of_num_le
  rwa [Nat.mul_comm den' num, Nat.mul_comm den num']

end AmphoraWiring
