import AmphoraWiring.Json.Reader
import AmphoraWiring.Number.Decimal
import AmphoraWiring.Proofs.Address.Numerals

/-!
Numbers of documents. Digits without a needless zero in front, a fraction and an exponent are read
as these parts, and the text of every finite number has this form. A natural number of 64 bits is
read back as itself.
-/
namespace AmphoraWiring.Json

/-- What stands behind a value in a compact text. -/
def ValueEnd (rest : List Char) : Prop := ∀ c ∈ rest.head?, c = ',' ∨ c = ']' ∨ c = '}'

theorem valueEnd_nil : ValueEnd [] := by simp [ValueEnd]

/-- The text goes on with no digit. -/
def NoDigit (rest : List Char) : Prop := ∀ c ∈ rest.head?, isDigit c = false

theorem ValueEnd.noDigit {rest : List Char} (h : ValueEnd rest) : NoDigit rest := by
  intro c hc
  rcases h c hc with rfl | rfl | rfl <;> rfl

theorem digitsOf_append {digits rest : List Char} (hdigits : ∀ c ∈ digits, isDigit c)
    (hrest : NoDigit rest) : digitsOf (digits ++ rest) = (digits, rest) := by
  unfold digitsOf
  rw [List.takeWhile_append_of_pos hdigits, List.dropWhile_append_of_pos hdigits]
  cases rest with
  | nil => simp
  | cons c rest => simp [hrest c rfl]

theorem isDigit_of_mem_toDigits {n : Nat} {c : Char} (h : c ∈ Nat.toDigits 10 n) : isDigit c := by
  have hdigit := Nat.isDigit_of_mem_toDigits (by decide) (by decide) h
  simpa [isDigit, Char.isDigit, Char.le_def] using hdigit

/-! The parts of a number and their text -/

/-- Digits of a whole number, without a needless zero in front. -/
structure IsWhole (cs : List Char) : Prop where
  ne_nil : cs ≠ []
  digits : ∀ c ∈ cs, isDigit c
  zero : cs.head? = some '0' → cs.length = 1

inductive IsFraction : Option (List Char) → List Char → Prop where
  | none : IsFraction none []
  | some {digits : List Char} (hne : digits ≠ []) (hdigits : ∀ c ∈ digits, isDigit c) :
      IsFraction (some digits) ('.' :: digits)

inductive IsExponent : Option Int → List Char → Prop where
  | none : IsExponent none []
  | up {digits : List Char} (hne : digits ≠ []) (hdigits : ∀ c ∈ digits, isDigit c) :
      IsExponent (some (digitsValue digits)) ('e' :: '+' :: digits)
  | down {digits : List Char} (hne : digits ≠ []) (hdigits : ∀ c ∈ digits, isDigit c) :
      IsExponent (some (-digitsValue digits)) ('e' :: '-' :: digits)

/-- The whole part is read up to the first character that is not a digit. -/
theorem readWhole_append {whole rest : List Char} (h : IsWhole whole) (hrest : NoDigit rest) :
    readWhole (whole ++ rest) = .ok (whole, rest) := by
  unfold readWhole
  rw [digitsOf_append h.digits hrest]
  split
  next heq =>
    cases heq
    exact absurd rfl h.ne_nil
  next heq =>
    cases heq
    have := h.zero rfl
    simp at this
  next heq => rw [heq]

theorem readFraction_append {fraction : Option (List Char)} {text rest : List Char}
    (h : IsFraction fraction text) (hrest : NoDigit rest) (hpoint : rest.head? ≠ some '.') :
    readFraction (text ++ rest) = .ok (fraction, rest) := by
  cases h with
  | none =>
    cases rest with
    | nil => rfl
    | cons c rest =>
      have hc : c ≠ '.' := fun h => hpoint (congrArg some h)
      simp [readFraction, hc]
  | some hne hdigits =>
    simp only [List.cons_append, readFraction, digitsOf_append hdigits hrest]

theorem readExponent_digits (minus : Bool) {digits rest : List Char} (hne : digits ≠ [])
    (hdigits : ∀ c ∈ digits, isDigit c) (hrest : NoDigit rest) :
    readExponent ('e' :: (if minus then '-' else '+') :: (digits ++ rest)) =
      .ok (some (if minus then -digitsValue digits else digitsValue digits), rest) := by
  have hsign : readSign ((if minus then '-' else '+') :: (digits ++ rest)) =
      (minus, digits ++ rest) := by cases minus <;> rfl
  simp only [readExponent, hsign, digitsOf_append hdigits hrest]
  cases digits with
  | nil => exact absurd rfl hne
  | cons d digits => rfl

/-- An exponent is read with its sign, and none where there is none. -/
theorem readExponent_append {exponent : Option Int} {text rest : List Char}
    (h : IsExponent exponent text) (hrest : ValueEnd rest) :
    readExponent (text ++ rest) = .ok (exponent, rest) := by
  cases h with
  | none =>
    cases rest with
    | nil => rfl
    | cons c rest => rcases hrest c rfl with rfl | rfl | rfl <;> rfl
  | up hne hdigits =>
    exact readExponent_digits false hne hdigits hrest.noDigit
  | down hne hdigits =>
    exact readExponent_digits true hne hdigits hrest.noDigit

/-- A number is read as its parts. -/
theorem readNumber_parts {whole : List Char} {fraction : Option (List Char)}
    {fractionText : List Char} {exponent : Option Int} {exponentText rest : List Char}
    (hwhole : IsWhole whole) (hfraction : IsFraction fraction fractionText)
    (hexponent : IsExponent exponent exponentText) (hrest : ValueEnd rest) (negative : Bool) :
    readNumber negative (whole ++ (fractionText ++ (exponentText ++ rest))) =
      ((NumberToken.mk negative whole fraction exponent).toNode, rest) := by
  have hbehind : NoDigit (exponentText ++ rest) ∧ (exponentText ++ rest).head? ≠ some '.' := by
    cases hexponent with
    | none =>
      refine ⟨hrest.noDigit, fun h => ?_⟩
      rcases hrest '.' h with h | h | h <;> cases h
    | up => exact ⟨fun c hc => by cases hc; rfl, by simp⟩
    | down => exact ⟨fun c hc => by cases hc; rfl, by simp⟩
  have hbehindWhole : NoDigit (fractionText ++ (exponentText ++ rest)) := by
    cases hfraction with
    | none => exact hbehind.1
    | some => exact fun c hc => by cases hc; rfl
  have hread : readUnsigned negative (whole ++ (fractionText ++ (exponentText ++ rest))) =
      .ok ((NumberToken.mk negative whole fraction exponent).toNode, rest) := by
    simp only [readUnsigned, readWhole_append hwhole hbehindWhole, bind, Except.bind,
      readFraction_append hfraction hbehind.1 hbehind.2, readExponent_append hexponent hrest]
    rfl
  simp only [readNumber, hread]

/-! What a number stands for -/

theorem NumberToken.skipFault?_toNode (t : NumberToken) : t.toNode.skipFault? = none := by
  unfold toNode
  dsimp only
  repeat' split
  all_goals rfl

theorem le_ofDigitChars (digits : List Char) (n : Nat) : n ≤ Nat.ofDigitChars 10 digits n := by
  rw [Nat.ofDigitChars_eq_ofDigitChars_zero]
  exact Nat.le_trans (Nat.le_mul_of_pos_left n (Nat.pow_pos (by decide))) (Nat.le_add_right _ _)

/-- Digits of a number of 64 bits are all kept. -/
theorem appendDigits_eq (digits : List Char) (n kept : Nat)
    (h : Nat.ofDigitChars 10 digits n < Nat.pow 2 64) :
    appendDigits n kept digits = (Nat.ofDigitChars 10 digits n, kept + digits.length) := by
  induction digits generalizing n kept with
  | nil => rfl
  | cons c digits ih =>
    rw [Nat.ofDigitChars_cons, Nat.mul_comm] at h ⊢
    have hnext := Nat.lt_of_le_of_lt (le_ofDigitChars digits _) h
    simp only [appendDigits]
    rw [if_pos hnext, ih _ _ h, List.length_cons, Nat.add_assoc, Nat.add_comm 1]

theorem isWhole_toDigits (n : Nat) : IsWhole (Nat.toDigits 10 n) := by
  refine ⟨Nat.toDigits_ne_nil, fun c hc => isDigit_of_mem_toDigits hc, fun h => ?_⟩
  rcases Nat.eq_zero_or_pos n with rfl | hn
  · rfl
  · exact absurd h (head?_toDigits_ne_zero (by decide) hn)

/-- A whole number that fits 64 bits is read as such. -/
theorem toNode_natural {n : Nat} (h : n < Nat.pow 2 64) :
    (NumberToken.mk false (Nat.toDigits 10 n) none none).toNode = .natural n := by
  have happend := appendDigits_eq (Nat.toDigits 10 n) 0 0
    (by rw [Nat.ofDigitChars_ten_toDigits]; exact h)
  simp [NumberToken.toNode, happend, Nat.ofDigitChars_ten_toDigits]

/-! The text of floating point numbers -/

/-- The text of a number without its sign. -/
def IsUnsigned (cs : List Char) : Prop :=
  ∃ whole fraction fractionText exponent exponentText, IsWhole whole ∧
    IsFraction fraction fractionText ∧ IsExponent exponent exponentText ∧
    cs = whole ++ (fractionText ++ exponentText)

/-- Whatever follows the number, the reading stops behind it. -/
theorem IsUnsigned.read {cs : List Char} (h : IsUnsigned cs) (negative : Bool) :
    ∃ t : NumberToken, ∀ rest, ValueEnd rest →
      readNumber negative (cs ++ rest) = (t.toNode, rest) := by
  obtain ⟨whole, fraction, fractionText, exponent, exponentText, hwhole, hfraction, hexponent,
    rfl⟩ := h
  refine ⟨⟨negative, whole, fraction, exponent⟩, fun rest hrest => ?_⟩
  rw [List.append_assoc, List.append_assoc]
  exact readNumber_parts hwhole hfraction hexponent hrest negative

theorem IsUnsigned.head {cs : List Char} (h : IsUnsigned cs) :
    ∃ c rest, cs = c :: rest ∧ isDigit c := by
  obtain ⟨whole, fraction, fractionText, exponent, exponentText, hwhole, -, -, rfl⟩ := h
  cases whole with
  | nil => exact absurd rfl hwhole.ne_nil
  | cons c whole => exact ⟨c, _, rfl, hwhole.digits c List.mem_cons_self⟩

theorem isUnsigned_toDigits (n : Nat) : IsUnsigned (Nat.toDigits 10 n) :=
  ⟨_, none, [], none, [], isWhole_toDigits n, .none, .none, by simp⟩

theorem toList_zeros (n : Nat) : (Decimal.zeros n).toList = List.replicate n '0' := by
  simp [Decimal.zeros]

theorem isDigit_of_mem_zeros {n : Nat} {c : Char} (h : c ∈ List.replicate n '0') : isDigit c := by
  rw [List.eq_of_mem_replicate h]
  rfl

theorem isUnsigned_point {whole : List Char} (hwhole : IsWhole whole) (digits : List Char)
    (hne : digits ≠ []) (hdigits : ∀ c ∈ digits, isDigit c) : IsUnsigned (whole ++ '.' :: digits) :=
  ⟨whole, some digits, _, none, [], hwhole, .some hne hdigits, .none, by simp⟩

/-- A leading digit, the digits after the point if there are any, and a power of ten. -/
theorem isUnsigned_scientific {d : Char} (hd : isDigit d) {tail : List Char}
    (htail : ∀ c ∈ tail, isDigit c) (up : Bool) (n : Nat) :
    IsUnsigned ((if tail.isEmpty then [d] else d :: '.' :: tail) ++
      'e' :: (if up then '+' else '-') :: Nat.toDigits 10 n) := by
  have hwhole : IsWhole [d] := ⟨List.cons_ne_nil _ _, by simpa using hd, fun _ => rfl⟩
  have hdigits : ∀ c ∈ Nat.toDigits 10 n, isDigit c := fun c hc => isDigit_of_mem_toDigits hc
  obtain ⟨exponent, hexponent⟩ : ∃ exponent,
      IsExponent exponent ('e' :: (if up then '+' else '-') :: Nat.toDigits 10 n) := by
    cases up with
    | true => exact ⟨_, .up Nat.toDigits_ne_nil hdigits⟩
    | false => exact ⟨_, .down Nat.toDigits_ne_nil hdigits⟩
  cases tail with
  | nil => exact ⟨[d], none, [], exponent, _, hwhole, .none, hexponent, rfl⟩
  | cons c tail =>
    exact ⟨[d], some (c :: tail), _, exponent, _, hwhole, .some (List.cons_ne_nil _ _) htail,
      hexponent, rfl⟩

theorem isWhole_zero : IsWhole ['0'] := ⟨List.cons_ne_nil _ _, by simp [isDigit], fun _ => rfl⟩

/-- The scientific text, character by character. -/
theorem toList_scientific (d : Char) (tail : List Char) (e : Int) :
    ((if tail.isEmpty then String.ofList [d] else String.ofList [d] ++ "." ++ String.ofList tail) ++
        (if 0 ≤ e then "e+" else "e-") ++ toString e.natAbs).toList =
      (if tail.isEmpty then [d] else d :: '.' :: tail) ++
        'e' :: (if 0 ≤ e then '+' else '-') :: Nat.toDigits 10 e.natAbs := by
  have hmantissa : (if tail.isEmpty then String.ofList [d]
      else String.ofList [d] ++ "." ++ String.ofList tail).toList =
        if tail.isEmpty then [d] else d :: '.' :: tail := by
    split <;> simp
  have hsign : (if 0 ≤ e then "e+" else "e-").toList = ['e', if 0 ≤ e then '+' else '-'] := by
    split <;> rfl
  rw [String.toList_append, String.toList_append, hmantissa, hsign,
    Nat.toString_eq_ofList_toDigits, String.toList_ofList, List.append_assoc]
  rfl

/-- However a positive decimal number is laid out, it is a number. -/
theorem isUnsigned_render (layout : Decimal.Layout) {x : Decimal} (hx : 0 < x.digits) :
    IsUnsigned (x.render layout).toList := by
  have hhead : (Nat.toDigits 10 x.digits).head? ≠ some '0' := head?_toDigits_ne_zero (by decide) hx
  obtain ⟨d, tail, htext⟩ : ∃ d tail, Nat.toDigits 10 x.digits = d :: tail :=
    List.exists_cons_of_ne_nil Nat.toDigits_ne_nil
  have hdigits : ∀ c ∈ d :: tail, isDigit c := fun c hc => isDigit_of_mem_toDigits (htext ▸ hc)
  obtain ⟨hd, htail⟩ := List.forall_mem_cons.mp hdigits
  have hwhole {behind : List Char} (h : ∀ c ∈ behind, isDigit c) : IsWhole (d :: behind) := by
    rw [htext] at hhead
    exact ⟨List.cons_ne_nil _ _, List.forall_mem_cons.mpr ⟨hd, h⟩,
      fun h => absurd h hhead⟩
  have hzeros (n : Nat) : ∀ c ∈ List.replicate n '0', isDigit c := fun c => isDigit_of_mem_zeros
  have hchars : (toString x.digits).toList = d :: tail := by simp [htext]
  have hfirst : x.exponent + ((toString x.digits).length : Int) - 1 = x.exponent + tail.length := by
    rw [← String.length_toList, hchars, List.length_cons]
    omega
  have hpoint : ".".toList = ['.'] := rfl
  have hpointZero : ".0".toList = ['.', '0'] := rfl
  have hzeroPoint : "0.".toList = ['0', '.'] := rfl
  unfold Decimal.render
  simp only [hchars, hfirst, List.take_succ_cons, List.drop_succ_cons, List.take_zero,
    List.drop_zero]
  split
  next =>
    split
    next =>
      simp only [String.toList_append, hchars, toList_zeros, hpointZero]
      exact isUnsigned_point (hwhole (List.forall_mem_append.mpr ⟨htail, hzeros _⟩)) ['0']
        (List.cons_ne_nil _ _) (by simp [isDigit])
    next hexponent =>
      split
      next =>
        simp only [String.toList_append, String.toList_ofList, hpoint, List.append_assoc]
        refine isUnsigned_point (hwhole fun c hc => htail c (List.mem_of_mem_take hc))
          (tail.drop (x.exponent + tail.length).toNat) ?_
          fun c hc => htail c (List.mem_of_mem_drop hc)
        rw [Ne, List.drop_eq_nil_iff]
        omega
      next =>
        simp only [String.toList_append, hchars, toList_zeros, hzeroPoint, List.append_assoc]
        exact isUnsigned_point isWhole_zero (List.replicate _ '0' ++ d :: tail) (by simp)
          (List.forall_mem_append.mpr ⟨hzeros _, hdigits⟩)
  next =>
    have hscientific := isUnsigned_scientific hd htail (0 ≤ x.exponent + tail.length)
      (x.exponent + tail.length).natAbs
    rw [toList_scientific]
    simpa using hscientific

/-- Zero never reads back as a positive number. -/
theorem digits_pos_of_onGrid? {s d : Nat} {e k : Int} {narrow : Bool} (hs : 0 < s)
    (h : Decimal.onGrid? s e narrow k = some d) : 0 < d := by
  have hunit : 0 < (Decimal.powerOfTen k).2 * (Floating.powerOfTwo (e - 2)).1 :=
    Nat.mul_pos (Nat.pow_pos (by decide)) (Nat.pow_pos (by decide))
  have hlow : 0 < (4 * s - if narrow then 1 else 2) *
      ((Decimal.powerOfTen k).2 * (Floating.powerOfTwo (e - 2)).1) := by
    apply Nat.mul_pos _ hunit
    split <;> omega
  simp only [Decimal.onGrid?] at h
  generalize (4 * s - if narrow = true then 1 else 2) * _ = low at h hlow
  generalize 4 * s * _ / _ = below at h
  cases below with
  | zero =>
    -- zero does not reach `low`, so the neighbour above is taken, if any
    have hnone : decide (low ≤ 0) = false := decide_eq_false (by omega)
    simp only [Nat.zero_mul, hnone, Nat.not_lt_zero, decide_false, Bool.false_and, ite_self] at h
    split at h
    next heq _ => cases heq
    next heq _ => cases heq
    next => cases h; exact Nat.one_pos
    next => cases h
  | succ below =>
    have hpos : 0 < below + 1 ∧ 0 < below + 1 + 1 := by omega
    split at h
    next =>
      split at h
      next => cases h; exact hpos.1
      next =>
        split at h
        next => cases h; exact hpos.2
        next =>
          split at h
          next => cases h; exact hpos.1
          next => cases h; exact hpos.2
    next => cases h; exact hpos.1
    next => cases h; exact hpos.2
    next => cases h

theorem digits_pos_of_shortest {s : Nat} (hs : 0 < s) (e : Int) :
    0 < (Decimal.shortest s e).digits := by
  have hsearch (narrow : Bool) (steps : Nat) (k : Int) :
      0 < (Decimal.search s e narrow steps k).digits := by
    induction steps generalizing k with
    | zero => exact hs
    | succ steps ih =>
      simp only [Decimal.search]
      split
      next d hd => exact digits_pos_of_onGrid? hs hd
      next => exact ih (k - 1)
  exact hsearch _ _ _

/-- The shortest text of a finite number has the syntax of a number. -/
theorem toList_shortestText (negative : Bool) (s : Nat) (e : Int) : ∃ cs, IsUnsigned cs ∧
    (Floating.finite negative s e).shortestText.toList = if negative then '-' :: cs else cs := by
  have hcs : IsUnsigned
      (if s = 0 then "0.0" else (Decimal.shortest s e).render Floating.documentLayout).toList := by
    split
    next =>
      exact isUnsigned_point isWhole_zero ['0'] (List.cons_ne_nil _ _) (by simp [isDigit])
    next hs => exact isUnsigned_render _ (digits_pos_of_shortest (Nat.pos_of_ne_zero hs) e)
  refine ⟨_, hcs, ?_⟩
  simp only [Floating.shortestText, String.toList_append]
  cases negative <;> rfl

end AmphoraWiring.Json
