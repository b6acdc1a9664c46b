import AmphoraWiring.Json.Reader
import AmphoraWiring.Json.Writer

/-!
Strings of documents. Whatever characters a string has, its spelling is read back as the string,
up to the quote that closes it.
-/
namespace AmphoraWiring.Json

/-- A control character without an escape of its own is spelled by its number. -/
theorem hexUnit?_hexDigit {n : Nat} (h : n < 0x20) :
    hexUnit? '0' '0' (hexDigit (n / 16)) (hexDigit (n % 16)) = some n := by
  decide +revert

/-- A character is spelled by a letter behind a backslash, by its number, or as it is. -/
theorem escapeChar_cases (c : Char) :
    (∃ e, escapeChar c = ['\\', e] ∧ simpleEscape? e = some c) ∨
      (c.toNat < 0x20 ∧ escapeChar c =
        ['\\', 'u', '0', '0', hexDigit (c.toNat / 16), hexDigit (c.toNat % 16)]) ∨
      (c ≠ '"' ∧ c ≠ '\\' ∧ ¬ c.toNat < 0x20 ∧ escapeChar c = [c]) := by
  by_cases hsimple : c ∈ ['"', '\\', '\n', '\r', '\t', '\x08', '\x0c']
  · left
    simp only [List.mem_cons, List.not_mem_nil, or_false] at hsimple
    rcases hsimple with rfl | rfl | rfl | rfl | rfl | rfl | rfl <;> exact ⟨_, rfl, rfl⟩
  · right
    simp only [List.mem_cons, List.not_mem_nil, or_false, not_or] at hsimple
    obtain ⟨hquote, hbackslash, hn, hr, ht, hb, hf⟩ := hsimple
    by_cases hcontrol : c.toNat < 0x20
    · exact .inl ⟨hcontrol, by simp [escapeChar, *]⟩
    · exact .inr ⟨hquote, hbackslash, hcontrol, by simp [escapeChar, *]⟩

/-- An escaped character is read back. -/
theorem readString_escapeChar (read : List Char) (c : Char) (rest : List Char) :
    readString read none none (escapeChar c ++ rest) = readString (c :: read) none none rest := by
  rcases escapeChar_cases c with ⟨e, hc, he⟩ | ⟨hlt, hc⟩ | ⟨hquote, hbackslash, hge, hc⟩
  · have hu : e ≠ 'u' := by
      rintro rfl
      cases he
    simp [hc, readString, hu, he, readString.unfinished]
  · have htrailing : isTrailing c.toNat = false := by simp [isTrailing]; omega
    have hleading : isLeading c.toNat = false := by simp [isLeading]; omega
    simp [hc, readString, hexUnit?_hexDigit hlt, htrailing, hleading]
  · simp [hc, readString, hbackslash, hge, readString.unfinished]

theorem readString_escaped (read : List Char) (cs rest : List Char) :
    readString read none none (cs.flatMap escapeChar ++ '"' :: rest) =
      .closed (read.reverse ++ cs) none rest := by
  induction cs generalizing read with
  | nil => simp [readString, readString.unfinished]
  | cons c cs ih =>
    rw [List.flatMap_cons, List.append_assoc, readString_escapeChar, ih]
    simp

/-- The spelling of a string behind its opening quote. -/
theorem readString_writeString (s : String) (rest : List Char) :
    readString [] none none ((writeString s).tail ++ rest) = .closed s.toList none rest := by
  have htail : (writeString s).tail ++ rest = s.toList.flatMap escapeChar ++ '"' :: rest := by
    simp [writeString]
  rw [htail, readString_escaped]
  rfl

end AmphoraWiring.Json
