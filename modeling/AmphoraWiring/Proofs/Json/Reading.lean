import AmphoraWiring.Proofs.Json.Numbers
import AmphoraWiring.Proofs.Json.Strings

/-!
Reading the compact text of a document. The reader gives the document back, except that it takes
the numbers anew from their digits: a natural number of 64 bits stays what it is. Nothing in such
a text is at fault, and the reader needs two steps for each character at most.
-/
namespace AmphoraWiring.Json

mutual

/-- What a reader makes of the compact text of a document. -/
def reread : Json → Node
  | .null => .null
  | .bool b => .bool b
  | .string s => .string s
  | .array items => .array (rereadItems items) none
  | .object members => .object (rereadMembers members) none
  | number => (readValue 1 (writeScalar number)).1

def rereadItems : List Json → List Node
  | [] => []
  | item :: items => reread item :: rereadItems items

def rereadMembers : List (String × Json) → List (Except Fault String × Node)
  | [] => []
  | (name, value) :: members => (.ok name, reread value) :: rereadMembers members

end

/-! Numbers as values -/

theorem skipBlanks_cons {c : Char} (hc : isBlank c = false) (cs : List Char) :
    skipBlanks (c :: cs) = c :: cs := by simp [skipBlanks, hc]

theorem readValue_minus (fuel : Nat) (cs : List Char) :
    readValue (fuel + 1) ('-' :: cs) = readNumber true cs := rfl

theorem ne_of_isDigit {c d : Char} (hc : isDigit c) (hd : isDigit d = false) : c ≠ d := by
  rintro rfl
  rw [hc] at hd
  cases hd

theorem isBlank_of_isDigit {c : Char} (hc : isDigit c) : isBlank c = false := by
  have hne (d : Char) (hd : isDigit d = false) := ne_of_isDigit hc hd
  simp [isBlank, hne ' ' rfl, hne '\n' rfl, hne '\t' rfl, hne '\r' rfl]

theorem readValue_digit (fuel : Nat) {c : Char} (hc : isDigit c) (cs : List Char) :
    readValue (fuel + 1) (c :: cs) = readNumber false (c :: cs) := by
  have hne (d : Char) (hd : isDigit d = false) := ne_of_isDigit hc hd
  simp [readValue, skipBlanks_cons (isBlank_of_isDigit hc), hc, hne 'n' rfl, hne 't' rfl,
    hne 'f' rfl, hne '-' rfl, hne '"' rfl, hne '[' rfl, hne '{' rfl]

/-- The same node is read from a number wherever it stands, and it is at no fault. -/
theorem readValue_number {cs : List Char} (h : IsUnsigned cs) (negative : Bool) :
    ∃ t : NumberToken, ∀ fuel rest, ValueEnd rest →
      readValue (fuel + 1) ((if negative then '-' :: cs else cs) ++ rest) = (t.toNode, rest) := by
  obtain ⟨t, ht⟩ := h.read negative
  refine ⟨t, fun fuel rest hrest => ?_⟩
  rw [← ht rest hrest]
  cases negative with
  | true => exact readValue_minus fuel (cs ++ rest)
  | false =>
    obtain ⟨c, tail, rfl, hc⟩ := h.head
    exact readValue_digit fuel hc (tail ++ rest)

theorem readValue_null (fuel : Nat) (rest : List Char) :
    readValue (fuel + 1) ("null".toList ++ rest) = (.null, rest) := rfl

/-- How a number of any kind is written. -/
theorem writeScalar_real (x : Floating) : writeScalar (.real x) = "null".toList ∨
    ∃ (cs : List Char) (negative : Bool), IsUnsigned cs ∧
      writeScalar (.real x) = if negative then '-' :: cs else cs := by
  cases x with
  | undefined => exact .inl rfl
  | infinite negative => exact .inl rfl
  | finite negative s e =>
    obtain ⟨cs, hcs, htext⟩ := toList_shortestText negative s e
    exact .inr ⟨cs, negative, hcs, htext⟩

/-- Numbers as documents. -/
def IsNumber : Json → Prop
  | .natural _ | .negative _ | .real _ => True
  | _ => False

/-- A number is read back from its text. -/
theorem readValue_writeScalar {j : Json} (hj : j.IsNumber) :
    (reread j).skipFault? = none ∧ ∀ fuel rest, ValueEnd rest →
      readValue (fuel + 1) (writeScalar j ++ rest) = (reread j, rest) := by
  have hread : ∃ node : Node, node.skipFault? = none ∧ ∀ fuel rest, ValueEnd rest →
      readValue (fuel + 1) (writeScalar j ++ rest) = (node, rest) := by
    have hnumber : writeScalar j = "null".toList ∨
        ∃ (cs : List Char) (negative : Bool), IsUnsigned cs ∧
        writeScalar j = if negative then '-' :: cs else cs := by
      cases j with
      | natural n => exact .inr ⟨_, false, isUnsigned_toDigits n, by simp [writeScalar]⟩
      | negative n => exact .inr ⟨_, true, isUnsigned_toDigits n, by simp [writeScalar]⟩
      | real x => exact writeScalar_real x
      | _ => exact hj.elim
    rcases hnumber with hnull | ⟨cs, negative, hcs, htext⟩
    · exact ⟨.null, rfl, fun fuel rest _ => hnull ▸ readValue_null fuel rest⟩
    · obtain ⟨t, ht⟩ := readValue_number hcs negative
      exact ⟨t.toNode, t.skipFault?_toNode, htext ▸ ht⟩
  obtain ⟨node, hfault, hread⟩ := hread
  have hnode : reread j = node := by
    have hempty := hread 0 [] valueEnd_nil
    rw [List.append_nil] at hempty
    cases j with
    | natural n => exact congrArg Prod.fst hempty
    | negative n => exact congrArg Prod.fst hempty
    | real x => exact congrArg Prod.fst hempty
    | _ => exact hj.elim
  exact hnode ▸ ⟨hfault, hread⟩

theorem reread_natural {n : Nat} (h : n < Nat.pow 2 64) : reread (.natural n) = .natural n := by
  obtain ⟨c, tail, htext, hc⟩ := (isUnsigned_toDigits n).head
  have hscalar : writeScalar (.natural n) = Nat.toDigits 10 n := by simp [writeScalar]
  have hread := readNumber_parts (isWhole_toDigits n) .none .none valueEnd_nil false
  rw [List.nil_append, List.append_nil, List.append_nil, toNode_natural h] at hread
  change (readValue 1 (writeScalar (.natural n))).1 = _
  rw [hscalar, htext, readValue_digit 0 hc, ← htext]
  exact congrArg Prod.fst hread

/-- What was written has no faults in it. -/
theorem skipFault?_reread (j : Json) : (reread j).skipFault? = none := by
  cases j with
  | natural n => exact (readValue_writeScalar (j := .natural n) trivial).1
  | negative n => exact (readValue_writeScalar (j := .negative n) trivial).1
  | real x => exact (readValue_writeScalar (j := .real x) trivial).1
  | _ => rfl

/-! Values, items and members -/

/-- The text goes on with the first character of a value. -/
def ValueBegin (cs : List Char) : Prop := ∃ c rest, cs = c :: rest ∧ isBlank c = false ∧ c ≠ ']'

theorem ValueBegin.append {cs : List Char} (h : ValueBegin cs) (rest : List Char) :
    ValueBegin (cs ++ rest) := by
  obtain ⟨c, tail, rfl, hc⟩ := h
  exact ⟨c, tail ++ rest, rfl, hc⟩

/-- A text begins with a character that tells what kind of value follows. -/
theorem valueBegin_writeCompact (j : Json) : ValueBegin (writeCompact j) := by
  have hnumber {cs : List Char} (h : IsUnsigned cs) (negative : Bool) :
      ValueBegin (if negative then '-' :: cs else cs) := by
    cases negative with
    | true => exact ⟨'-', cs, rfl, rfl, by decide⟩
    | false =>
      obtain ⟨c, rest, rfl, hc⟩ := h.head
      exact ⟨c, rest, rfl, isBlank_of_isDigit hc, ne_of_isDigit hc rfl⟩
  cases j with
  | null => exact ⟨'n', _, rfl, rfl, by decide⟩
  | bool b => cases b <;> exact ⟨_, _, rfl, rfl, by decide⟩
  | natural n => simpa [writeCompact, writeScalar] using hnumber (isUnsigned_toDigits n) false
  | negative n => simpa [writeCompact, writeScalar] using hnumber (isUnsigned_toDigits n) true
  | real x =>
    rcases writeScalar_real x with hnull | ⟨cs, negative, hcs, htext⟩
    · exact ⟨'n', _, hnull, rfl, by decide⟩
    · change ValueBegin (writeScalar (.real x))
      rw [htext]
      exact hnumber hcs negative
  | string s => exact ⟨'"', _, rfl, rfl, by decide⟩
  | array items => exact ⟨'[', _, rfl, rfl, by decide⟩
  | object members => exact ⟨'{', _, rfl, rfl, by decide⟩

theorem valueBegin_compactItems {items : List Json} (h : items ≠ []) :
    ValueBegin (compactItems items) := by
  cases items with
  | nil => exact absurd rfl h
  | cons item items =>
    cases items with
    | nil => exact valueBegin_writeCompact item
    | cons next items => exact (valueBegin_writeCompact item).append _

/-- Members begin with the quote of a name. -/
theorem compactMembers_eq {members : List (String × Json)} (h : members ≠ []) :
    compactMembers members = '"' :: (compactMembers members).tail := by
  cases members with
  | nil => exact absurd rfl h
  | cons member members => cases members <;> rfl

section

variable {fuel : Nat} {node : Node} {cs rest : List Char}

theorem readItems_last (hnode : node.skipFault? = none)
    (hread : readValue fuel cs = (node, ']' :: rest)) :
    readItems (fuel + 1) cs = ([node], none, rest) := by
  simp only [readItems, hread, hnode, skipBlanks_cons (c := ']') rfl]

/-- Behind a comma the items go on. -/
theorem readItems_comma (hnode : node.skipFault? = none)
    (hread : readValue fuel cs = (node, ',' :: rest)) (hrest : ValueBegin rest) :
    readItems (fuel + 1) cs =
      let (items, cut, rest) := readItems fuel rest
      (node :: items, cut, rest) := by
  obtain ⟨c, tail, rfl, hblank, hbracket⟩ := hrest
  simp only [readItems, hread, hnode, skipBlanks_cons (c := ',') rfl, skipBlanks_cons hblank]
  split
  next heq =>
    cases heq
    exact absurd rfl hbracket
  next => rfl

/-- A member from behind the opening quote of its name. -/
theorem readMembers_name (name : String) (cs : List Char) :
    readString [] none none ((writeString name).tail ++ ':' :: cs) =
      .closed name.toList none (':' :: cs) :=
  readString_writeString name _

theorem readMembers_last (name : String) (hnode : node.skipFault? = none)
    (hread : readValue fuel cs = (node, '}' :: rest)) :
    readMembers (fuel + 1) ((writeString name).tail ++ ':' :: cs) =
      ([(.ok name, node)], none, rest) := by
  simp only [readMembers, readMembers_name, skipBlanks_cons (c := ':') rfl, hread, hnode,
    skipBlanks_cons (c := '}') rfl, String.ofList_toList]

/-- Behind a comma the members go on with a name. -/
theorem readMembers_comma (name : String) (hnode : node.skipFault? = none)
    (hread : readValue fuel cs = (node, ',' :: '"' :: rest)) :
    readMembers (fuel + 1) ((writeString name).tail ++ ':' :: cs) =
      let (members, cut, rest) := readMembers fuel rest
      ((.ok name, node) :: members, cut, rest) := by
  simp only [readMembers, readMembers_name, skipBlanks_cons (c := ':') rfl, hread, hnode,
    skipBlanks_cons (c := ',') rfl, skipBlanks_cons (c := '"') rfl, String.ofList_toList]

end

mutual

/-- By induction on the value; each step of the reading takes a character, so twice the length is
enough. -/
theorem readValue_writeCompact : (j : Json) → (fuel : Nat) → (rest : List Char) →
    2 * (writeCompact j).length ≤ fuel → ValueEnd rest →
      readValue fuel (writeCompact j ++ rest) = (reread j, rest)
  | j, 0, rest, hfuel, hrest => by
    obtain ⟨c, cs, hj, -⟩ := valueBegin_writeCompact j
    simp [hj] at hfuel
  | .null, fuel + 1, rest, hfuel, hrest => rfl
  | .bool true, fuel + 1, rest, hfuel, hrest => rfl
  | .bool false, fuel + 1, rest, hfuel, hrest => rfl
  | .natural n, fuel + 1, rest, hfuel, hrest =>
    (readValue_writeScalar (j := .natural n) trivial).2 fuel rest hrest
  | .negative n, fuel + 1, rest, hfuel, hrest =>
    (readValue_writeScalar (j := .negative n) trivial).2 fuel rest hrest
  | .real x, fuel + 1, rest, hfuel, hrest =>
    (readValue_writeScalar (j := .real x) trivial).2 fuel rest hrest
  | .string s, fuel + 1, rest, hfuel, hrest => by
    change readValue (fuel + 1) ('"' :: ((writeString s).tail ++ rest)) = _
    simp only [readValue, skipBlanks_cons (c := '"') rfl, readString_writeString,
      String.ofList_toList, reread]
  | .array [], fuel + 1, rest, hfuel, hrest => rfl
  | .array (item :: items), fuel + 1, rest, hfuel, hrest => by
    have hitems := readItems_compactItems (item :: items) (List.cons_ne_nil _ _) fuel rest
      (by simp only [writeCompact, List.length_cons, List.length_append, List.length_nil] at hfuel
          omega)
    obtain ⟨c, cs, hbegin, hblank, hbracket⟩ :=
      (valueBegin_compactItems (List.cons_ne_nil item items)).append (']' :: rest)
    change readValue (fuel + 1) ('[' :: (compactItems (item :: items) ++ [']'] ++ rest)) = _
    rw [List.append_assoc]
    change readValue (fuel + 1) ('[' :: (compactItems (item :: items) ++ ']' :: rest)) = _
    rw [hbegin] at hitems ⊢
    simp only [readValue, skipBlanks_cons (c := '[') rfl, skipBlanks_cons hblank, hitems]
    split
    next heq => cases heq
    next heq =>
      cases heq
      exact absurd rfl hbracket
    next => rfl
  | .object [], fuel + 1, rest, hfuel, hrest => rfl
  | .object (member :: members), fuel + 1, rest, hfuel, hrest => by
    have hmembers := readMembers_compactMembers (member :: members) (List.cons_ne_nil _ _) fuel
      rest
      (by simp only [writeCompact, List.length_cons, List.length_append, List.length_nil] at hfuel
          omega)
    change readValue (fuel + 1) ('{' :: (compactMembers (member :: members) ++ ['}'] ++ rest)) = _
    rw [List.append_assoc, compactMembers_eq (List.cons_ne_nil _ _)]
    change readValue (fuel + 1)
      ('{' :: '"' :: ((compactMembers (member :: members)).tail ++ '}' :: rest)) = _
    simp only [readValue, skipBlanks_cons (c := '{') rfl, skipBlanks_cons (c := '"') rfl, hmembers]
    rfl

theorem readItems_compactItems : (items : List Json) → items ≠ [] → (fuel : Nat) →
    (rest : List Char) → 2 * (compactItems items).length < fuel →
      readItems fuel (compactItems items ++ ']' :: rest) = (rereadItems items, none, rest)
  | [], hne, _, _, _ => absurd rfl hne
  | items, _, 0, rest, hfuel => absurd hfuel (Nat.not_lt_zero _)
  | [item], _, fuel + 1, rest, hfuel => by
    have hread := readValue_writeCompact item fuel (']' :: rest) (Nat.le_of_lt_succ hfuel)
      (by simp [ValueEnd])
    exact readItems_last (skipFault?_reread item) hread
  | item :: next :: items, _, fuel + 1, rest, hfuel => by
    have hlength : (compactItems (item :: next :: items)).length =
        (writeCompact item).length + ((compactItems (next :: items)).length + 1) := by
      simp [compactItems]
    have hread := readValue_writeCompact item fuel
      (',' :: (compactItems (next :: items) ++ ']' :: rest)) (by omega) (by simp [ValueEnd])
    have hbegin := (valueBegin_compactItems (List.cons_ne_nil next items)).append (']' :: rest)
    have hitems := readItems_compactItems (next :: items) (List.cons_ne_nil _ _) fuel rest
      (by omega)
    have hcomma := readItems_comma (skipFault?_reread item) hread hbegin
    rw [hitems] at hcomma
    change readItems (fuel + 1)
      ((writeCompact item ++ ',' :: compactItems (next :: items)) ++ ']' :: rest) = _
    rw [List.append_assoc]
    exact hcomma

theorem readMembers_compactMembers : (members : List (String × Json)) → members ≠ [] →
    (fuel : Nat) → (rest : List Char) → 2 * (compactMembers members).length < fuel →
      readMembers fuel ((compactMembers members).tail ++ '}' :: rest) =
        (rereadMembers members, none, rest)
  | [], hne, _, _, _ => absurd rfl hne
  | members, _, 0, rest, hfuel => absurd hfuel (Nat.not_lt_zero _)
  | [(name, value)], _, fuel + 1, rest, hfuel => by
    have hread := readValue_writeCompact value fuel ('}' :: rest)
      (by simp only [compactMembers, List.length_append, List.length_cons] at hfuel
          omega) (by simp [ValueEnd])
    change readMembers (fuel + 1)
      (((writeString name).tail ++ ':' :: writeCompact value) ++ '}' :: rest) = _
    rw [List.append_assoc]
    exact readMembers_last name (skipFault?_reread value) hread
  | (name, value) :: next :: members, _, fuel + 1, rest, hfuel => by
    have hlength : (compactMembers ((name, value) :: next :: members)).length =
        (writeString name).length + ((writeCompact value).length +
          ((compactMembers (next :: members)).length + 2)) := by
      simp [compactMembers]
      omega
    have hmembers := readMembers_compactMembers (next :: members) (List.cons_ne_nil _ _) fuel
      rest (by omega)
    have hread := readValue_writeCompact value fuel
      (',' :: (compactMembers (next :: members) ++ '}' :: rest)) (by omega) (by simp [ValueEnd])
    have hquote := compactMembers_eq (List.cons_ne_nil next members)
    rw [hquote, List.cons_append] at hread
    have hcomma := readMembers_comma name (skipFault?_reread value) hread
    rw [hmembers] at hcomma
    have htext : (compactMembers ((name, value) :: next :: members)).tail ++ '}' :: rest =
        (writeString name).tail ++ ':' :: (writeCompact value ++
          ',' :: (compactMembers (next :: members) ++ '}' :: rest)) := by
      simp [compactMembers, writeString]
    rw [htext, hquote]
    exact hcomma

end

/-- A compact text is a document and nothing stands behind it. -/
theorem readText_compactText (j : Json) : readText j.compactText = (reread j, none) := by
  have hread := readValue_writeCompact j (2 * (writeCompact j).length + 2) [] (by omega)
    valueEnd_nil
  rw [List.append_nil] at hread
  simp only [readText, compactText, String.toList_ofList, hread]
  rfl

end AmphoraWiring.Json
