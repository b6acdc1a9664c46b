import AmphoraWiring.Address.Cidr
import AmphoraWiring.Proofs.Address.Numerals
import Mathlib.Data.List.TakeWhile

/-!
Every address and every network range is read back from its text. The reader takes groups as far
as they go: a colon that no group follows is left for the double colon, and a group is not taken
for the first octet of a dotted address, since no point follows it.
-/
namespace AmphoraWiring.Address

/-! Dotted text -/

theorem mem_octets_lt {n octet : Nat} (h : octet ∈ octets n) : octet < 256 := by
  simp only [octets, places, List.nil_append, List.cons_append, List.mem_cons,
    List.not_mem_nil, or_false] at h
  omega

theorem readChar_cons (c : Char) (rest : List Char) : readChar c (c :: rest) = some ((), rest) :=
  if_pos rfl

/-- What follows four octets must not go on with a digit. -/
theorem readDotted_dotted (spelling : Spelling) (n : Nat) {rest : List Char}
    (hrest : Stops 10 rest) :
    readDotted spelling ((dotted n).toList ++ rest) = some (octets n, rest) := by
  have hread {octet : Nat} (h : octet ∈ octets n) {rest : List Char} (hrest : Stops 10 rest) :
      readNumber 10 3 256 spelling.leadingZeros (Nat.toDigits 10 octet ++ rest) =
        some (octet, rest) := by
    have hlt := mem_octets_lt h
    exact readNumber_toDigits (by decide) (by decide) (by decide) (by omega) hlt _ hrest
  have hpoint (rest : List Char) : Stops 10 ('.' :: rest) := stops_cons (by decide) rest
  have htext : (dotted n).toList ++ rest =
      Nat.toDigits 10 (n / 256 / 256 / 256 % 256) ++ '.' ::
        (Nat.toDigits 10 (n / 256 / 256 % 256) ++ '.' ::
          (Nat.toDigits 10 (n / 256 % 256) ++ '.' :: (Nat.toDigits 10 (n % 256) ++ rest))) := by
    simp [dotted, octets, places]
  simp only [htext, readDotted]
  rw [hread (by simp [octets, places]) (hpoint _)]
  simp only [Option.bind_eq_bind, Option.bind_some, readChar_cons]
  rw [hread (by simp [octets, places]) (hpoint _)]
  simp only [Option.bind_some, readChar_cons]
  rw [hread (by simp [octets, places]) (hpoint _)]
  simp only [Option.bind_some, readChar_cons]
  rw [hread (by simp [octets, places]) hrest]
  rfl

theorem drop_takeWhile {α : Type} (p : α → Bool) (as : List α) :
    as.drop (as.takeWhile p).length = as.dropWhile p := by
  conv =>
    lhs
    arg 2
    rw [← List.takeWhile_append_dropWhile (p := p) (l := as)]
  exact List.drop_left

/-- Without a point behind its first digits a text is no dotted address. -/
theorem readDotted_eq_none {spelling : Spelling} {cs : List Char}
    (h : (cs.dropWhile fun c => digitValue c < 10).head? ≠ some '.') :
    readDotted spelling cs = none := by
  cases hread : readNumber 10 3 256 spelling.leadingZeros cs with
  | none => simp only [readDotted, hread, Option.bind_eq_bind, Option.bind_none]
  | some octet =>
    have hpoint : readChar '.' octet.2 = none := by
      simp only [readNumber, drop_takeWhile] at hread
      split at hread
      next => cases hread
      next =>
        split at hread
        next => cases hread
        next =>
          cases hread
          cases hrest : cs.dropWhile (fun c => digitValue c < 10) with
          | nil => rfl
          | cons c rest =>
            rw [hrest] at h
            exact if_neg fun heq => h (congrArg some heq.symm)
    simp only [readDotted, hread, Option.bind_eq_bind, Option.bind_some, hpoint, Option.bind_none]

/-! Groups -/

/-- What stands behind a group: nothing more of the address, or another colon. -/
def GroupEnd (rest : List Char) : Prop := ∀ c ∈ rest.head?, c = ':' ∨ c = '/'

theorem GroupEnd.stops {rest : List Char} (h : GroupEnd rest) : Stops 16 rest := by
  intro c hc
  rcases h c hc with rfl | rfl <;> decide

theorem groupEnd_colon (rest : List Char) : GroupEnd (':' :: rest) := by simp [GroupEnd]

theorem groupEnd_of_slash {rest : List Char} (h : ∀ c ∈ rest.head?, c = '/') : GroupEnd rest :=
  fun c hc => .inr (h c hc)

/-- Groups that follow others, each behind a colon. -/
def colonGroups (gs : List Nat) : List Char := gs.flatMap fun g => ':' :: Nat.toDigits 16 g

theorem groupEnd_colonGroups (gs : List Nat) {rest : List Char} (hrest : GroupEnd rest) :
    GroupEnd (colonGroups gs ++ rest) := by
  cases gs with
  | nil => exact hrest
  | cons g gs => exact groupEnd_colon _

theorem toList_groupsText (g : Nat) (gs : List Nat) :
    (groupsText (g :: gs)).toList = Nat.toDigits 16 g ++ colonGroups gs := by
  induction gs generalizing g with
  | nil => simp [groupsText, hexText, colonGroups]
  | cons next gs ih =>
    have hcons : groupsText (g :: next :: gs) = hexText g ++ ":" ++ groupsText (next :: gs) :=
      String.intercalate_cons_cons
    rw [hcons, String.toList_append, ih]
    simp [hexText, colonGroups]

/-- A text without a point where its hexadecimal digits end is no dotted address. -/
theorem readDotted_of_groupEnd (spelling : Spelling) {digits rest : List Char}
    (hdigits : '.' ∉ digits) (hrest : GroupEnd rest) :
    readDotted spelling (digits ++ rest) = none := by
  apply readDotted_eq_none
  intro hhead
  rw [List.dropWhile_append] at hhead
  split at hhead
  next =>
    cases rest with
    | nil => cases hhead
    | cons c rest =>
      have hc : ¬ digitValue c < 10 := by
        have := hrest.stops c rfl
        omega
      rw [List.dropWhile_cons_of_neg (by simpa using hc)] at hhead
      cases hhead
      rcases hrest '.' rfl with h | h <;> cases h
  next hne =>
    cases hdrop : digits.dropWhile (fun c => digitValue c < 10) with
    | nil => simp [hdrop] at hne
    | cons c tail =>
      rw [hdrop] at hhead
      cases hhead
      exact hdigits ((List.dropWhile_sublist _).subset (hdrop ▸ List.mem_cons_self))

/-- An end of groups has no dots, so it is not read as octets. -/
theorem readDotted_eq_none_of_groupEnd (spelling : Spelling) {rest : List Char}
    (hrest : GroupEnd rest) : readDotted spelling rest = none :=
  readDotted_of_groupEnd spelling List.not_mem_nil hrest

theorem point_notMem_toDigits (g : Nat) : '.' ∉ Nat.toDigits 16 g := by
  intro h
  have := digitValue_of_mem_toDigits (by decide) (by decide) h
  revert this
  decide

/-- One group is read with all its digits, and then the rest of the groups. -/
theorem readGroup (spelling : Spelling) (limit : Nat) {g : Nat} (hg : g < 65536)
    {rest : List Char} (hrest : GroupEnd rest) :
    readGroups spelling true (limit + 1) (Nat.toDigits 16 g ++ rest) =
      let (gs, dotted, rest) := readGroups spelling false limit rest
      (g :: gs, dotted, rest) := by
  have hdotted := readDotted_of_groupEnd spelling (point_notMem_toDigits g) hrest
  have hnumber : readNumber 16 4 65536 true (Nat.toDigits 16 g ++ rest) = some (g, rest) :=
    readNumber_toDigits (by decide) (by decide) (by decide) hg hg _ hrest.stops
  simp only [readGroups, if_true, hdotted, ite_self, hnumber]

/-- Behind a colon a group is read as at the beginning. -/
theorem readGroups_colon (spelling : Spelling) (limit : Nat) {cs : List Char}
    (h : (readGroups spelling true (limit + 1) cs).1 ≠ []) :
    readGroups spelling false (limit + 1) (':' :: cs) =
      readGroups spelling true (limit + 1) cs := by
  revert h
  simp only [readGroups, if_true, readChar_cons, Bool.false_eq_true, if_false]
  split
  next => exact fun _ => rfl
  next =>
    split
    next => exact fun h => absurd rfl h
    next => exact fun _ => rfl

/-- Groups are read as long as there are any. -/
theorem readGroups_colonGroups {spelling : Spelling} {gs : List Nat} (hgs : ∀ g ∈ gs, g < 65536)
    {limit : Nat} (hlimit : gs.length ≤ limit) {rest : List Char} (hrest : GroupEnd rest)
    (hend : readGroups spelling false (limit - gs.length) rest = ([], false, rest)) :
    readGroups spelling false limit (colonGroups gs ++ rest) = (gs, false, rest) := by
  induction gs generalizing limit with
  | nil => exact hend
  | cons g gs ih =>
    obtain ⟨limit, rfl⟩ : ∃ l, limit = l + 1 := ⟨limit - 1, by simp at hlimit; omega⟩
    have hread := readGroup spelling limit (hgs g List.mem_cons_self)
      (groupEnd_colonGroups gs hrest)
    rw [ih (fun g' hg' => hgs g' (List.mem_cons_of_mem _ hg')) (by simpa using hlimit)
      (by simpa using hend)] at hread
    change readGroups spelling false (limit + 1)
      (':' :: (Nat.toDigits 16 g ++ colonGroups gs) ++ rest) = _
    rw [List.cons_append, List.append_assoc, readGroups_colon, hread]
    rw [hread]
    exact List.cons_ne_nil _ _

/-- Where no group can begin, none is read. -/
theorem readGroups_of_groupEnd (spelling : Spelling) (limit : Nat) {rest : List Char}
    (hrest : GroupEnd rest) : readGroups spelling true limit rest = ([], false, rest) := by
  have hdotted := readDotted_eq_none_of_groupEnd spelling hrest
  cases limit with
  | zero => rfl
  | succ limit =>
    simp only [readGroups, if_true, hdotted, ite_self, readNumber_of_stops hrest.stops]

/-- The gap ends the groups before it. -/
theorem readGroups_doubleColon (spelling : Spelling) (limit : Nat) (rest : List Char) :
    readGroups spelling false limit (':' :: ':' :: rest) = ([], false, ':' :: ':' :: rest) := by
  have hdotted := readDotted_eq_none_of_groupEnd spelling (groupEnd_colon rest)
  cases limit with
  | zero => rfl
  | succ limit =>
    simp only [readGroups, Bool.false_eq_true, if_false, readChar_cons, hdotted, ite_self,
      readNumber_of_stops (groupEnd_colon rest).stops]

theorem readGroups_of_slash (spelling : Spelling) (limit : Nat) {rest : List Char}
    (hrest : ∀ c ∈ rest.head?, c = '/') :
    readGroups spelling false limit rest = ([], false, rest) := by
  have hcolon : readChar ':' rest = none := by
    cases rest with
    | nil => rfl
    | cons c rest =>
      obtain rfl := hrest c rfl
      rfl
  cases limit with
  | zero => rfl
  | succ limit => simp only [readGroups, Bool.false_eq_true, if_false, hcolon]

/-- By induction on the groups; each but the first follows a colon. -/
theorem readGroups_groupsText {spelling : Spelling} (limit : Nat) {gs : List Nat}
    (hgs : ∀ g ∈ gs, g < 65536) (hlimit : gs.length ≤ limit) {rest : List Char}
    (hrest : GroupEnd rest)
    (hend : readGroups spelling false (limit - gs.length) rest = ([], false, rest)) :
    readGroups spelling true limit ((groupsText gs).toList ++ rest) = (gs, false, rest) := by
  cases gs with
  | nil => exact readGroups_of_groupEnd spelling limit hrest
  | cons g gs =>
    obtain ⟨limit, rfl⟩ : ∃ l, limit = l + 1 := ⟨limit - 1, by simp at hlimit; omega⟩
    rw [toList_groupsText, List.append_assoc,
      readGroup spelling limit (hgs g List.mem_cons_self) (groupEnd_colonGroups gs hrest),
      readGroups_colonGroups (fun g' hg' => hgs g' (List.mem_cons_of_mem _ hg'))
        (by simpa using hlimit) hrest (by simpa using hend)]

/-! The long family -/

theorem groups_length (n : Nat) : (groups n).length = 8 := rfl

theorem mem_groups_lt {n g : Nat} (h : g ∈ groups n) : g < 65536 := by
  simp only [groups, places, List.nil_append, List.cons_append, List.mem_cons,
    List.not_mem_nil, or_false] at h
  omega

/-- The run that is found lies in the list, and there are zeros only in it. -/
theorem longestZeros_spec (k : Nat) (gs : List Nat) : ∃ start length,
    longestZeros k gs = (k + start, length) ∧
      gs = gs.take start ++ List.replicate length 0 ++ gs.drop (start + length) := by
  induction gs generalizing k with
  | nil => exact ⟨0, 0, rfl, rfl⟩
  | cons g gs ih =>
    obtain ⟨start, length, hlater, hgs⟩ := ih (k + 1)
    have hstep : longestZeros k (g :: gs) =
        if ((g :: gs).takeWhile (· = 0)).length < length then (k + 1 + start, length)
        else (k, ((g :: gs).takeWhile (· = 0)).length) := by
      simp only [longestZeros, hlater]
    rw [hstep]
    split
    next =>
      refine ⟨start + 1, length, by rw [Nat.add_assoc, Nat.add_comm 1], ?_⟩
      rw [Nat.add_right_comm, List.take_succ_cons, List.drop_succ_cons, List.cons_append,
        List.cons_append, ← hgs]
    next =>
      refine ⟨0, _, rfl, ?_⟩
      have hzeros : (g :: gs).takeWhile (· = 0) =
          List.replicate ((g :: gs).takeWhile (· = 0)).length 0 := by
        rw [List.eq_replicate_iff]
        exact ⟨rfl, fun b hb => by simpa using List.mem_takeWhile_imp hb⟩
      rw [List.take_zero, List.nil_append, Nat.zero_add, drop_takeWhile, ← hzeros,
        List.takeWhile_append_dropWhile]

/-- Groups with a double colon between them are completed by zeros. -/
theorem readLong_doubleColon {spelling : Spelling} (hgap : spelling.leastGap ≤ 1)
    (before after : List Nat) (hbefore : ∀ g ∈ before, g < 65536) (hafter : ∀ g ∈ after, g < 65536)
    (hlength : before.length + after.length < 7) {rest : List Char}
    (hrest : ∀ c ∈ rest.head?, c = '/') :
    readLong spelling
        ((groupsText before).toList ++ ':' :: ':' :: ((groupsText after).toList ++ rest)) =
      some (before ++ List.replicate (8 - before.length - after.length) 0 ++ after, rest) := by
  have hhead := readGroups_groupsText 8 hbefore (by omega)
    (groupEnd_colon (':' :: ((groupsText after).toList ++ rest)))
    (readGroups_doubleColon spelling _ _)
  have htail := readGroups_groupsText (8 - before.length - spelling.leastGap) hafter (by omega)
    (groupEnd_of_slash hrest) (readGroups_of_slash spelling _ hrest)
  have hshort : ¬ before.length = 8 := by omega
  simp only [readLong, hhead, hshort, if_false, Bool.false_eq_true, readChar_cons, htail,
    Option.bind_eq_bind, Option.bind_some]
  rfl

/-- A mapped address is read as the six groups in front and the two of its dotted part. -/
theorem readLong_mapped {spelling : Spelling} (hgap : spelling.leastGap ≤ 1) (m : Nat)
    {rest : List Char} (hrest : ∀ c ∈ rest.head?, c = '/') :
    readLong spelling ("::ffff:".toList ++ (dotted m).toList ++ rest) =
      some ([0, 0, 0, 0, 0, 0xffff, ofPlaces 256 (octets m) / 65536,
        ofPlaces 256 (octets m) % 65536], rest) := by
  have hdotted := readDotted_dotted spelling m
    (fun c hc => Nat.le_trans (by decide) ((groupEnd_of_slash hrest).stops c hc))
  obtain ⟨limit, hlimit⟩ : ∃ l, 8 - spelling.leastGap = l + 3 := ⟨5 - spelling.leastGap, by omega⟩
  have hgroup := readGroup spelling (limit + 2) (g := 0xffff) (by decide)
    (groupEnd_colon ((dotted m).toList ++ rest))
  have htail : readGroups spelling false (limit + 2) (':' :: ((dotted m).toList ++ rest)) =
      ([ofPlaces 256 (octets m) / 65536, ofPlaces 256 (octets m) % 65536], true, rest) := by
    simp only [readGroups, Bool.false_eq_true, if_false, readChar_cons, Nat.zero_lt_succ, if_true,
      hdotted]
  rw [htail] at hgroup
  have hhead := readGroups_of_groupEnd spelling 8
    (groupEnd_colon (':' :: ("ffff:".toList ++ (dotted m).toList ++ rest)))
  have hread : readGroups spelling true (8 - spelling.leastGap)
      ("ffff:".toList ++ (dotted m).toList ++ rest) = _ := hlimit ▸ hgroup
  change readLong spelling (':' :: ':' :: ("ffff:".toList ++ (dotted m).toList ++ rest)) = _
  simp only [readLong, hhead, List.length_nil, Nat.reduceEqDiff, if_false, Bool.false_eq_true,
    readChar_cons, Nat.sub_zero, hread, Option.bind_eq_bind, Option.bind_some]
  rfl

/-- Groups written with a double colon in the place of a run of zeros. -/
theorem readLong_run {spelling : Spelling} (hgap : spelling.leastGap ≤ 1) {gs : List Nat}
    (hgs : ∀ g ∈ gs, g < 65536) (height : gs.length = 8) {start length : Nat} (hlong : 1 < length)
    (hsplit : gs = gs.take start ++ List.replicate length 0 ++ gs.drop (start + length))
    {rest : List Char} (hrest : ∀ c ∈ rest.head?, c = '/') :
    readLong spelling
        ((groupsText (gs.take start) ++ "::" ++ groupsText (gs.drop (start + length))).toList ++
          rest) = some (gs, rest) := by
  have hlength := congrArg List.length hsplit
  simp only [List.length_append, List.length_take, List.length_replicate, List.length_drop,
    height] at hlength
  have hread := readLong_doubleColon hgap (gs.take start) (gs.drop (start + length))
    (fun g hg => hgs g (List.mem_of_mem_take hg))
    (fun g hg => hgs g (List.mem_of_mem_drop hg))
    (by simp only [List.length_take, List.length_drop, height]; omega) hrest
  have hzeros : 8 - (gs.take start).length - (gs.drop (start + length)).length = length := by
    simp only [List.length_take, List.length_drop, height]
    omega
  rw [hzeros, ← hsplit] at hread
  rw [String.toList_append, String.toList_append, List.append_assoc, List.append_assoc]
  exact hread

/-- The eight groups are read back, whether a gap stands for some of them or not. -/
theorem readLong_longText (spelling : Spelling) (hgap : spelling.leastGap ≤ 1) (n : Nat)
    {rest : List Char} (hrest : ∀ c ∈ rest.head?, c = '/') :
    readLong spelling ((longText n).toList ++ rest) = some (groups n, rest) := by
  simp only [longText]
  split
  next hmapped =>
    have hgroups : groups n = (groups n).take 6 ++ [n / 65536 % 65536, n % 65536] := rfl
    have hpower : Nat.pow 2 32 = 4294967296 := rfl
    have hhigh : n % Nat.pow 2 32 % 256 ^ 4 / 65536 = n / 65536 % 65536 := by
      rw [hpower]
      omega
    have hlow : n % Nat.pow 2 32 % 256 ^ 4 % 65536 = n % 65536 := by
      rw [hpower]
      omega
    rw [String.toList_append, readLong_mapped hgap _ hrest, hgroups, hmapped, octets,
      ofPlaces_places, hhigh, hlow]
    rfl
  next =>
    obtain ⟨start, length, hrun, hsplit⟩ := longestZeros_spec 0 (groups n)
    rw [Nat.zero_add] at hrun
    simp only [hrun]
    split
    next hlong =>
      exact readLong_run hgap (fun g hg => mem_groups_lt hg) (groups_length n) hlong hsplit hrest
    next =>
      have hread : readGroups spelling true 8 ((groupsText (groups n)).toList ++ rest) =
          (groups n, false, rest) :=
        readGroups_groupsText 8 (fun g hg => mem_groups_lt hg) (groups_length n).le
          (groupEnd_of_slash hrest) (readGroups_of_slash spelling _ hrest)
      simp only [readLong, hread, groups_length, if_true]
      rfl

theorem readDotted_groupsText (spelling : Spelling) (gs : List Nat) {rest : List Char}
    (hrest : GroupEnd rest) : readDotted spelling ((groupsText gs).toList ++ rest) = none := by
  cases gs with
  | nil => exact readDotted_eq_none_of_groupEnd spelling hrest
  | cons g gs =>
    rw [toList_groupsText, List.append_assoc]
    exact readDotted_of_groupEnd spelling (point_notMem_toDigits g) (groupEnd_colonGroups gs hrest)

/-- The text of a long address is not taken for a short one. -/
theorem readDotted_longText (spelling : Spelling) (n : Nat) {rest : List Char}
    (hrest : ∀ c ∈ rest.head?, c = '/') :
    readDotted spelling ((longText n).toList ++ rest) = none := by
  simp only [longText]
  split
  next =>
    rw [String.toList_append]
    exact readDotted_eq_none_of_groupEnd spelling
      (groupEnd_colon (":ffff:".toList ++ (dotted (n % Nat.pow 2 32)).toList ++ rest))
  next =>
    split
    next =>
      rw [String.toList_append, String.toList_append, List.append_assoc, List.append_assoc]
      exact readDotted_groupsText spelling _ (groupEnd_colon _)
    next => exact readDotted_groupsText spelling _ (groupEnd_of_slash hrest)

/-! Whole addresses and ranges -/

/-- The octets of a number make the number. -/
theorem v4OfOctets_octets (bits : BitVec 32) : v4OfOctets (octets bits.toNat) = .v4 bits := by
  have hlt : bits.toNat < 256 ^ 4 := bits.isLt
  rw [v4OfOctets, octets, ofPlaces_places, Nat.mod_eq_of_lt hlt, BitVec.ofNat_toNat,
    BitVec.setWidth_eq]

/-- The groups of a number make the number. -/
theorem v6OfGroups_groups (bits : BitVec 128) : v6OfGroups (groups bits.toNat) = .v6 bits := by
  have hlt : bits.toNat < 65536 ^ 8 := bits.isLt
  rw [v6OfGroups, groups, ofPlaces_places, Nat.mod_eq_of_lt hlt, BitVec.ofNat_toNat,
    BitVec.setWidth_eq]

/-- An address is read back from its text. -/
theorem ofText?_text (a : Address) : ofText? a.text = some a := by
  cases a with
  | v4 bits =>
    have hread := readDotted_dotted .alone bits.toNat (stops_nil 10)
    rw [List.append_nil] at hread
    simp only [ofText?, read, text, hread, v4OfOctets_octets]
  | v6 bits =>
    have hend : ∀ c ∈ ([] : List Char).head?, c = '/' := nofun
    have hdotted := readDotted_longText .alone bits.toNat hend
    have hlong := readLong_longText .alone (by decide) bits.toNat hend
    rw [List.append_nil] at hdotted hlong
    simp only [ofText?, read, text, hdotted, hlong, Option.map_some, v6OfGroups_groups]

end AmphoraWiring.Address

namespace AmphoraWiring.Cidr

open Address

/-- The length behind the slash is read up to the end. -/
theorem readLength_text (c : Cidr) :
    readLength c.address ('/' :: (toString c.length).toList) = some (c.length, []) := by
  have hlength := c.length_le
  have hread : readNumber 10 (lengthDigits c.address) (c.address.width + 1) true
      (Nat.toDigits 10 c.length ++ []) = some (c.length, []) := by
    apply readNumber_toDigits (by decide) (by decide)
    · cases c.address <;> exact Nat.zero_lt_succ _
    · cases h : c.address <;> simp only [h, width, lengthDigits] at hlength ⊢ <;> omega
    · omega
    · exact stops_nil 10
  rw [List.append_nil] at hread
  simp only [readLength, readChar_cons, Option.bind_eq_bind, Option.bind_some,
    Nat.toString_eq_ofList_toDigits, String.toList_ofList, hread]

theorem ofText?_text (c : Cidr) : ofText? c.text = some c := by
  have htext : c.text.toList = c.address.text.toList ++ '/' :: (toString c.length).toList := by
    simp [text]
  have hmake : make? c.address c.length = some c := dif_pos c.length_le
  have hslash : ∀ d ∈ ('/' :: (toString c.length).toList).head?, d = '/' := by simp
  have hlength := readLength_text c
  cases ha : c.address with
  | v4 bits =>
    have hread := readDotted_dotted .network bits.toNat
      (stops_cons (c := '/') (by decide) (toString c.length).toList)
    rw [ha] at hlength hmake
    simp only [ofText?, htext, ha, Address.text, hread, Option.bind_eq_bind, Option.bind_some,
      v4OfOctets_octets, hlength]
    exact hmake
  | v6 bits =>
    have hdotted := readDotted_longText .network bits.toNat hslash
    have hlong := readLong_longText .network (by decide) bits.toNat hslash
    rw [ha] at hlength hmake
    simp only [ofText?, htext, ha, Address.text, hdotted, hlong, Option.bind_eq_bind,
      Option.bind_none, Option.bind_some, v6OfGroups_groups, hlength, Option.none_or]
    exact hmake

end AmphoraWiring.Cidr
