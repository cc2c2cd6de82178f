/-
The spellings of an id. An id is read from its 32 digits alone, in groups, or in groups between
braces or behind a mark, and from nothing else; the digits may have either case, and what an id
is depends on them alone. Its own text is the spelling in groups with digits in lower case.
-/

import Latchkey.Proofs.Account.IdText

namespace Latchkey.AccountId

open Text.Hex (IsDigit IsLowerDigit)

variable {digits otherDigits chars : List Char} {text other : String} {id otherId : AccountId}

/-- Digits in groups of 8, 4, 4, 4 and 12, with a hyphen between two groups. -/
inductive AreGrouped : (digits chars : List Char) → Prop
  | groups {a b c d e : List Char} (lengthA : a.length = 8) (lengthB : b.length = 4)
      (lengthC : c.length = 4) (lengthD : d.length = 4) (lengthE : e.length = 12) :
      AreGrouped (a ++ b ++ c ++ d ++ e) (a ++ '-' :: b ++ '-' :: c ++ '-' :: d ++ '-' :: e)

/-- The texts that hold 32 digits as those of an id. -/
inductive Spells (digits : List Char) : (chars : List Char) → Prop
  | bare (full : digits.length = 32) : Spells digits digits
  | grouped {chars : List Char} (groups : AreGrouped digits chars) : Spells digits chars
  | braced {chars : List Char} (groups : AreGrouped digits chars) :
      Spells digits ('\x7b' :: chars ++ ['\x7d'])
  | marked {mark chars : List Char} (isMark : mark.map Char.toLower = urnMark)
      (groups : AreGrouped digits chars) : Spells digits (mark ++ chars)

theorem areGrouped_grouped (full : digits.length = 32) : AreGrouped digits (grouped digits) := by
  have groups := @AreGrouped.groups (digits.take 8) ((digits.drop 8).take 4)
    ((digits.drop 12).take 4) ((digits.drop 16).take 4) (digits.drop 20) (by simp [full])
    (by simp [full]) (by simp [full]) (by simp [full]) (by simp [full])
  rw [groups_append] at groups
  exact groups

theorem AreGrouped.ungrouped? (groups : AreGrouped digits chars) :
    ungrouped? chars = some digits := by
  obtain ⟨lengthA, lengthB, lengthC, lengthD, lengthE⟩ := groups
  exact ungrouped?_groups lengthA lengthB lengthC lengthD lengthE

theorem AreGrouped.length_digits (groups : AreGrouped digits chars) : digits.length = 32 := by
  obtain ⟨lengthA, lengthB, lengthC, lengthD, lengthE⟩ := groups
  simp [lengthA, lengthB, lengthC, lengthD, lengthE]

theorem AreGrouped.length_chars (groups : AreGrouped digits chars) : chars.length = 36 := by
  obtain ⟨lengthA, lengthB, lengthC, lengthD, lengthE⟩ := groups
  simp [lengthA, lengthB, lengthC, lengthD, lengthE]

private theorem exists_cut {place : Nat} (hyphen : chars[place]? = some '-') :
    ∃ group rest, group.length = place ∧ chars = group ++ '-' :: rest ∧
      ∀ later, chars[place + 1 + later]? = rest[later]? := by
  obtain ⟨inside, isHyphen⟩ := List.getElem?_eq_some_iff.mp hyphen
  refine ⟨chars.take place, chars.drop (place + 1), List.length_take_of_le (Nat.le_of_lt inside),
    ?_, fun later => List.getElem?_drop.symm⟩
  rw [← isHyphen, ← List.drop_eq_getElem_cons inside, List.take_append_drop]

theorem areGrouped_of_ungrouped? (read : ungrouped? chars = some digits) :
    AreGrouped digits chars := by
  have shape : chars.length = 36 ∧ chars[8]? = some '-' ∧ chars[13]? = some '-' ∧
      chars[18]? = some '-' ∧ chars[23]? = some '-' := by
    unfold ungrouped? at read
    split at read
    case isTrue shape => simpa using shape
    case isFalse => cases read
  obtain ⟨full, first, second, third, fourth⟩ := shape
  -- each hyphen is looked for behind the one before it
  obtain ⟨a, afterA, lengthA, rfl, behindA⟩ := exists_cut first
  obtain ⟨b, afterB, lengthB, rfl, behindB⟩ := exists_cut ((behindA 4).symm.trans second)
  have thirdBehindA := (behindA 9).symm.trans third
  obtain ⟨c, afterC, lengthC, rfl, behindC⟩ := exists_cut ((behindB 4).symm.trans thirdBehindA)
  have fourthBehindB := (behindB 9).symm.trans ((behindA 14).symm.trans fourth)
  obtain ⟨d, e, lengthD, rfl, _behindD⟩ := exists_cut ((behindC 4).symm.trans fourthBehindB)
  have lengthE : e.length = 12 := by
    simp only [List.length_append, List.length_cons, lengthA, lengthB, lengthC, lengthD] at full
    omega
  have groups := AreGrouped.groups lengthA lengthB lengthC lengthD lengthE
  have leftmost : a ++ '-' :: (b ++ '-' :: (c ++ '-' :: (d ++ '-' :: e))) =
      a ++ '-' :: b ++ '-' :: c ++ '-' :: d ++ '-' :: e := by
    simp only [List.append_assoc, List.cons_append]
  rw [leftmost] at read ⊢
  rw [groups.ungrouped?] at read
  cases read
  exact groups

theorem Spells.length_digits (spelling : Spells digits chars) : digits.length = 32 := by
  cases spelling with
  | bare full => exact full
  | grouped groups => exact groups.length_digits
  | braced groups => exact groups.length_digits
  | marked _isMark groups => exact groups.length_digits

theorem Spells.digits? (spelling : Spells digits chars) : digits? chars = some digits := by
  unfold AccountId.digits?
  cases spelling with
  | bare full => rw [if_pos full]
  | grouped groups =>
      rw [if_neg (by rw [groups.length_chars]; decide), if_pos groups.length_chars]
      exact groups.ungrouped?
  | @braced chars groups =>
      have length : ('\x7b' :: chars ++ ['\x7d']).length = 38 := by
        simp [groups.length_chars]
      rw [length, if_neg (by decide), if_neg (by decide), if_pos rfl,
        if_pos ⟨rfl, List.getLast?_concat⟩]
      rw [List.cons_append, List.drop_one, List.tail_cons, List.dropLast_concat]
      exact groups.ungrouped?
  | @marked mark chars isMark groups =>
      have lengthMark : mark.length = 9 := by
        rw [← List.length_map Char.toLower, isMark]
        rfl
      have length : (mark ++ chars).length = 45 := by
        rw [List.length_append, lengthMark, groups.length_chars]
      have front : (mark ++ chars).take 9 = mark := List.take_left' lengthMark
      rw [length, if_neg (by decide), if_neg (by decide), if_neg (by decide), front,
        if_pos ⟨rfl, isMark⟩, List.drop_left' lengthMark]
      exact groups.ungrouped?

private theorem eq_braced {opening closing : Char} (long : 2 ≤ chars.length)
    (starts : chars.head? = some opening) (ends : chars.getLast? = some closing) :
    chars = opening :: (chars.drop 1).dropLast ++ [closing] := by
  obtain ⟨rest, rfl⟩ := List.head?_eq_some_iff.mp starts
  have nonempty : rest ≠ [] := by
    rintro rfl
    exact Nat.not_succ_le_self 1 long
  rw [List.getLast?_cons_of_ne_nil nonempty] at ends
  obtain ⟨middle, rfl⟩ := List.getLast?_eq_some_iff.mp ends
  rw [List.drop_one, List.tail_cons, List.dropLast_concat, List.cons_append]

theorem spells_of_digits? (read : AccountId.digits? chars = some digits) :
    Spells digits chars := by
  unfold AccountId.digits? at read
  split at read
  case isTrue full =>
    cases read
    exact .bare full
  split at read
  case isTrue => exact .grouped (areGrouped_of_ungrouped? read)
  split at read
  case isTrue full =>
    split at read
    case isFalse => cases read
    case isTrue braces =>
      rw [eq_braced (by omega) braces.1 braces.2]
      exact .braced (areGrouped_of_ungrouped? read)
  split at read
  case isFalse => cases read
  case isTrue mark =>
    rw [← List.take_append_drop 9 chars]
    exact .marked mark.2 (areGrouped_of_ungrouped? read)

theorem digits?_eq_some : AccountId.digits? chars = some digits ↔ Spells digits chars :=
  ⟨spells_of_digits?, Spells.digits?⟩

theorem ofText?_of_spells (spelling : Spells digits text.toList) :
    ofText? text = (Text.Hex.number? 0 digits).map fun number => ⟨BitVec.ofNat 128 number⟩ := by
  rw [ofText?, digits?_eq_some.mpr spelling, Option.bind_eq_bind, Option.bind_some, ofDigits?,
    if_pos spelling.length_digits]

theorem exists_spells (read : ofText? text = some id) : ∃ digits, Spells digits text.toList := by
  rw [ofText?, Option.bind_eq_bind, Option.bind_eq_some_iff] at read
  obtain ⟨digits, readDigits, _number⟩ := read
  exact ⟨digits, digits?_eq_some.mp readDigits⟩

/-- A text is read as an id exactly if it spells 32 digits. -/
theorem exists_ofText?_iff : (∃ id, ofText? text = some id) ↔
    ∃ digits, Spells digits text.toList ∧ ∀ digit ∈ digits, IsDigit digit := by
  constructor
  · rintro ⟨id, read⟩
    obtain ⟨digits, spelling⟩ := exists_spells read
    rw [ofText?_of_spells spelling, Option.map_eq_some_iff] at read
    obtain ⟨number, readNumber, _whole⟩ := read
    have hexadecimal := Option.isSome_of_eq_some readNumber
    exact ⟨digits, spelling, (Text.Hex.isSome_number?_iff 0).mp hexadecimal⟩
  · rintro ⟨digits, spelling, hexadecimal⟩
    obtain ⟨number, readNumber⟩ := Option.isSome_iff_exists.mp
      ((Text.Hex.isSome_number?_iff 0).mpr hexadecimal)
    exact ⟨⟨BitVec.ofNat 128 number⟩, by rw [ofText?_of_spells spelling, readNumber]; rfl⟩

theorem fixed_of_spells (read : ofText? text = some id) (spelling : Spells digits text.toList) :
    Text.Hex.fixed 32 id.bits.toNat = digits.map Char.toLower := by
  rw [ofText?_of_spells spelling, Option.map_eq_some_iff] at read
  obtain ⟨number, readNumber, rfl⟩ := read
  obtain ⟨small, written⟩ := Text.Hex.fixed_of_number? readNumber
  rw [spelling.length_digits] at small written
  have places : 16 ^ 32 = 2 ^ 128 := by decide
  rw [places] at small
  rw [BitVec.toNat_ofNat, Nat.mod_eq_of_lt small, written]

theorem text_injective : Function.Injective AccountId.text := by
  intro id other same
  have read := ofText?_text id
  rw [same, ofText?_text] at read
  exact (Option.some.inj read).symm

theorem areGrouped_text (id : AccountId) :
    AreGrouped (Text.Hex.fixed 32 id.bits.toNat) id.text.toList := by
  rw [AccountId.text, String.toList_ofList]
  exact areGrouped_grouped (Text.Hex.length_fixed 32 _)

theorem eq_iff_of_spells (read : ofText? text = some id) (readOther : ofText? other = some otherId)
    (spelling : Spells digits text.toList) (spellingOther : Spells otherDigits other.toList) :
    id = otherId ↔ digits.map Char.toLower = otherDigits.map Char.toLower := by
  rw [← fixed_of_spells read spelling, ← fixed_of_spells readOther spellingOther]
  constructor
  · rintro rfl
    rfl
  · intro same
    apply text_injective
    rw [AccountId.text, AccountId.text, same]

/-- Every id is read from its own text, which has 36 characters: digits in lower case, in groups.
A text is read as an id exactly if it spells 32 digits, and the id's own text holds the same
digits in lower case; it is for these digits alone that two texts are read as one id. -/
theorem spellings_of_ids :
    (∀ id : AccountId, ofText? id.text = some id ∧ id.text.length = 36 ∧
      ∃ digits, AreGrouped digits id.text.toList ∧ ∀ digit ∈ digits, IsLowerDigit digit) ∧
      (∀ text : String, (∃ id, ofText? text = some id) ↔
        ∃ digits, Spells digits text.toList ∧ ∀ digit ∈ digits, IsDigit digit) ∧
      (∀ text id digits, ofText? text = some id → Spells digits text.toList →
        AreGrouped (digits.map Char.toLower) id.text.toList ∧ ofText? id.text = some id) ∧
      ∀ text other id otherId digits otherDigits, ofText? text = some id →
        ofText? other = some otherId → Spells digits text.toList →
        Spells otherDigits other.toList →
        (id = otherId ↔ digits.map Char.toLower = otherDigits.map Char.toLower) := by
  refine ⟨?_, fun _text => exists_ofText?_iff, ?_, ?_⟩
  · intro id
    have groups := areGrouped_text id
    exact ⟨ofText?_text id, groups.length_chars, _, groups,
      fun _digit => Text.Hex.isLowerDigit_of_mem_fixed⟩
  · intro text id digits read spelling
    rw [← fixed_of_spells read spelling]
    exact ⟨areGrouped_text id, ofText?_text id⟩
  · intro text other id otherId digits otherDigits
    exact eq_iff_of_spells

/-- A grouped form behind a mark in capitals, and bare digits in the other case. -/
theorem spellings_of_ids_marked :
    ofText? "URN:uuid:67E55044-10B1-426f-9247-BB680e5fe0c8" =
        some ⟨0x67E5504410B1426F9247BB680E5FE0C8⟩ ∧
      ofText? "67e5504410b1426F9247bb680E5FE0C8" = some ⟨0x67E5504410B1426F9247BB680E5FE0C8⟩ ∧
      Spells "67E5504410B1426f9247BB680e5fe0c8".toList
        "URN:uuid:67E55044-10B1-426f-9247-BB680e5fe0c8".toList ∧
      Spells "67e5504410b1426F9247bb680E5FE0C8".toList
        "67e5504410b1426F9247bb680E5FE0C8".toList ∧
      "67E5504410B1426f9247BB680e5fe0c8".toList.map Char.toLower =
        "67e5504410b1426F9247bb680E5FE0C8".toList.map Char.toLower := by
  obtain ⟨_own, _accepted, _canonical, agree⟩ := spellings_of_ids
  have marked : ofText? "URN:uuid:67E55044-10B1-426f-9247-BB680e5fe0c8" =
      some ⟨0x67E5504410B1426F9247BB680E5FE0C8⟩ := by decide +kernel
  have bare : ofText? "67e5504410b1426F9247bb680E5FE0C8" =
      some ⟨0x67E5504410B1426F9247BB680E5FE0C8⟩ := by decide +kernel
  have spelledMarked : Spells "67E5504410B1426f9247BB680e5fe0c8".toList
      "URN:uuid:67E55044-10B1-426f-9247-BB680e5fe0c8".toList :=
    spells_of_digits? (by decide +kernel)
  have spelledBare : Spells "67e5504410b1426F9247bb680E5FE0C8".toList
      "67e5504410b1426F9247bb680E5FE0C8".toList := .bare (by decide +kernel)
  exact ⟨marked, bare, spelledMarked, spelledBare,
    (agree _ _ _ _ _ _ marked bare spelledMarked spelledBare).mp rfl⟩

end Latchkey.AccountId
