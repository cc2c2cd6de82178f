/-
JSON numbers read back: a whole number that is written in decimal digits, where what follows
ends it. It is read as a whole number if it fits into 64 bits, with or without a sign.
-/

import Latchkey.Json.Printer
import Latchkey.Json.Reader

namespace Latchkey.Json

open Text.Utf8 (encodeChars)

/-- Whether what follows ends a number: it begins with no digit, no point and no exponent. -/
def EndsNumber (rest : List UInt8) : Prop :=
  ∀ byte ∈ rest.head?, isDigit byte = false ∧ byte ≠ 0x2E ∧ byte ≠ 0x65 ∧ byte ≠ 0x45

/-- Whether what follows ends the member of an object in front of it: a comma or the brace. -/
inductive EndsMember : List UInt8 → Prop where
  | comma (rest : List UInt8) : EndsMember (0x2C :: rest)
  | brace (rest : List UInt8) : EndsMember (0x7D :: rest)

theorem EndsMember.endsNumber {rest : List UInt8} (ended : EndsMember rest) : EndsNumber rest := by
  cases ended with
  | comma | brace =>
      rintro byte ⟨⟩
      decide

section Ends

variable {rest : List UInt8}

theorem EndsNumber.takeWhile (ended : EndsNumber rest) : rest.takeWhile isDigit = [] := by
  cases rest with
  | nil => rfl
  | cons byte rest => exact List.takeWhile_cons_of_neg (by simp [(ended byte rfl).1])

theorem EndsNumber.dropWhile (ended : EndsNumber rest) : rest.dropWhile isDigit = rest := by
  cases rest with
  | nil => rfl
  | cons byte rest => exact List.dropWhile_cons_of_neg (by simp [(ended byte rfl).1])

theorem EndsNumber.readFraction (ended : EndsNumber rest) : readFraction rest = .ok ([], rest) := by
  unfold Json.readFraction
  split
  · exact absurd rfl (ended 0x2E rfl).2.1
  · rfl

theorem EndsNumber.readExponent (ended : EndsNumber rest) :
    readExponent rest = .ok (none, rest) := by
  cases rest with
  | nil => rfl
  | cons byte rest =>
      obtain ⟨_noDigit, _noPoint, noSmall, noLarge⟩ := ended byte rfl
      exact if_neg (not_or.mpr ⟨noSmall, noLarge⟩)

end Ends

theorem ne_of_beginsNumber {lead : UInt8} (begins : lead = 0x2D ∨ isDigit lead = true) :
    ∀ mark ∈ [0x20, 0x09, 0x0A, 0x0D, 0x5B, 0x7B, 0x6E, 0x74, 0x66, 0x22], lead ≠ mark := by
  have others : ([0x20, 0x09, 0x0A, 0x0D, 0x5B, 0x7B, 0x6E, 0x74, 0x66, 0x22] : List UInt8).all
      (fun mark => mark != 0x2D && !isDigit mark) = true := by decide
  rintro mark member rfl
  have other := List.all_eq_true.mp others lead member
  rw [Bool.and_eq_true, bne_iff_ne, Bool.not_eq_true'] at other
  rcases begins with sign | digit
  · exact other.1 sign
  · exact Bool.false_ne_true (other.2.symm.trans digit)

def digitsOf (number : Nat) : List Nat :=
  (Nat.toDigits 10 number).map fun digit => digit.toNat - 0x30

theorem toNat_of_mem_toDigits {number : Nat} {digit : Char}
    (member : digit ∈ Nat.toDigits 10 number) : 0x30 ≤ digit.toNat ∧ digit.toNat ≤ 0x39 := by
  have isDigit := Nat.isDigit_of_mem_toDigits (by decide) (by decide) member
  simpa [Char.isDigit, UInt32.le_iff_toNat_le] using isDigit

theorem head?_toDigits_ne {number : Nat} (positive : 0 < number) :
    (Nat.toDigits 10 number).head? ≠ some '0' := by
  induction number using Nat.strongRecOn with
  | ind number ih =>
      by_cases single : number < 10
      · rw [Nat.toDigits_of_lt_base single]
        have table : ∀ digit : Fin 10, 0 < digit.val → [digit.val.digitChar].head? ≠ some '0' := by
          decide
        exact table ⟨number, single⟩ positive
      · have earlier := ih (number / 10) (by omega) (by omega)
        have nonempty : (Nat.toDigits 10 (number / 10)).head?.isSome = true := by
          rw [List.isSome_head?]
          exact Nat.toDigits_ne_nil
        rwa [Nat.toDigits_of_base_le (by decide) (Nat.not_lt.mp single), List.head?_append,
          Option.or_of_isSome nonempty]

theorem digitsOf_eq_zero_cons {number : Nat} {rest : List Nat}
    (leading : digitsOf number = 0 :: rest) : rest = [] := by
  rcases Nat.eq_zero_or_pos number with rfl | positive
  · rw [show digitsOf 0 = [0] from rfl] at leading
    cases leading
    rfl
  · exfalso
    have zero := congrArg List.head? leading
    rw [digitsOf, List.head?_map, List.head?_cons, Option.map_eq_some_iff] at zero
    obtain ⟨digit, first, value⟩ := zero
    have bounds := toNat_of_mem_toDigits (List.mem_of_head? first)
    have same : digit = '0' := Char.toNat_inj.mp (by change digit.toNat = 0x30; omega)
    exact head?_toDigits_ne positive (same ▸ first)

theorem takeSignificand_digits {digits : List Char} {start : Nat}
    (fits : Nat.ofDigitChars 10 digits start < wordBound) :
    takeSignificand start (digits.map fun digit => digit.toNat - 0x30) =
      (Nat.ofDigitChars 10 digits start, 0) := by
  induction digits generalizing start with
  | nil => rfl
  | cons digit digits ih =>
      have next : 10 * start + (digit.toNat - '0'.toNat) = start * 10 + (digit.toNat - 0x30) := by
        rw [Nat.mul_comm]
        rfl
      rw [Nat.ofDigitChars_cons, next] at fits ⊢
      have small : start * 10 + (digit.toNat - 0x30) < wordBound := by
        rw [Nat.ofDigitChars_eq_ofDigitChars_zero] at fits
        have grows := Nat.le_mul_of_pos_left (start * 10 + (digit.toNat - 0x30))
          (Nat.pow_pos (n := digits.length) (show 0 < 10 by decide))
        omega
      rw [List.map_cons, takeSignificand, if_pos small, ih fits]

theorem takeSignificand_exceeds {digits : List Char} {start : Nat} (small : start < wordBound)
    (exceeds : wordBound ≤ Nat.ofDigitChars 10 digits start) :
    (takeSignificand start (digits.map fun digit => digit.toNat - 0x30)).2 ≠ 0 := by
  induction digits generalizing start with
  | nil => exact absurd small (Nat.not_lt.mpr exceeds)
  | cons digit digits ih =>
      have next : 10 * start + (digit.toNat - '0'.toNat) = start * 10 + (digit.toNat - 0x30) := by
        rw [Nat.mul_comm]
        rfl
      rw [Nat.ofDigitChars_cons, next] at exceeds
      rw [List.map_cons, takeSignificand]
      split
      · next fits => exact ih fits exceeds
      · exact Nat.succ_ne_zero _

theorem encodeChars_toDigits (number : Nat) :
    encodeChars (Nat.toDigits 10 number) =
      (Nat.toDigits 10 number).map fun digit => UInt8.ofNat digit.toNat :=
  Text.Utf8.encodeChars_of_ascii fun _digit member => by
    have bounds := toNat_of_mem_toDigits member
    omega

private theorem toNat_ofNat_digit {digit : Char} {number : Nat}
    (member : digit ∈ Nat.toDigits 10 number) :
    (UInt8.ofNat digit.toNat).toNat = digit.toNat := by
  have bounds := toNat_of_mem_toDigits member
  rw [UInt8.toNat_ofNat', Nat.mod_eq_of_lt (by omega)]

private theorem isDigit_of_mem_encodeChars {number : Nat} {byte : UInt8}
    (member : byte ∈ encodeChars (Nat.toDigits 10 number)) : isDigit byte = true := by
  rw [encodeChars_toDigits, List.mem_map] at member
  obtain ⟨digit, among, rfl⟩ := member
  have bounds := toNat_of_mem_toDigits among
  simp only [isDigit, Bool.and_eq_true, decide_eq_true_eq, UInt8.le_iff_toNat_le,
    toNat_ofNat_digit among]
  exact bounds

theorem takeDigits_toDigits (number : Nat) {rest : List UInt8} (ended : EndsNumber rest) :
    takeDigits (encodeChars (Nat.toDigits 10 number) ++ rest) = (digitsOf number, rest) := by
  have digits : ∀ byte ∈ encodeChars (Nat.toDigits 10 number), isDigit byte = true :=
    fun _byte member => isDigit_of_mem_encodeChars member
  have values : (encodeChars (Nat.toDigits 10 number)).map (fun byte => byte.toNat - 0x30) =
      digitsOf number := by
    rw [encodeChars_toDigits, List.map_map]
    exact List.map_congr_left fun digit member =>
      congrArg (fun value => value - 0x30) (toNat_ofNat_digit member)
  rw [takeDigits, List.takeWhile_append_of_pos digits, List.dropWhile_append_of_pos digits,
    ended.takeWhile, ended.dropWhile, List.append_nil, values]

theorem readInteger_toDigits (number : Nat) {rest : List UInt8} (ended : EndsNumber rest) :
    readInteger (encodeChars (Nat.toDigits 10 number) ++ rest) = .ok (digitsOf number, rest) := by
  rw [readInteger, takeDigits_toDigits number ended]
  cases digits : digitsOf number with
  | nil => exact absurd (List.map_eq_nil_iff.mp digits) Nat.toDigits_ne_nil
  | cons first later =>
      cases later with
      | nil => cases first <;> rfl
      | cons second more =>
          cases first with
          | zero => cases digitsOf_eq_zero_cons digits
          | succ first => rfl

theorem exists_lead_digit (number : Nat) :
    ∃ lead more, encodeChars (Nat.toDigits 10 number) = lead :: more ∧ isDigit lead = true := by
  cases written : encodeChars (Nat.toDigits 10 number) with
  | nil =>
      rw [encodeChars_toDigits, List.map_eq_nil_iff] at written
      exact absurd written Nat.toDigits_ne_nil
  | cons lead more =>
      have member : lead ∈ encodeChars (Nat.toDigits 10 number) := by
        rw [written]
        exact List.mem_cons_self
      exact ⟨lead, more, rfl, isDigit_of_mem_encodeChars member⟩

theorem not_whole_of_float {outcome : Option Decimal.Binary64} {negative : Bool}
    {number : Int} : outcome.map (Number.float negative) ≠ some (.whole number) := by
  cases outcome <;> simp

/-- A whole number in decimal digits, of any size, with or without a minus sign. -/
structure IntegerLiteral where
  negative : Bool
  magnitude : Nat
  deriving DecidableEq, Repr

namespace IntegerLiteral

variable {literal : IntegerLiteral} {rest : List UInt8}

def bytes (literal : IntegerLiteral) : List UInt8 :=
  (if literal.negative then [0x2D] else []) ++ encodeChars (Nat.toDigits 10 literal.magnitude)

def value (literal : IntegerLiteral) : Int :=
  if literal.negative then -literal.magnitude else literal.magnitude

def numberText (literal : IntegerLiteral) : NumberText :=
  ⟨literal.negative, digitsOf literal.magnitude, [], none⟩

/-- Whether a literal is read as a whole number: it fits into 64 bits, and is no negative zero. -/
def IsWhole (literal : IntegerLiteral) : Prop :=
  literal.magnitude < wordBound ∧ (literal.negative = true →
    literal.magnitude ≠ 0 ∧ literal.magnitude ≤ 9223372036854775808)

theorem readNumberText_bytes (literal : IntegerLiteral) (ended : EndsNumber rest) :
    readNumberText (literal.bytes ++ rest) = .ok (literal.numberText, rest) := by
  obtain ⟨negative, magnitude⟩ := literal
  have integer := readInteger_toDigits magnitude ended
  cases negative with
  | true =>
      simp [bytes, readNumberText, integer, ended.readFraction, ended.readExponent, bind,
        Except.bind, pure, Except.pure, numberText]
  | false =>
      obtain ⟨lead, more, written, isDigit⟩ := exists_lead_digit magnitude
      rw [bytes, numberText]
      simp only [Bool.false_eq_true, if_false, List.nil_append]
      rw [written, List.cons_append] at integer ⊢
      rw [readNumberText]
      · simp [integer, ended.readFraction, ended.readExponent, bind, Except.bind, pure, Except.pure]
      · intro after minus
        cases minus
        cases isDigit

theorem exists_lead (literal : IntegerLiteral) :
    ∃ lead more, literal.bytes = lead :: more ∧ (lead = 0x2D ∨ isDigit lead = true) := by
  obtain ⟨negative, magnitude⟩ := literal
  cases negative with
  | true => exact ⟨0x2D, _, rfl, Or.inl rfl⟩
  | false =>
      obtain ⟨lead, more, written, digit⟩ := exists_lead_digit magnitude
      exact ⟨lead, more, written, Or.inr digit⟩

theorem value?_numberText (literal : IntegerLiteral) {number : Int} :
    literal.numberText.value? = some (.whole number) ↔
      literal.IsWhole ∧ number = literal.value := by
  obtain ⟨negative, magnitude⟩ := literal
  have digits : Nat.ofDigitChars 10 (Nat.toDigits 10 magnitude) 0 = magnitude :=
    Nat.ofDigitChars_ten_toDigits
  by_cases small : magnitude < wordBound
  · have taken : takeSignificand 0 (digitsOf magnitude) = (magnitude, 0) :=
      (takeSignificand_digits (digits.symm ▸ small)).trans (by rw [digits])
    simp only [NumberText.value?, numberText, taken]
    split
    case isTrue fits =>
      have isWhole : IsWhole ⟨negative, magnitude⟩ := by
        refine ⟨small, ?_⟩
        rintro rfl
        simpa using fits
      simp [isWhole, value, eq_comm]
    case isFalse unfit =>
      refine ⟨fun float => absurd float not_whole_of_float, ?_⟩
      rintro ⟨⟨_small, signed⟩, _same⟩
      cases negative with
      | true => simp [signed rfl] at unfit
      | false => simp at unfit
  · have dropped : (takeSignificand 0 (digitsOf magnitude)).2 ≠ 0 :=
      takeSignificand_exceeds (by decide) (digits.symm ▸ Nat.not_lt.mp small)
    obtain ⟨significand, left, taken⟩ :
        ∃ significand left, takeSignificand 0 (digitsOf magnitude) = (significand, left) :=
      ⟨_, _, rfl⟩
    rw [taken] at dropped
    simp only [NumberText.value?, numberText, taken]
    split
    case isTrue fits => simp [dropped] at fits
    case isFalse =>
      refine ⟨fun float => absurd float not_whole_of_float, ?_⟩
      rintro ⟨⟨fits, _signed⟩, _same⟩
      exact absurd fits small

end IntegerLiteral

theorem readNumberText_toDigits (number : Nat) {rest : List UInt8} (ended : EndsNumber rest) :
    readNumberText (encodeChars (Nat.toDigits 10 number) ++ rest) =
      .ok (⟨false, digitsOf number, [], none⟩, rest) :=
  IntegerLiteral.readNumberText_bytes ⟨false, number⟩ ended

theorem readNumber_toDigits {number : Nat} (small : number < wordBound) {rest : List UInt8}
    (ended : EndsNumber rest) :
    readNumber (encodeChars (Nat.toDigits 10 number) ++ rest) = .ok (.whole number, rest) := by
  have value : NumberText.value? ⟨false, digitsOf number, [], none⟩ = some (.whole number) :=
    (IntegerLiteral.value?_numberText ⟨false, number⟩).mpr ⟨⟨small, nofun⟩, rfl⟩
  rw [readNumber, readNumberText_toDigits number ended]
  simp [value, bind, Except.bind]

end Latchkey.Json
