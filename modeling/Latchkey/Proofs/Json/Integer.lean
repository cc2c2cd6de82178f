/-
JSON texts that are whole numbers. Only an integer literal between blanks is read as one, and each
such literal is, as long as it fits into 64 bits.
-/

import Mathlib.Data.List.TakeWhile
import Latchkey.Proofs.Json.Number
import Latchkey.Proofs.Result

namespace Latchkey.Json

open Text.Utf8 (encodeChars)

private theorem toDigits_append {digits : List Nat} (small : ∀ digit ∈ digits, digit < 10)
    {start : Nat} (positive : 0 < start) :
    Nat.toDigits 10 start ++ digits.map Nat.digitChar =
      Nat.toDigits 10 (digits.foldl (fun value digit => value * 10 + digit) start) := by
  induction digits generalizing start with
  | nil => rw [List.map_nil, List.append_nil, List.foldl_nil]
  | cons digit digits ih =>
      obtain ⟨own, others⟩ := List.forall_mem_cons.mp small
      have next := Nat.toDigits_append_toDigits (show 1 < 10 by decide) positive own
      rw [Nat.toDigits_of_lt_base own, Nat.mul_comm] at next
      rw [List.map_cons, List.append_cons, next, List.foldl_cons, ih others (by omega)]

theorem toDigits_digitsValue {digits : List Nat} (small : ∀ digit ∈ digits, digit < 10)
    (nonempty : digits ≠ []) (plain : ∀ later, digits = 0 :: later → later = []) :
    Nat.toDigits 10 (digitsValue digits) = digits.map Nat.digitChar := by
  cases digits with
  | nil => exact absurd rfl nonempty
  | cons first later =>
      obtain ⟨own, others⟩ := List.forall_mem_cons.mp small
      by_cases zero : first = 0
      · subst zero
        rw [plain later rfl]
        rfl
      · have written := toDigits_append others (Nat.pos_of_ne_zero zero)
        rw [Nat.toDigits_of_lt_base own] at written
        rw [digitsValue, List.foldl_cons, Nat.zero_mul, Nat.zero_add, ← written]
        rfl

section Read

variable {bytes rest : List UInt8} {digits : List Nat} {written : NumberText} {number : Int}

private theorem takeDigits_eq (taken : takeDigits bytes = (digits, rest)) :
    bytes = encodeChars (digits.map Nat.digitChar) ++ rest ∧ ∀ digit ∈ digits, digit < 10 := by
  have table : ∀ value : Fin 256, isDigit (.ofFin value) = true →
      encodeChars [Nat.digitChar ((UInt8.ofFin value).toNat - 0x30)] = [.ofFin value] ∧
        (UInt8.ofFin value).toNat - 0x30 < 10 := by
    decide +kernel
  have own (bytes : List UInt8) (digits : ∀ byte ∈ bytes, isDigit byte = true) :
      encodeChars ((bytes.map (·.toNat - 0x30)).map Nat.digitChar) = bytes := by
    induction bytes with
    | nil => rfl
    | cons byte bytes ih =>
        obtain ⟨first, later⟩ := List.forall_mem_cons.mp digits
        rw [List.map_cons, List.map_cons, ← List.singleton_append, Text.Utf8.encodeChars_append,
          ih later]
        exact congrArg (· ++ bytes) (table byte.toFin first).1
  obtain ⟨rfl, rfl⟩ := Prod.mk.inj taken
  constructor
  · rw [own _ fun byte => List.mem_takeWhile_imp, List.takeWhile_append_dropWhile]
  · rw [List.forall_mem_map]
    exact fun byte member => (table byte.toFin (List.mem_takeWhile_imp member)).2

private theorem digitsOf_digitsValue (small : ∀ digit ∈ digits, digit < 10) (nonempty : digits ≠ [])
    (plain : ∀ later, digits = 0 :: later → later = []) :
    digitsOf (digitsValue digits) = digits := by
  have table : ∀ digit : Fin 10, digit.val.digitChar.toNat - 0x30 = digit := by decide
  rw [digitsOf, toDigits_digitsValue small nonempty plain, List.map_map,
    List.map_congr_left (g := id), List.map_id]
  exact fun digit member => table ⟨digit, small digit member⟩

private theorem readInteger_eq_ok (read : readInteger bytes = .ok (digits, rest)) :
    ∃ number, bytes = encodeChars (Nat.toDigits 10 number) ++ rest ∧ digits = digitsOf number := by
  unfold readInteger at read
  split at read
  · cases read
  · cases read
  · next noDigits noZero =>
      have taken : takeDigits bytes = (digits, rest) := Except.ok.inj read
      obtain ⟨whole, small⟩ := takeDigits_eq taken
      have nonempty : digits ≠ [] := by
        rintro rfl
        exact noDigits rest taken
      have plain : ∀ later, digits = 0 :: later → later = [] := by
        rintro later rfl
        cases later with
        | nil => rfl
        | cons second more => exact absurd taken (noZero second more rest)
      refine ⟨digitsValue digits, ?_, (digitsOf_digitsValue small nonempty plain).symm⟩
      rw [toDigits_digitsValue small nonempty plain]
      exact whole

private theorem readFraction_eq_nil (read : readFraction bytes = .ok ([], rest)) :
    rest = bytes := by
  unfold readFraction at read
  split at read
  · split at read
    · cases read
    · next rest noDigits =>
        exact absurd (Except.ok.inj read) (noDigits _)
  · cases read
    rfl

private theorem readExponent_eq_none (read : readExponent bytes = .ok (none, rest)) :
    rest = bytes := by
  unfold readExponent at read
  split at read
  · split at read
    · dsimp only at read
      split at read <;> cases read
    · cases read
      rfl
  · cases read
    rfl

private theorem readNumberText_eq_ok (read : readNumberText bytes = .ok (written, rest))
    (noFraction : written.fraction = []) (noExponent : written.exponent = none) :
    ∃ literal : IntegerLiteral, bytes = literal.bytes ++ rest ∧ written = literal.numberText := by
  unfold readNumberText at read
  split at read
  next negative after sign =>
    have front : bytes = (if negative then [0x2D] else []) ++ after := by
      split at sign <;> cases sign <;> rfl
    obtain ⟨⟨integer, afterInteger⟩, integerRead, read⟩ := Result.bind_eq_ok read
    obtain ⟨⟨fraction, afterFraction⟩, fractionRead, read⟩ := Result.bind_eq_ok read
    obtain ⟨⟨exponent, afterExponent⟩, exponentRead, read⟩ := Result.bind_eq_ok read
    cases read
    dsimp only at noFraction noExponent
    subst noFraction noExponent
    obtain ⟨magnitude, digits, rfl⟩ := readInteger_eq_ok integerRead
    obtain rfl := readFraction_eq_nil fractionRead
    obtain rfl := readExponent_eq_none exponentRead
    refine ⟨⟨negative, magnitude⟩, ?_, rfl⟩
    rw [front, digits, IntegerLiteral.bytes, List.append_assoc]

private theorem shape_of_whole (whole : written.value? = some (.whole number)) :
    written.fraction = [] ∧ written.exponent = none := by
  unfold NumberText.value? at whole
  dsimp only at whole
  split at whole
  · next fits =>
      simp only [Bool.and_eq_true, List.isEmpty_iff, Option.isNone_iff_eq_none] at fits
      exact fits.1.1
  · exact absurd whole not_whole_of_float

theorem readNumber_eq_whole (read : readNumber bytes = .ok (.whole number, rest)) :
    ∃ literal : IntegerLiteral, bytes = literal.bytes ++ rest ∧ literal.IsWhole ∧
      number = literal.value := by
  obtain ⟨⟨written, rest⟩, text, valued⟩ := Result.bind_eq_ok read
  dsimp only at valued
  split at valued
  · next value? =>
      cases valued
      obtain ⟨noFraction, noExponent⟩ := shape_of_whole value?
      obtain ⟨literal, whole, rfl⟩ := readNumberText_eq_ok text noFraction noExponent
      obtain ⟨isWhole, same⟩ := literal.value?_numberText.mp value?
      exact ⟨literal, whole, isWhole, same⟩
  · cases valued

end Read

def IsBlankPad (bytes : List UInt8) : Prop := ∀ byte ∈ bytes, isBlankByte byte = true

instance (bytes : List UInt8) : Decidable (IsBlankPad bytes) := List.decidableBAll _ bytes

def IntegerLiteral.IsTextOf (literal : IntegerLiteral) (json : List UInt8) : Prop :=
  ∃ before after, IsBlankPad before ∧ IsBlankPad after ∧ json = before ++ literal.bytes ++ after

section Text

variable {json bytes rest : List UInt8} {literal : IntegerLiteral} {number : Int}

private theorem readScalar_eq_number {lead : UInt8} {number : Number}
    (read : readScalar lead bytes = .ok (.number number, rest)) :
    readNumber bytes = .ok (number, rest) := by
  unfold readScalar at read
  split at read
  · obtain ⟨_, _, same⟩ := Result.bind_eq_ok read
    cases same
  split at read
  · obtain ⟨_, _, same⟩ := Result.bind_eq_ok read
    cases same
  split at read
  · obtain ⟨_, _, same⟩ := Result.bind_eq_ok read
    cases same
  split at read
  · obtain ⟨_, _, same⟩ := Result.bind_eq_ok read
    cases same
  split at read
  · obtain ⟨found, numberRead, same⟩ := Result.bind_eq_ok read
    cases same
    exact numberRead
  · cases read

private theorem readValue_eq_number {depth : Nat} {number : Number}
    (read : readValue (depth + 1) bytes = .ok (.number number, rest)) :
    readNumber (skipBlanks bytes) = .ok (number, rest) := by
  unfold readValue at read
  split at read
  · cases read
  · next lead more front =>
      rw [front]
      split at read
      · obtain ⟨_, _, same⟩ := Result.bind_eq_ok read
        cases same
      split at read
      · obtain ⟨_, _, same⟩ := Result.bind_eq_ok read
        cases same
      · exact readScalar_eq_number read

private theorem IsBlankPad.endsNumber {after : List UInt8} (blank : IsBlankPad after) :
    EndsNumber after := by
  have table : ∀ value : Fin 256, isBlankByte (.ofFin value) = true →
      isDigit (.ofFin value) = false ∧ UInt8.ofFin value ≠ 0x2E ∧ UInt8.ofFin value ≠ 0x65 ∧
        UInt8.ofFin value ≠ 0x45 := by
    decide +kernel
  intro byte first
  exact table byte.toFin (blank byte (List.mem_of_mem_head? first))

private theorem readValue_of_beginsNumber {depth : Nat} {lead : UInt8} {more : List UInt8}
    (front : skipBlanks bytes = lead :: more) (begins : lead = 0x2D ∨ isDigit lead = true) :
    readValue (depth + 1) bytes = (do
      let (number, rest) ← readNumber (lead :: more)
      pure (.number number, rest)) := by
  have other := ne_of_beginsNumber begins
  simp only [List.forall_mem_cons] at other
  simp [readValue, front, readScalar, other, begins]

theorem IntegerLiteral.IsTextOf.parse (isText : literal.IsTextOf json) :
    Json.parse json = literal.numberText.value?.elim (.error .malformed) (.ok ∘ .number) := by
  obtain ⟨before, after, blankBefore, blankAfter, rfl⟩ := isText
  have text := literal.readNumberText_bytes blankAfter.endsNumber
  have ended : skipBlanks after = [] := List.dropWhile_eq_nil_iff.mpr blankAfter
  obtain ⟨lead, more, written, begins⟩ := literal.exists_lead
  have other := ne_of_beginsNumber begins
  simp only [List.forall_mem_cons] at other
  rw [written, List.cons_append] at text
  have front : skipBlanks (before ++ literal.bytes ++ after) = lead :: (more ++ after) := by
    rw [skipBlanks, List.append_assoc, List.dropWhile_append_of_pos blankBefore, written,
      List.cons_append, List.dropWhile_cons_of_neg]
    simp [isBlankByte, other]
  rw [Json.parse, readAll, maxDepth, readValue_of_beginsNumber front begins]
  cases valued : literal.numberText.value? <;>
    simp [readNumber, text, valued, ended, bind, Except.bind, pure, Except.pure]

/-- A text is read as a whole number exactly if it is a literal that fits, between blanks. -/
theorem parse_eq_whole :
    parse json = .ok (.number (.whole number)) ↔
      ∃ literal : IntegerLiteral, literal.IsTextOf json ∧ literal.IsWhole ∧
        number = literal.value := by
  constructor
  · intro parsed
    obtain ⟨⟨value, rest⟩, read, ended⟩ := Result.bind_eq_ok parsed
    dsimp only at ended
    split at ended
    · next blank =>
        cases ended
        obtain ⟨literal, front, isWhole, same⟩ := readNumber_eq_whole (readValue_eq_number read)
        refine ⟨literal, ⟨json.takeWhile isBlankByte, rest, fun byte => List.mem_takeWhile_imp,
          List.dropWhile_eq_nil_iff.mp blank, ?_⟩, isWhole, same⟩
        rw [List.append_assoc, ← front]
        exact List.takeWhile_append_dropWhile.symm
    · cases ended
  · rintro ⟨literal, isText, isWhole, rfl⟩
    rw [isText.parse, literal.value?_numberText.mpr ⟨isWhole, rfl⟩]
    rfl

end Text

end Latchkey.Json
