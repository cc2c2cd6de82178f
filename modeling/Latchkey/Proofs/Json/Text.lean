/-
JSON strings read back. A written string is a run of plain bytes and escapes, each of which
stands for one character; the reader takes at least one byte in each of its steps, so that
the bytes at hand are enough steps for it.
-/

import Latchkey.Json.Printer
import Latchkey.Json.Record
import Latchkey.Proofs.Text.Hex

namespace Latchkey.Json

open Text.Utf8 (encodeChars encodeChars_append encodeChars_cons)

def IsPlain (byte : UInt8) : Prop := 0x20 ≤ byte.toNat ∧ byte ≠ 0x22 ∧ byte ≠ 0x5C

section Steps

variable {byte mark : UInt8} {char : Char} {bytes rest : List UInt8}
  (before : List UInt8) (fuel : Nat)

theorem readStringBytes_quote (rest : List UInt8) :
    readStringBytes before (fuel + 1) (0x22 :: rest) = .ok (before.reverse, rest) := by
  rw [readStringBytes.eq_def]
  rfl

theorem readStringBytes_cons_of_isPlain (plain : IsPlain byte) (rest : List UInt8) :
    readStringBytes before (fuel + 1) (byte :: rest) =
      readStringBytes (byte :: before) fuel rest := by
  obtain ⟨visible, notQuote, notSlash⟩ := plain
  have notControl : ¬byte < 0x20 := by
    rw [UInt8.lt_iff_toNat_lt]
    exact Nat.not_lt.mpr visible
  rw [readStringBytes.eq_def]
  simp only [if_neg notQuote, if_neg notSlash, if_neg notControl]

theorem readStringBytes_shortEscape (found : shortEscape? mark = some byte) (rest : List UInt8) :
    readStringBytes before (fuel + 1) (0x5C :: mark :: rest) =
      readStringBytes (byte :: before) fuel rest := by
  have notUnit : mark = 0x75 → False := by
    rintro rfl
    cases found
  rw [readStringBytes, found]
  · rfl
  · exact notUnit

theorem readStringBytes_unitEscape (read : readEscapedUnit bytes = .ok (char, rest)) :
    readStringBytes before (fuel + 1) (0x5C :: 0x75 :: bytes) =
      readStringBytes ((String.utf8EncodeChar char).reverse ++ before) fuel rest := by
  simp [readStringBytes, read, bind, Except.bind]

theorem readStringBytes_plain {plain : List UInt8} (isPlain : ∀ byte ∈ plain, IsPlain byte)
    (rest : List UInt8) :
    readStringBytes before (fuel + plain.length) (plain ++ rest) =
      readStringBytes (plain.reverse ++ before) fuel rest := by
  induction plain generalizing before with
  | nil => rfl
  | cons byte plain ih =>
      rw [List.length_cons, List.cons_append, ← Nat.add_assoc,
        readStringBytes_cons_of_isPlain _ _ (isPlain byte List.mem_cons_self),
        ih _ fun other member => isPlain other (List.mem_cons_of_mem _ member)]
      simp

end Steps

private theorem ofNat_toNat_ascii {char : Char} (ascii : char.toNat < 0x80) :
    Char.ofNat (UInt8.ofNat char.toNat).toNat = char := by
  have small : char.toNat < 2 ^ 8 := by omega
  rw [UInt8.toNat_ofNat', Nat.mod_eq_of_lt small, Char.ofNat_toNat]

theorem ascii_of_mem_fixed {count number : Nat} {digit : Char}
    (member : digit ∈ Text.Hex.fixed count number) : digit.toNat < 0x80 := by
  have table : ∀ value : Fin 16, (Text.Hex.lower value).toNat < 0x80 := by decide
  induction count generalizing number with
  | zero => cases member
  | succ count ih =>
      rw [Text.Hex.fixed, List.mem_append, List.mem_singleton] at member
      rcases member with earlier | rfl
      · exact ih earlier
      · exact table ⟨number % 16, Nat.mod_lt _ (by decide)⟩

private theorem readFourHex?_ascii {a b c d : Char}
    (ascii : ∀ digit ∈ [a, b, c, d], digit.toNat < 0x80) (rest : List UInt8) :
    readFourHex? (encodeChars [a, b, c, d] ++ rest) =
      (Text.Hex.number? 0 [a, b, c, d]).map (·, rest) := by
  have back : ([a, b, c, d].map fun digit => Char.ofNat (UInt8.ofNat digit.toNat).toNat) =
      [a, b, c, d] := by
    rw [List.map_congr_left fun digit member => ofNat_toNat_ascii (ascii digit member),
      List.map_id']
  rw [Text.Utf8.encodeChars_of_ascii ascii, ← congrArg (Text.Hex.number? 0) back]
  rfl

theorem readFourHex?_fixed {number : Nat} (small : number < 0x10000) (rest : List UInt8) :
    readFourHex? (encodeChars (Text.Hex.fixed 4 number) ++ rest) = some (number, rest) := by
  have ascii : ∀ digit ∈ Text.Hex.fixed 4 number, digit.toNat < 0x80 :=
    fun _digit member => ascii_of_mem_fixed member
  have value : Text.Hex.number? 0 (Text.Hex.fixed 4 number) = some number :=
    Text.Hex.number?_fixed_of_lt small
  exact (readFourHex?_ascii ascii rest).trans (congrArg (·.map (·, rest)) value)

theorem readEscapedUnit_control {char : Char} (control : char.toNat < 0x20) (rest : List UInt8) :
    readEscapedUnit (encodeChars (Text.Hex.fixed 4 char.toNat) ++ rest) = .ok (char, rest) := by
  have notHigh : ¬isHighSurrogate char.toNat = true := by
    simp only [isHighSurrogate, Bool.and_eq_true, decide_eq_true_eq]
    omega
  have notLow : ¬isLowSurrogate char.toNat = true := by
    simp only [isLowSurrogate, Bool.and_eq_true, decide_eq_true_eq]
    omega
  rw [readEscapedUnit, readFourHex?_fixed (by omega)]
  simp only [if_neg notHigh, if_neg notLow, Char.ofNat_toNat]

theorem isPlain_of_mem_utf8EncodeChar {char : Char} (visible : 0x20 ≤ char.toNat)
    (notQuote : char ≠ '"') (notSlash : char ≠ '\\') :
    ∀ byte ∈ String.utf8EncodeChar char, IsPlain byte := by
  intro byte member
  by_cases ascii : char.toNat < 0x80
  · rw [Text.Utf8.utf8EncodeChar_of_ascii ascii, List.mem_singleton] at member
    have same : byte.toNat = char.toNat := by
      rw [member, UInt8.toNat_ofNat', Nat.mod_eq_of_lt (by omega)]
    refine ⟨by omega, ?_, ?_⟩
    · rintro rfl
      exact notQuote (Char.toNat_inj.mp same.symm)
    · rintro rfl
      exact notSlash (Char.toNat_inj.mp same.symm)
  · have high := Text.Utf8.le_toNat_of_mem_utf8EncodeChar (Nat.not_lt.mp ascii) member
    refine ⟨by omega, ?_, ?_⟩
    · rintro rfl
      exact absurd high (by decide)
    · rintro rfl
      exact absurd high (by decide)

private theorem readStringBytes_escapeChar (char : Char) :
    ∃ steps ≤ (encodeChars (escapeChar char)).length,
      ∀ (before : List UInt8) (fuel : Nat) (rest : List UInt8),
        readStringBytes before (fuel + steps) (encodeChars (escapeChar char) ++ rest) =
          readStringBytes ((String.utf8EncodeChar char).reverse ++ before) fuel rest := by
  unfold escapeChar
  split
  case h_8 notQuote notSlash _ _ _ _ _ =>
    split
    case isTrue control =>
      refine ⟨1, Nat.le_add_left _ _, fun before fuel rest => ?_⟩
      exact readStringBytes_unitEscape before fuel (readEscapedUnit_control control rest)
    case isFalse visible =>
      have plain := isPlain_of_mem_utf8EncodeChar (Nat.not_lt.mp visible) notQuote notSlash
      have written : encodeChars [char] = String.utf8EncodeChar char := List.append_nil _
      rw [written]
      exact ⟨_, Nat.le_refl _, fun before fuel rest => readStringBytes_plain before fuel plain rest⟩
  -- each character with a short escape
  all_goals
    exact ⟨1, by decide, fun before fuel rest => readStringBytes_shortEscape before fuel rfl rest⟩

private theorem readStringBytes_escaped (chars : List Char) :
    ∃ steps ≤ (encodeChars (chars.flatMap escapeChar)).length,
      ∀ (before : List UInt8) (fuel : Nat) (rest : List UInt8),
        readStringBytes before (fuel + steps) (encodeChars (chars.flatMap escapeChar) ++ rest) =
          readStringBytes ((encodeChars chars).reverse ++ before) fuel rest := by
  induction chars with
  | nil => exact ⟨0, Nat.le_refl _, fun _before _fuel _rest => rfl⟩
  | cons char chars ih =>
      obtain ⟨own, ownBound, ownRead⟩ := readStringBytes_escapeChar char
      obtain ⟨later, laterBound, laterRead⟩ := ih
      rw [List.flatMap_cons, encodeChars_append, encodeChars_cons]
      refine ⟨later + own, by rw [List.length_append]; omega, fun before fuel rest => ?_⟩
      rw [List.append_assoc, ← Nat.add_assoc, ownRead, laterRead, List.reverse_append,
        List.append_assoc]

/-- A string reads back from its written form. -/
theorem readStringBody_escaped (text : String) (rest : List UInt8) :
    readStringBody (encodeChars (text.toList.flatMap escapeChar) ++ 0x22 :: rest) =
      .ok (text, rest) := by
  obtain ⟨steps, bound, read⟩ := readStringBytes_escaped text.toList
  have fuel : (encodeChars (text.toList.flatMap escapeChar) ++ 0x22 :: rest).length =
      (encodeChars (text.toList.flatMap escapeChar)).length - steps + rest.length + 1 + steps := by
    rw [List.length_append, List.length_cons]
    omega
  have content : Text.Utf8.decode? (encodeChars text.toList) = some text :=
    Text.Utf8.decode?_encode text
  rw [readStringBody, fuel, read, readStringBytes_quote, List.append_nil, List.reverse_reverse]
  simp [content, bind, Except.bind]

end Latchkey.Json
