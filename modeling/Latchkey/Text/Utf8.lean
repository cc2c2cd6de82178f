/-
UTF-8. Writing gives one to four bytes a character. Reading takes one character
off the front of the bytes or, where they hold none, as many bytes as could have
begun one; the lenient reader goes on with a replacement character. The strict
reader refuses bytes that are not well formed and gives every written text back.
-/

namespace Latchkey.Text.Utf8

def encodeChars (chars : List Char) : List UInt8 :=
  chars.flatMap String.utf8EncodeChar

def encode (text : String) : List UInt8 := encodeChars text.toList

theorem encodeChars_cons (char : Char) (chars : List Char) :
    encodeChars (char :: chars) = String.utf8EncodeChar char ++ encodeChars chars :=
  List.flatMap_cons

theorem encodeChars_append (first second : List Char) :
    encodeChars (first ++ second) = encodeChars first ++ encodeChars second :=
  List.flatMap_append

theorem encode_append (first second : String) :
    encode (first ++ second) = encode first ++ encode second := by
  rw [encode, String.toList_append, encodeChars_append]
  rfl

theorem utf8EncodeChar_of_ascii {char : Char} (ascii : char.toNat < 0x80) :
    String.utf8EncodeChar char = [UInt8.ofNat char.toNat] := by
  have small : char.val.toNat ≤ 0x7F := Nat.le_of_lt_succ ascii
  unfold String.utf8EncodeChar
  exact if_pos small

theorem encodeChars_of_ascii {chars : List Char} (ascii : ∀ char ∈ chars, char.toNat < 0x80) :
    encodeChars chars = chars.map fun char => UInt8.ofNat char.toNat := by
  induction chars with
  | nil => rfl
  | cons char rest ih =>
      rw [encodeChars_cons, utf8EncodeChar_of_ascii (ascii char List.mem_cons_self),
        ih fun other member => ascii other (List.mem_cons_of_mem _ member)]
      rfl

theorem le_toNat_of_mem_utf8EncodeChar {char : Char} (beyond : 0x80 ≤ char.toNat) {byte : UInt8}
    (member : byte ∈ String.utf8EncodeChar char) : 0x80 ≤ byte.toNat := by
  have notSmall : ¬char.val.toNat ≤ 0x7F := Nat.not_le_of_lt beyond
  simp only [String.utf8EncodeChar, if_neg notSmall] at member
  split at member
  · simp only [List.mem_cons, List.not_mem_nil, or_false] at member
    rcases member with rfl | rfl <;> rw [UInt8.toNat_ofNat'] <;> omega
  · split at member
    · simp only [List.mem_cons, List.not_mem_nil, or_false] at member
      rcases member with rfl | rfl | rfl <;> rw [UInt8.toNat_ofNat'] <;> omega
    · simp only [List.mem_cons, List.not_mem_nil, or_false] at member
      rcases member with rfl | rfl | rfl | rfl <;> rw [UInt8.toNat_ofNat'] <;> omega

private def continuation? (low high : Nat) : List UInt8 → Option (Nat × List UInt8)
  | [] => none
  | byte :: rest =>
      if low ≤ byte.toNat ∧ byte.toNat ≤ high then some (byte.toNat % 64, rest) else none

/-- Reads `count` continuation bytes below the bits `high` already read; the first
of them lies in the range from `low` to `top`. Without them, what is left after
those that could be read. -/
private def continueChar (high low top : Nat) : Nat → List UInt8 → Option Char × List UInt8
  | 0, bytes => (some (Char.ofNat high), bytes)
  | count + 1, bytes =>
      match continuation? low top bytes with
      | some (bits, rest) => continueChar (high * 64 + bits) 0x80 0xBF count rest
      | none => (none, bytes)

/-- One character from the front of `lead :: rest`, with what is left. Where no
character can be read, the bytes that could have begun one are dropped. -/
def first (lead : UInt8) (rest : List UInt8) : Option Char × List UInt8 :=
  let value := lead.toNat
  if value < 0x80 then (some (Char.ofNat value), rest)
  else if 0xC2 ≤ value ∧ value ≤ 0xDF then continueChar (value % 32) 0x80 0xBF 1 rest
  else if value = 0xE0 then continueChar 0 0xA0 0xBF 2 rest
  else if value = 0xED then continueChar 0xD 0x80 0x9F 2 rest
  else if 0xE1 ≤ value ∧ value ≤ 0xEF then continueChar (value % 16) 0x80 0xBF 2 rest
  else if value = 0xF0 then continueChar 0 0x90 0xBF 3 rest
  else if 0xF1 ≤ value ∧ value ≤ 0xF3 then continueChar (value % 8) 0x80 0xBF 3 rest
  else if value = 0xF4 then continueChar 4 0x80 0x8F 3 rest
  else (none, rest)

private theorem continuation?_length {low high bits : Nat} {bytes rest : List UInt8}
    (found : continuation? low high bytes = some (bits, rest)) :
    rest.length < bytes.length := by
  cases bytes with
  | nil => simp [continuation?] at found
  | cons byte tail =>
      simp only [continuation?] at found
      split at found
      · cases found; simp
      · cases found

private theorem continueChar_length (high low top count : Nat) (bytes : List UInt8) :
    (continueChar high low top count bytes).2.length ≤ bytes.length := by
  induction count generalizing high low top bytes with
  | zero => simp [continueChar]
  | succ count ih =>
      simp only [continueChar]
      split
      · next bits rest found =>
          have shorter := continuation?_length found
          have step := ih (high * 64 + bits) 0x80 0xBF rest
          omega
      · exact Nat.le_refl _

theorem first_length (lead : UInt8) (rest : List UInt8) :
    (first lead rest).2.length ≤ rest.length := by
  simp only [first]
  repeat' split
  all_goals first | exact Nat.le_refl _ | exact continueChar_length _ _ _ _ _

def decode? (bytes : List UInt8) : Option String :=
  bytes.toByteArray.utf8Decode?.map fun chars => String.ofList chars.toList

theorem decode?_encode (text : String) : decode? (encode text) = some text := by
  have bytes : (encode text).toByteArray = text.toList.utf8Encode := rfl
  rw [decode?, bytes, List.utf8Decode?_utf8Encode]
  simp

/-- The characters of any bytes; each piece that is no character becomes U+FFFD. -/
def decodeCharsLossy : List UInt8 → List Char
  | [] => []
  | lead :: rest =>
      have := first_length lead rest
      (first lead rest).1.getD '\uFFFD' :: decodeCharsLossy (first lead rest).2
termination_by bytes => bytes.length

def decodeLossy (bytes : List UInt8) : String := String.ofList (decodeCharsLossy bytes)

section Continuations

variable {value high low top : Nat} (rest : List UInt8)

private theorem continueChar_cons {bits : Nat} (count : Nat) (small : bits < 64)
    (inside : low ≤ bits + 128 ∧ bits + 128 ≤ top) :
    continueChar high low top (count + 1) (UInt8.ofNat (bits + 128) :: rest) =
      continueChar (high * 64 + bits) 0x80 0xBF count rest := by
  have byte : (UInt8.ofNat (bits + 128)).toNat = bits + 128 :=
    UInt8.toNat_ofNat_of_lt' (show bits + 128 < 256 by omega)
  have bitsAre : (bits + 128) % 64 = bits := by omega
  simp only [continueChar, continuation?, byte, if_pos inside, bitsAre]

private theorem continueChar_one (lead : high = value / 64)
    (inside : low ≤ value % 64 + 128 ∧ value % 64 + 128 ≤ top) :
    continueChar high low top 1 (UInt8.ofNat (value % 64 + 128) :: rest) =
      (some (Char.ofNat value), rest) := by
  have whole : high * 64 + value % 64 = value := by omega
  rw [continueChar_cons rest 0 (by omega) inside, whole, continueChar]

private theorem continueChar_two (lead : high = value / 4096)
    (inside : low ≤ value / 64 % 64 + 128 ∧ value / 64 % 64 + 128 ≤ top) :
    continueChar high low top 2
        (UInt8.ofNat (value / 64 % 64 + 128) :: UInt8.ofNat (value % 64 + 128) :: rest) =
      (some (Char.ofNat value), rest) := by
  rw [continueChar_cons _ 1 (by omega) inside]
  exact continueChar_one rest (by omega) (by omega)

private theorem continueChar_three (lead : high = value / 262144)
    (inside : low ≤ value / 4096 % 64 + 128 ∧ value / 4096 % 64 + 128 ≤ top) :
    continueChar high low top 3
        (UInt8.ofNat (value / 4096 % 64 + 128) :: UInt8.ofNat (value / 64 % 64 + 128)
          :: UInt8.ofNat (value % 64 + 128) :: rest) =
      (some (Char.ofNat value), rest) := by
  rw [continueChar_cons _ 2 (by omega) inside]
  exact continueChar_two rest (by omega) (by omega)

end Continuations

theorem first_utf8EncodeChar (char : Char) :
    ∃ lead tail, String.utf8EncodeChar char = lead :: tail ∧
      ∀ rest, first lead (tail ++ rest) = (some char, rest) := by
  have valid : char.val.toNat < 0xD800 ∨ 0xDFFF < char.val.toNat ∧ char.val.toNat < 0x110000 :=
    char.valid
  have whole : Char.ofNat char.val.toNat = char := Char.ofNat_toNat char
  generalize point : char.val.toNat = value at valid whole
  subst whole
  have byte {number : Nat} (small : number < 256) : (UInt8.ofNat number).toNat = number :=
    UInt8.toNat_ofNat_of_lt' small
  simp only [String.utf8EncodeChar, point]
  by_cases one : value ≤ 127
  · refine ⟨_, _, if_pos one, fun rest => ?_⟩
    simp only [first, byte (show value < 256 by omega), if_pos (show value < 128 by omega),
      List.nil_append]
  by_cases two : value ≤ 2047
  · refine ⟨_, _, (if_neg one).trans (if_pos two), fun rest => ?_⟩
    simp only [first, byte (show value / 64 % 32 + 192 < 256 by omega)]
    rw [if_neg (by omega), if_pos (by omega)]
    exact continueChar_one rest (by omega) (by omega)
  by_cases three : value ≤ 65535
  · refine ⟨_, _, (if_neg one).trans ((if_neg two).trans (if_pos three)), fun rest => ?_⟩
    simp only [first, byte (show value / 4096 % 16 + 224 < 256 by omega)]
    rw [if_neg (by omega), if_neg (by omega)]
    -- the lowest and the highest lead leave the next byte a smaller range
    split
    · exact continueChar_two rest (by omega) (by omega)
    split
    · exact continueChar_two rest (by omega) (by omega)
    · rw [if_pos (by omega)]
      exact continueChar_two rest (by omega) (by omega)
  · refine ⟨_, _, (if_neg one).trans ((if_neg two).trans (if_neg three)), fun rest => ?_⟩
    simp only [first, byte (show value / 262144 % 8 + 240 < 256 by omega)]
    rw [if_neg (by omega), if_neg (by omega), if_neg (by omega), if_neg (by omega),
      if_neg (by omega)]
    split
    · exact continueChar_three rest (by omega) (by omega)
    split
    · exact continueChar_three rest (by omega) (by omega)
    · rw [if_pos (by omega)]
      exact continueChar_three rest (by omega) (by omega)

theorem decodeCharsLossy_encodeChars (chars : List Char) :
    decodeCharsLossy (encodeChars chars) = chars := by
  induction chars with
  | nil =>
      change decodeCharsLossy [] = []
      rw [decodeCharsLossy]
  | cons char chars ih =>
      obtain ⟨lead, tail, written, read⟩ := first_utf8EncodeChar char
      rw [encodeChars_cons, written, List.cons_append, decodeCharsLossy, read, ih]
      rfl

/-- The lenient reader, too, gives every written text back. -/
theorem decodeLossy_encode (text : String) : decodeLossy (encode text) = text := by
  rw [decodeLossy, encode, decodeCharsLossy_encodeChars, String.ofList_toList]

end Latchkey.Text.Utf8
