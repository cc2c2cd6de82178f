/-
Base64 without padding, in the URL-safe alphabet of tokens and random secrets and
in the standard alphabet of password hashes. Three bytes become four symbols; one
or two bytes left over become two or three symbols whose unused low bits are zero.
A reader accepts exactly what the writer produces.
-/

import Latchkey.Text.Utf8

namespace Latchkey.Base64

inductive Alphabet where
  | urlSafe
  | standard
  deriving DecidableEq, Repr

def Alphabet.symbol62 : Alphabet → Char
  | urlSafe => '-'
  | standard => '+'

def Alphabet.symbol63 : Alphabet → Char
  | urlSafe => '_'
  | standard => '/'

def Alphabet.symbol (alphabet : Alphabet) (value : Nat) : Char :=
  if value < 26 then Char.ofNat ('A'.toNat + value)
  else if value < 52 then Char.ofNat ('a'.toNat + (value - 26))
  else if value < 62 then Char.ofNat ('0'.toNat + (value - 52))
  else if value = 62 then alphabet.symbol62
  else alphabet.symbol63

def Alphabet.value? (alphabet : Alphabet) (char : Char) : Option Nat :=
  if 'A' ≤ char ∧ char ≤ 'Z' then some (char.toNat - 'A'.toNat)
  else if 'a' ≤ char ∧ char ≤ 'z' then some (char.toNat - 'a'.toNat + 26)
  else if '0' ≤ char ∧ char ≤ '9' then some (char.toNat - '0'.toNat + 52)
  else if char = alphabet.symbol62 then some 62
  else if char = alphabet.symbol63 then some 63
  else none

def encodeChars (alphabet : Alphabet) : List UInt8 → List Char
  | [] => []
  | [a] =>
      [alphabet.symbol (a.toNat / 4), alphabet.symbol (a.toNat % 4 * 16)]
  | [a, b] =>
      [alphabet.symbol (a.toNat / 4),
        alphabet.symbol (a.toNat % 4 * 16 + b.toNat / 16),
        alphabet.symbol (b.toNat % 16 * 4)]
  | a :: b :: c :: rest =>
      alphabet.symbol (a.toNat / 4)
        :: alphabet.symbol (a.toNat % 4 * 16 + b.toNat / 16)
        :: alphabet.symbol (b.toNat % 16 * 4 + c.toNat / 64)
        :: alphabet.symbol (c.toNat % 64)
        :: encodeChars alphabet rest

def encode (alphabet : Alphabet) (bytes : List UInt8) : String :=
  String.ofList (encodeChars alphabet bytes)

/-- Why a text stands for no bytes. A symbol is named by its byte and its place. -/
inductive DecodeError where
  | invalidByte (offset : Nat) (byte : UInt8)
  | invalidLength (length : Nat)
  | invalidLastSymbol (offset : Nat) (byte : UInt8)
  | invalidPadding
  deriving DecidableEq, Repr

def DecodeError.name : DecodeError → String
  | invalidByte _ _ => "InvalidByte"
  | invalidLength _ => "InvalidLength"
  | invalidLastSymbol _ _ => "InvalidLastSymbol"
  | invalidPadding => "InvalidPadding"

def DecodeError.message : DecodeError → String
  | invalidByte offset byte => s!"Invalid symbol {byte.toNat}, offset {offset}."
  | invalidLength length => s!"Invalid input length: {length}"
  | invalidLastSymbol offset byte => s!"Invalid last symbol {byte.toNat}, offset {offset}."
  | invalidPadding => "Invalid padding"

private def firstByte (a b : Nat) : UInt8 := UInt8.ofNat (a * 4 + b / 16)
private def secondByte (b c : Nat) : UInt8 := UInt8.ofNat (b % 16 * 16 + c / 4)
private def thirdByte (c d : Nat) : UInt8 := UInt8.ofNat (c % 4 * 64 + d)

/-- The bytes of a list of symbols, or nothing where it is no canonical text. -/
def decodeChars? (alphabet : Alphabet) : List Char → Option (List UInt8)
  | [] => some []
  | [_] => none
  | [a, b] => do
      let a ← alphabet.value? a
      let b ← alphabet.value? b
      if b % 16 = 0 then pure [firstByte a b] else none
  | [a, b, c] => do
      let a ← alphabet.value? a
      let b ← alphabet.value? b
      let c ← alphabet.value? c
      if c % 4 = 0 then pure [firstByte a b, secondByte b c] else none
  | a :: b :: c :: d :: rest => do
      let a ← alphabet.value? a
      let b ← alphabet.value? b
      let c ← alphabet.value? c
      let d ← alphabet.value? d
      let bytes ← decodeChars? alphabet rest
      pure (firstByte a b :: secondByte b c :: thirdByte c d :: bytes)

theorem Alphabet.value?_symbol (alphabet : Alphabet) {value : Nat} (small : value < 64) :
    alphabet.value? (alphabet.symbol value) = some value := by
  have table : ∀ value : Fin 64, alphabet.value? (alphabet.symbol value) = some value.val := by
    cases alphabet <;> decide
  exact table ⟨value, small⟩

private theorem firstByte_halves (a : UInt8) {next : Nat} (small : next < 16) :
    firstByte (a.toNat / 4) (a.toNat % 4 * 16 + next) = a := by
  have whole : a.toNat / 4 * 4 + (a.toNat % 4 * 16 + next) / 16 = a.toNat := by omega
  rw [firstByte, whole, UInt8.ofNat_toNat]

private theorem secondByte_halves (b : UInt8) {last next : Nat} (small : next < 4) :
    secondByte (last * 16 + b.toNat / 16) (b.toNat % 16 * 4 + next) = b := by
  have bound := b.toNat_lt
  have whole : (last * 16 + b.toNat / 16) % 16 * 16 + (b.toNat % 16 * 4 + next) / 4 = b.toNat := by
    omega
  rw [secondByte, whole, UInt8.ofNat_toNat]

private theorem thirdByte_halves (c : UInt8) {last : Nat} :
    thirdByte (last * 4 + c.toNat / 64) (c.toNat % 64) = c := by
  have bound := c.toNat_lt
  have whole : (last * 4 + c.toNat / 64) % 4 * 64 + c.toNat % 64 = c.toNat := by omega
  rw [thirdByte, whole, UInt8.ofNat_toNat]

theorem decodeChars?_encodeChars (alphabet : Alphabet) (bytes : List UInt8) :
    decodeChars? alphabet (encodeChars alphabet bytes) = some bytes := by
  fun_induction encodeChars alphabet bytes with
  | case1 => rfl
  | case2 a =>
      have boundA := a.toNat_lt
      have first := firstByte_halves a (show 0 < 16 by decide)
      simp only [Nat.add_zero] at first
      simp only [decodeChars?]
      rw [alphabet.value?_symbol (by omega), alphabet.value?_symbol (by omega)]
      simp [first]
  | case3 a b =>
      have boundA := a.toNat_lt
      have boundB := b.toNat_lt
      have first := firstByte_halves a (show b.toNat / 16 < 16 by omega)
      have second := @secondByte_halves b (a.toNat % 4) 0 (by decide)
      simp only [Nat.add_zero] at second
      simp only [decodeChars?]
      rw [alphabet.value?_symbol (by omega), alphabet.value?_symbol (by omega),
        alphabet.value?_symbol (by omega)]
      simp [first, second]
  | case4 a b c rest ih =>
      have boundA := a.toNat_lt
      have boundB := b.toNat_lt
      have boundC := c.toNat_lt
      have first := firstByte_halves a (show b.toNat / 16 < 16 by omega)
      have second := @secondByte_halves b (a.toNat % 4) (c.toNat / 64) (by omega)
      have third := @thirdByte_halves c (b.toNat % 16)
      simp only [decodeChars?]
      rw [alphabet.value?_symbol (by omega), alphabet.value?_symbol (by omega),
        alphabet.value?_symbol (by omega), alphabet.value?_symbol (by omega), ih]
      simp [first, second, third]

theorem isSome_value?_of_decodeChars? {alphabet : Alphabet} {chars : List Char} {bytes : List UInt8}
    (read : decodeChars? alphabet chars = some bytes) :
    ∀ char ∈ chars, (alphabet.value? char).isSome = true := by
  fun_induction decodeChars? alphabet chars generalizing bytes with
  | case1 => simp
  | case2 _ => cases read
  | case3 a b =>
      simp only [Option.bind_eq_bind, Option.bind_eq_some_iff] at read
      obtain ⟨_, atA, _, atB, _⟩ := read
      simp [atA, atB]
  | case4 a b c =>
      simp only [Option.bind_eq_bind, Option.bind_eq_some_iff] at read
      obtain ⟨_, atA, _, atB, _, atC, _⟩ := read
      simp [atA, atB, atC]
  | case5 a b c d rest ih =>
      simp only [Option.bind_eq_bind, Option.bind_eq_some_iff] at read
      obtain ⟨_, atA, _, atB, _, atC, _, atD, _, later, _⟩ := read
      simpa [atA, atB, atC, atD] using ih later

def IsUrlSafe (char : Char) : Prop :=
  ('A' ≤ char ∧ char ≤ 'Z') ∨ ('a' ≤ char ∧ char ≤ 'z') ∨ ('0' ≤ char ∧ char ≤ '9') ∨ char = '-'
    ∨ char = '_'

theorem isUrlSafe_of_isSome_value? {char : Char}
    (symbol : (Alphabet.urlSafe.value? char).isSome = true) : IsUrlSafe char := by
  unfold Alphabet.value? at symbol
  split at symbol
  · next upper => exact Or.inl upper
  split at symbol
  · next lower => exact Or.inr (Or.inl lower)
  split at symbol
  · next digit => exact Or.inr (Or.inr (Or.inl digit))
  split at symbol
  · next hyphen => exact Or.inr (Or.inr (Or.inr (Or.inl hyphen)))
  split at symbol
  · next underscore => exact Or.inr (Or.inr (Or.inr (Or.inr underscore)))
  · cases symbol

theorem isUrlSafe_of_mem_encodeChars {bytes : List UInt8} {char : Char}
    (member : char ∈ encodeChars .urlSafe bytes) : IsUrlSafe char :=
  isUrlSafe_of_isSome_value?
    (isSome_value?_of_decodeChars? (decodeChars?_encodeChars .urlSafe bytes) char member)

private theorem toNat_lt_of_value? {alphabet : Alphabet} {char : Char} {value : Nat}
    (read : alphabet.value? char = some value) : char.toNat < 128 := by
  unfold Alphabet.value? at read
  split at read
  · next upper => exact Nat.lt_of_le_of_lt (Char.le_def.mp upper.2) (by decide)
  split at read
  · next lower => exact Nat.lt_of_le_of_lt (Char.le_def.mp lower.2) (by decide)
  split at read
  · next digit => exact Nat.lt_of_le_of_lt (Char.le_def.mp digit.2) (by decide)
  split at read
  · next mark =>
      subst mark
      cases alphabet <;> decide
  split at read
  · next mark =>
      subst mark
      cases alphabet <;> decide
  · cases read

theorem Alphabet.symbol_value? {alphabet : Alphabet} {char : Char} {value : Nat}
    (read : alphabet.value? char = some value) : value < 64 ∧ alphabet.symbol value = char := by
  have table : ∀ point : Fin 128, ∀ value ∈ alphabet.value? (Char.ofNat point),
      value < 64 ∧ alphabet.symbol value = Char.ofNat point := by
    cases alphabet <;> decide
  have entry := table ⟨char.toNat, toNat_lt_of_value? read⟩
  rw [Char.ofNat_toNat] at entry
  exact entry value read

private theorem toNat_firstByte {a b : Nat} (smallA : a < 64) (smallB : b < 64) :
    (firstByte a b).toNat = a * 4 + b / 16 := by
  rw [firstByte, UInt8.toNat_ofNat_of_lt']
  change a * 4 + b / 16 < 256
  omega

private theorem toNat_secondByte (b : Nat) {c : Nat} (smallC : c < 64) :
    (secondByte b c).toNat = b % 16 * 16 + c / 4 := by
  rw [secondByte, UInt8.toNat_ofNat_of_lt']
  change b % 16 * 16 + c / 4 < 256
  omega

private theorem toNat_thirdByte (c : Nat) {d : Nat} (smallD : d < 64) :
    (thirdByte c d).toNat = c % 4 * 64 + d := by
  rw [thirdByte, UInt8.toNat_ofNat_of_lt']
  change c % 4 * 64 + d < 256
  omega

theorem encodeChars_of_decodeChars? {alphabet : Alphabet} {chars : List Char}
    {bytes : List UInt8} (read : decodeChars? alphabet chars = some bytes) :
    encodeChars alphabet bytes = chars := by
  fun_induction decodeChars? alphabet chars generalizing bytes with
  | case1 =>
      cases read
      rfl
  | case2 _ => cases read
  | case3 a b =>
      simp only [Option.bind_eq_bind, Option.bind_eq_some_iff] at read
      obtain ⟨x, atA, y, atB, read⟩ := read
      obtain ⟨smallX, symbolA⟩ := Alphabet.symbol_value? atA
      obtain ⟨smallY, symbolB⟩ := Alphabet.symbol_value? atB
      split at read
      case isFalse => cases read
      case isTrue unused =>
        -- the bits of the last symbol that go into no byte are zero
        cases read
        have first : (x * 4 + y / 16) / 4 = x := by omega
        have second : (x * 4 + y / 16) % 4 * 16 = y := by omega
        rw [encodeChars, toNat_firstByte smallX smallY, first, second, symbolA, symbolB]
  | case4 a b c =>
      simp only [Option.bind_eq_bind, Option.bind_eq_some_iff] at read
      obtain ⟨x, atA, y, atB, z, atC, read⟩ := read
      obtain ⟨smallX, symbolA⟩ := Alphabet.symbol_value? atA
      obtain ⟨smallY, symbolB⟩ := Alphabet.symbol_value? atB
      obtain ⟨smallZ, symbolC⟩ := Alphabet.symbol_value? atC
      split at read
      case isFalse => cases read
      case isTrue unused =>
        cases read
        have first : (x * 4 + y / 16) / 4 = x := by omega
        have second : (x * 4 + y / 16) % 4 * 16 + (y % 16 * 16 + z / 4) / 16 = y := by omega
        have third : (y % 16 * 16 + z / 4) % 16 * 4 = z := by omega
        rw [encodeChars, toNat_firstByte smallX smallY, toNat_secondByte y smallZ, first, second,
          third, symbolA, symbolB, symbolC]
  | case5 a b c d rest ih =>
      simp only [Option.bind_eq_bind, Option.bind_eq_some_iff] at read
      obtain ⟨x, atA, y, atB, z, atC, w, atD, bytesLater, later, read⟩ := read
      obtain ⟨smallX, symbolA⟩ := Alphabet.symbol_value? atA
      obtain ⟨smallY, symbolB⟩ := Alphabet.symbol_value? atB
      obtain ⟨smallZ, symbolC⟩ := Alphabet.symbol_value? atC
      obtain ⟨smallW, symbolD⟩ := Alphabet.symbol_value? atD
      cases read
      have first : (x * 4 + y / 16) / 4 = x := by omega
      have second : (x * 4 + y / 16) % 4 * 16 + (y % 16 * 16 + z / 4) / 16 = y := by omega
      have third : (y % 16 * 16 + z / 4) % 16 * 4 + (z % 4 * 64 + w) / 64 = z := by omega
      have fourth : (z % 4 * 64 + w) % 64 = w := by omega
      rw [encodeChars, toNat_firstByte smallX smallY, toNat_secondByte y smallZ,
        toNat_thirdByte z smallW, first, second, third, fourth, symbolA, symbolB, symbolC, symbolD,
        ih later]

theorem decodeChars?_eq_some_iff {alphabet : Alphabet} {chars : List Char} {bytes : List UInt8} :
    decodeChars? alphabet chars = some bytes ↔ chars = encodeChars alphabet bytes := by
  constructor
  · intro read
    exact (encodeChars_of_decodeChars? read).symm
  · rintro rfl
    exact decodeChars?_encodeChars alphabet bytes

theorem encode_ne_empty {alphabet : Alphabet} {bytes : List UInt8} (given : bytes ≠ []) :
    encode alphabet bytes ≠ "" := by
  intro empty
  have symbols : encodeChars alphabet bytes = [] := by
    rw [← String.toList_ofList (l := encodeChars alphabet bytes)]
    exact congrArg String.toList empty
  have read := decodeChars?_encodeChars alphabet bytes
  rw [symbols] at read
  cases read
  exact given rfl

def decode? (alphabet : Alphabet) (text : String) : Option (List UInt8) :=
  decodeChars? alphabet text.toList

def padding : UInt8 := 0x3D

def Alphabet.holds (alphabet : Alphabet) (byte : UInt8) : Bool :=
  (alphabet.value? (Char.ofNat byte.toNat)).isSome

def firstInvalid? (alphabet : Alphabet) (offset : Nat) : List UInt8 → Option DecodeError
  | [] => none
  | byte :: rest =>
      if alphabet.holds byte then firstInvalid? alphabet (offset + 1) rest
      else some (.invalidByte offset byte)

/-- What is wrong with the last one to four bytes, which begin at `start`. `symbols`
are the bytes of the alphabet read so far and `padded` the place of the first padding
sign. Padding is an invalid byte before the third place or before another byte. -/
def diagnoseTail (alphabet : Alphabet) (start : Nat) (symbols : List UInt8)
    (padded : Option Nat) (offset : Nat) : List UInt8 → DecodeError
  | [] =>
      if symbols.length < 2 then .invalidLength (start + symbols.length)
      else if padded.isSome then .invalidPadding
      else .invalidLastSymbol (start + symbols.length - 1) (symbols.getLastD 0)
  | byte :: rest =>
      if byte = padding then
        if offset < start + 2 then .invalidByte offset byte
        else diagnoseTail alphabet start symbols (padded <|> some offset) (offset + 1) rest
      else
        match padded with
        | some place => .invalidByte place padding
        | none =>
            if alphabet.holds byte then
              diagnoseTail alphabet start (symbols ++ [byte]) none (offset + 1) rest
            else .invalidByte offset byte

/-- Why a list of bytes is refused. A single invalid byte after complete groups is
named first, then the first invalid byte of the groups before the last. -/
def diagnose (alphabet : Alphabet) (bytes : List UInt8) : DecodeError :=
  let length := bytes.length
  let last := bytes.getLastD 0
  if length % 4 = 1 ∧ last ≠ padding ∧ alphabet.holds last = false then
    .invalidByte (length - 1) last
  else
    let start := length - (if length % 4 = 0 then 4 else length % 4)
    match firstInvalid? alphabet 0 (bytes.take start) with
    | some error => error
    | none => diagnoseTail alphabet start [] none start (bytes.drop start)

def decode (alphabet : Alphabet) (text : String) : Except DecodeError (List UInt8) :=
  match decode? alphabet text with
  | some bytes => .ok bytes
  | none => .error (diagnose alphabet (Text.Utf8.encode text))

end Latchkey.Base64
