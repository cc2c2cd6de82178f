/-
Percent-encoding of texts for URLs and forms. Both write a byte that may not stand
for itself as a percent sign and two upper-case digits. A URL component keeps
letters, digits and `-`, `.`, `_`, `~`; a form keeps letters, digits and `*`, `-`,
`.`, `_`, and writes a space as a plus sign.
-/

import Latchkey.Text.Hex
import Latchkey.Text.Utf8

namespace Latchkey.Text.Percent

def isAsciiAlphanumeric (byte : UInt8) : Bool :=
  (0x30 ≤ byte && byte ≤ 0x39) || (0x41 ≤ byte && byte ≤ 0x5A) || (0x61 ≤ byte && byte ≤ 0x7A)

def escapeByte (byte : UInt8) : List Char :=
  ['%', Hex.upper (byte.toNat / 16), Hex.upper (byte.toNat % 16)]

/-- The bytes that stand for themselves in a URL component: `-`, `.`, `_`, `~`. -/
def isUnreserved (byte : UInt8) : Bool :=
  isAsciiAlphanumeric byte || byte == 0x2D || byte == 0x2E || byte == 0x5F || byte == 0x7E

def componentByte (byte : UInt8) : List Char :=
  if isUnreserved byte then [Char.ofNat byte.toNat] else escapeByte byte

def encodeComponent (text : String) : String :=
  String.ofList ((Utf8.encode text).flatMap componentByte)

/-- The bytes that stand for themselves in a form: `*`, `-`, `.`, `_`. -/
def isFormSafe (byte : UInt8) : Bool :=
  isAsciiAlphanumeric byte || byte == 0x2A || byte == 0x2D || byte == 0x2E || byte == 0x5F

def formByte (byte : UInt8) : List Char :=
  if byte == 0x20 then ['+']
  else if isFormSafe byte then [Char.ofNat byte.toNat] else escapeByte byte

def encodeFormText (text : String) : List Char :=
  (Utf8.encode text).flatMap formByte

def encodeForm (fields : List (String × String)) : String :=
  "&".intercalate (fields.map fun field =>
    String.ofList (encodeFormText field.1 ++ '=' :: encodeFormText field.2))

private def digit? (byte : UInt8) : Option Nat := Hex.value? (Char.ofNat byte.toNat)

def escapedByte? (high low : UInt8) : Option UInt8 := do
  let high ← digit? high
  let low ← digit? low
  pure (UInt8.ofNat (high * 16 + low))

/-- Undoes percent escapes; a percent sign that begins none stays. -/
def decodeBytes : List UInt8 → List UInt8
  | 0x25 :: high :: low :: rest =>
      match escapedByte? high low with
      | some byte => byte :: decodeBytes rest
      | none => 0x25 :: decodeBytes (high :: low :: rest)
  | byte :: rest => byte :: decodeBytes rest
  | [] => []

def decodeComponent (text : String) : Option String :=
  Utf8.decode? (decodeBytes (Utf8.encode text))

def decodeFormText (bytes : List UInt8) : String :=
  Utf8.decodeLossy (decodeBytes (bytes.map fun byte => if byte == 0x2B then 0x20 else byte))

/-- The parts of a list before and after the first `separator`; without one the
second part is empty. -/
def cutAt (separator : UInt8) (bytes : List UInt8) : List UInt8 × List UInt8 :=
  match bytes.span (· != separator) with
  | (before, []) => (before, [])
  | (before, _ :: after) => (before, after)

/-- The named values of a form; empty pieces between `&` signs are skipped. -/
def decodeForm (bytes : List UInt8) : List (String × String) :=
  ((bytes.splitOn 0x26).filter (!·.isEmpty)).map fun piece =>
    let (name, value) := cutAt 0x3D piece
    (decodeFormText name, decodeFormText value)

end Latchkey.Text.Percent
