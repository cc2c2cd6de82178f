/-
Reading JSON from bytes. Each reader takes what it reads off the front of the bytes
and leaves the rest. A failure tells malformed text from well-formed text of another
shape, and the first failure met from the left is the one reported. Values nest at
most 127 deep; a value that is skipped may nest to any depth and hold numbers of any
size.
-/

import Latchkey.Json.Basic
import Latchkey.Text.Hex
import Latchkey.Text.Utf8

namespace Latchkey.Json

inductive Fault where
  /-- The text is not JSON, or holds a number or a string that has no value. -/
  | malformed
  /-- The text is JSON as far as it was read, but not of the expected shape. -/
  | mismatched
  deriving DecidableEq, Repr

abbrev Reader (α : Type) := List UInt8 → Except Fault (α × List UInt8)

def isBlankByte (byte : UInt8) : Bool :=
  byte == 0x20 || byte == 0x09 || byte == 0x0A || byte == 0x0D

def skipBlanks (bytes : List UInt8) : List UInt8 := bytes.dropWhile isBlankByte

def dropWord? : (word bytes : List UInt8) → Option (List UInt8)
  | [], bytes => some bytes
  | _ :: _, [] => none
  | expected :: word, byte :: rest => if byte = expected then dropWord? word rest else none

def expectWord (word bytes : List UInt8) : Except Fault (List UInt8) :=
  match dropWord? word bytes with
  | some rest => .ok rest
  | none => .error .malformed

def nullWord : List UInt8 := [0x6E, 0x75, 0x6C, 0x6C]
def trueWord : List UInt8 := [0x74, 0x72, 0x75, 0x65]
def falseWord : List UInt8 := [0x66, 0x61, 0x6C, 0x73, 0x65]

/-! ### Numbers -/

structure NumberText where
  negative : Bool
  integer : List Nat
  fraction : List Nat
  exponent : Option Int
  deriving DecidableEq, Repr

def isDigit (byte : UInt8) : Bool := 0x30 ≤ byte && byte ≤ 0x39

def takeDigits (bytes : List UInt8) : List Nat × List UInt8 :=
  ((bytes.takeWhile isDigit).map (·.toNat - 0x30), bytes.dropWhile isDigit)

/-- At least one digit; a zero comes alone. -/
def readInteger (bytes : List UInt8) : Except Fault (List Nat × List UInt8) :=
  match takeDigits bytes with
  | ([], _) => .error .malformed
  | (0 :: _ :: _, _) => .error .malformed
  | found => .ok found

/-- A point and at least one digit, or nothing. -/
def readFraction : List UInt8 → Except Fault (List Nat × List UInt8)
  | 0x2E :: rest =>
      match takeDigits rest with
      | ([], _) => .error .malformed
      | found => .ok found
  | bytes => .ok ([], bytes)

def digitsValue (digits : List Nat) : Nat := digits.foldl (fun value digit => value * 10 + digit) 0

/-- An `e` with an optional sign and at least one digit, or nothing. -/
def readExponent : List UInt8 → Except Fault (Option Int × List UInt8)
  | mark :: rest =>
      if mark = 0x65 ∨ mark = 0x45 then
        let (negative, rest) :=
          match rest with
          | 0x2B :: rest => (false, rest)
          | 0x2D :: rest => (true, rest)
          | rest => (false, rest)
        match takeDigits rest with
        | ([], _) => .error .malformed
        | (digits, rest) =>
            let value : Int := digitsValue digits
            .ok (some (if negative then -value else value), rest)
      else .ok (none, mark :: rest)
  | [] => .ok (none, [])

def readNumberText (bytes : List UInt8) : Except Fault (NumberText × List UInt8) := do
  let (negative, bytes) :=
    match bytes with
    | 0x2D :: rest => (true, rest)
    | bytes => (false, bytes)
  let (integer, bytes) ← readInteger bytes
  let (fraction, bytes) ← readFraction bytes
  let (exponent, bytes) ← readExponent bytes
  pure (⟨negative, integer, fraction, exponent⟩, bytes)

/-- Significands have at most 64 bits. -/
def wordBound : Nat := 18446744073709551616

/-- Takes digits into a significand while it stays below 2^64; tells how many digits
are left over. -/
def takeSignificand (significand : Nat) : List Nat → Nat × Nat
  | [] => (significand, 0)
  | digit :: rest =>
      let next := significand * 10 + digit
      if next < wordBound then takeSignificand next rest else (significand, rest.length + 1)

/-- The value of a number. A whole number of at most 64 bits is exact; any other is a
float, made from the digits that fit into 64 bits: further digits of the integer part
count as zeros and further digits of the fraction do not count. A negative zero is a
float too. A float past the greatest one has no value. -/
def NumberText.value? (written : NumberText) : Option Number :=
  let (whole, dropped) := takeSignificand 0 written.integer
  if written.fraction.isEmpty && written.exponent.isNone && dropped == 0
      && !(written.negative && (whole == 0 || 9223372036854775808 < whole)) then
    some (.whole (if written.negative then -(whole : Int) else whole))
  else
    let (significand, left) := takeSignificand whole written.fraction
    let places := written.fraction.length - left
    let exponent : Int := (dropped : Int) - places + written.exponent.getD 0
    (Decimal.Binary64.ofDecimal? significand exponent).map (.float written.negative)

def readNumber : Reader Number := fun bytes => do
  let (written, rest) ← readNumberText bytes
  match written.value? with
  | some number => .ok (number, rest)
  | none => .error .malformed

/-! ### Strings -/

def readFourHex? : List UInt8 → Option (Nat × List UInt8)
  | a :: b :: c :: d :: rest =>
      (Text.Hex.number? 0 ([a, b, c, d].map fun byte => Char.ofNat byte.toNat)).map (·, rest)
  | _ => none

def isHighSurrogate (unit : Nat) : Bool := 0xD800 ≤ unit && unit ≤ 0xDBFF
def isLowSurrogate (unit : Nat) : Bool := 0xDC00 ≤ unit && unit ≤ 0xDFFF

def surrogatePair (high low : Nat) : Char :=
  Char.ofNat (0x10000 + (high - 0xD800) * 0x400 + (low - 0xDC00))

/-- The character of a `\u` escape whose first four digits are read: a high surrogate
needs a second escape with a low one, and no surrogate stands alone. -/
def readEscapedUnit (bytes : List UInt8) : Except Fault (Char × List UInt8) :=
  match readFourHex? bytes with
  | none => .error .malformed
  | some (unit, rest) =>
      if isHighSurrogate unit then
        match rest with
        | 0x5C :: 0x75 :: rest =>
            match readFourHex? rest with
            | some (low, rest) =>
                if isLowSurrogate low then .ok (surrogatePair unit low, rest)
                else .error .malformed
            | none => .error .malformed
        | _ => .error .malformed
      else if isLowSurrogate unit then .error .malformed
      else .ok (Char.ofNat unit, rest)

def shortEscape? (mark : UInt8) : Option UInt8 :=
  if mark = 0x22 then some 0x22
  else if mark = 0x5C then some 0x5C
  else if mark = 0x2F then some 0x2F
  else if mark = 0x62 then some 0x08
  else if mark = 0x66 then some 0x0C
  else if mark = 0x6E then some 0x0A
  else if mark = 0x72 then some 0x0D
  else if mark = 0x74 then some 0x09
  else none

/-- The bytes of a string after its opening quote. `before` holds those read so far,
the last one first, and `fuel` bounds the count of steps. -/
def readStringBytes (before : List UInt8) :
    (fuel : Nat) → List UInt8 → Except Fault (List UInt8 × List UInt8)
  | 0, _ => .error .malformed
  | _ + 1, [] => .error .malformed
  | fuel + 1, byte :: rest =>
      if byte = 0x22 then .ok (before.reverse, rest)
      else if byte = 0x5C then
        match rest with
        | 0x75 :: rest => do
            let (char, rest) ← readEscapedUnit rest
            readStringBytes ((String.utf8EncodeChar char).reverse ++ before) fuel rest
        | mark :: rest =>
            match shortEscape? mark with
            | some byte => readStringBytes (byte :: before) fuel rest
            | none => .error .malformed
        | [] => .error .malformed
      else if byte < 0x20 then .error .malformed
      else readStringBytes (byte :: before) fuel rest

def readStringBody : Reader String := fun bytes => do
  let (content, rest) ← readStringBytes [] bytes.length bytes
  match Text.Utf8.decode? content with
  | some text => .ok (text, rest)
  | none => .error .malformed

/-! ### Values -/

def readItems (item : Reader Value) (first : Bool) : (fuel : Nat) → Reader (List Value)
  | 0, _ => .error .malformed
  | fuel + 1, bytes =>
      match skipBlanks bytes with
      | 0x5D :: rest => .ok ([], rest)
      | 0x2C :: rest =>
          if first then .error .malformed
          else
            match skipBlanks rest with
            | 0x5D :: _ => .error .malformed
            | rest => next fuel rest
      | rest => if first then next fuel rest else .error .malformed
where
  next (fuel : Nat) (bytes : List UInt8) : Except Fault (List Value × List UInt8) := do
    let (head, rest) ← item bytes
    let (tail, rest) ← readItems item false fuel rest
    pure (head :: tail, rest)

def readNameBody : Reader String := fun bytes => do
  let (name, rest) ← readStringBody bytes
  match skipBlanks rest with
  | 0x3A :: rest => .ok (name, rest)
  | _ => .error .malformed

/-- Stands before the next name of an object: gives the bytes after its opening quote,
or, at the end of the object, those after the brace. -/
def nextName (first : Bool) (bytes : List UInt8) : Except Fault (Bool × List UInt8) :=
  match skipBlanks bytes with
  | 0x7D :: rest => .ok (false, rest)
  | 0x2C :: rest =>
      if first then .error .malformed
      else
        match skipBlanks rest with
        | 0x22 :: rest => .ok (true, rest)
        | _ => .error .malformed
  | 0x22 :: rest => if first then .ok (true, rest) else .error .malformed
  | _ => .error .malformed

def readMembers (item : Reader Value) (first : Bool) :
    (fuel : Nat) → Reader (List (String × Value))
  | 0, _ => .error .malformed
  | fuel + 1, bytes => do
      match ← nextName first bytes with
      | (false, rest) => pure ([], rest)
      | (true, rest) =>
          let (name, rest) ← readNameBody rest
          let (value, rest) ← item rest
          let (tail, rest) ← readMembers item false fuel rest
          pure ((name, value) :: tail, rest)

def readScalar (lead : UInt8) (bytes : List UInt8) : Except Fault (Value × List UInt8) :=
  if lead = 0x6E then do
    let rest ← expectWord nullWord bytes
    pure (.null, rest)
  else if lead = 0x74 then do
    let rest ← expectWord trueWord bytes
    pure (.bool true, rest)
  else if lead = 0x66 then do
    let rest ← expectWord falseWord bytes
    pure (.bool false, rest)
  else if lead = 0x22 then do
    let (text, rest) ← readStringBody (bytes.drop 1)
    pure (.text text, rest)
  else if lead = 0x2D ∨ isDigit lead = true then do
    let (number, rest) ← readNumber bytes
    pure (.number number, rest)
  else .error .malformed

def readValue : (depth : Nat) → Reader Value
  | 0 => fun bytes =>
      match skipBlanks bytes with
      | [] => .error .malformed
      | lead :: rest =>
          if lead = 0x5B ∨ lead = 0x7B then .error .malformed
          else readScalar lead (lead :: rest)
  | depth + 1 => fun bytes =>
      match skipBlanks bytes with
      | [] => .error .malformed
      | lead :: rest =>
          if lead = 0x5B then do
            let (items, rest) ← readItems (readValue depth) true bytes.length rest
            pure (.list items, rest)
          else if lead = 0x7B then do
            let (members, rest) ← readMembers (readValue depth) true bytes.length rest
            pure (.object members, rest)
          else readScalar lead (lead :: rest)

def maxDepth : Nat := 127

/-- What a reader finds in the whole of the bytes. -/
def readAll {α : Type} (reader : Reader α) (bytes : List UInt8) : Except Fault α := do
  let (value, rest) ← reader bytes
  match skipBlanks rest with
  | [] => .ok value
  | _ => .error .malformed

def parse (bytes : List UInt8) : Except Fault Value := readAll (readValue maxDepth) bytes

/-! ### Skipping -/

/-- Skips a string after its opening quote. Escapes need four hexadecimal digits but
not a character, and the bytes need not be well-formed UTF-8. -/
def skipStringBody : (fuel : Nat) → List UInt8 → Except Fault (List UInt8)
  | 0, _ => .error .malformed
  | _ + 1, [] => .error .malformed
  | fuel + 1, byte :: rest =>
      if byte = 0x22 then .ok rest
      else if byte = 0x5C then
        match rest with
        | 0x75 :: rest =>
            match readFourHex? rest with
            | some (_, rest) => skipStringBody fuel rest
            | none => .error .malformed
        | mark :: rest =>
            if (shortEscape? mark).isSome then skipStringBody fuel rest else .error .malformed
        | [] => .error .malformed
      else if byte < 0x20 then .error .malformed
      else skipStringBody fuel rest

inductive Frame where
  | list
  | object
  deriving DecidableEq, Repr

def skipNameBody (bytes : List UInt8) : Except Fault (List UInt8) := do
  let rest ← skipStringBody bytes.length bytes
  match skipBlanks rest with
  | 0x3A :: rest => .ok rest
  | _ => .error .malformed

def skipScalar (lead : UInt8) (bytes : List UInt8) : Except Fault (List UInt8) :=
  if lead = 0x6E then expectWord nullWord bytes
  else if lead = 0x74 then expectWord trueWord bytes
  else if lead = 0x66 then expectWord falseWord bytes
  else if lead = 0x22 then skipStringBody bytes.length (bytes.drop 1)
  else if lead = 0x2D ∨ isDigit lead = true then (readNumberText bytes).map (·.2)
  else .error .malformed

mutual

/-- Skips one value inside the open lists and objects, innermost first, and then all
that is left of them. -/
def skipInside : (fuel : Nat) → (frames : List Frame) → List UInt8 → Except Fault (List UInt8)
  | 0, _, _ => .error .malformed
  | fuel + 1, frames, bytes =>
      match skipBlanks bytes with
      | [] => .error .malformed
      | lead :: rest =>
          if lead = 0x5B then
            match skipBlanks rest with
            | 0x5D :: rest => skipAfter fuel frames rest
            | rest => skipInside fuel (.list :: frames) rest
          else if lead = 0x7B then
            match skipBlanks rest with
            | 0x7D :: rest => skipAfter fuel frames rest
            | 0x22 :: rest => do
                let rest ← skipNameBody rest
                skipInside fuel (.object :: frames) rest
            | _ => .error .malformed
          else do
            let rest ← skipScalar lead (lead :: rest)
            skipAfter fuel frames rest

def skipAfter : (fuel : Nat) → (frames : List Frame) → List UInt8 → Except Fault (List UInt8)
  | 0, _, _ => .error .malformed
  | _ + 1, [], bytes => .ok bytes
  | fuel + 1, frame :: frames, bytes =>
      match frame, skipBlanks bytes with
      | .list, 0x5D :: rest => skipAfter fuel frames rest
      | .object, 0x7D :: rest => skipAfter fuel frames rest
      | .list, 0x2C :: rest => skipInside fuel (.list :: frames) rest
      | .object, 0x2C :: rest =>
          match skipBlanks rest with
          | 0x22 :: rest => do
              let rest ← skipNameBody rest
              skipInside fuel (.object :: frames) rest
          | _ => .error .malformed
      | _, _ => .error .malformed

end

def skipValue (bytes : List UInt8) : Except Fault (List UInt8) :=
  skipInside (2 * bytes.length + 1) [] bytes

end Latchkey.Json
