/-
Compact JSON text. Strings escape the quote, the backslash and control characters
and nothing else. A float shows the fewest digits that read back: positional with at
least one place after the point when its first digit stands no more than five places
after the point and no more than sixteen before it, and otherwise with a signed
exponent.
-/

import Latchkey.Decimal.Shortest
import Latchkey.Json.Basic
import Latchkey.Text.Hex

namespace Latchkey.Json

def escapeChar (char : Char) : List Char :=
  match char with
  | '"' => ['\\', '"']
  | '\\' => ['\\', '\\']
  | '\x08' => ['\\', 'b']
  | '\x0c' => ['\\', 'f']
  | '\n' => ['\\', 'n']
  | '\r' => ['\\', 'r']
  | '\t' => ['\\', 't']
  | _ => if char.toNat < 0x20 then ['\\', 'u'] ++ Text.Hex.fixed 4 char.toNat else [char]

def quotedChars (text : String) : List Char :=
  '"' :: text.toList.flatMap escapeChar ++ ['"']

def leastPositional : Int := -5
def greatestPositional : Int := 15

def zeros (count : Nat) : List Char := List.replicate count '0'

def floatChars (magnitude : Decimal.Binary64) : List Char :=
  if magnitude.isZero then ['0', '.', '0']
  else
    let decimal := magnitude.shortest.trimZeros 17
    let digits := Nat.toDigits 10 decimal.digits
    let place := decimal.exponent + digits.length - 1
    if leastPositional ≤ place ∧ place ≤ greatestPositional then
      if 0 ≤ decimal.exponent then digits ++ zeros decimal.exponent.toNat ++ ['.', '0']
      else if 0 ≤ place then
        let before := place.toNat + 1
        digits.take before ++ '.' :: digits.drop before
      else ['0', '.'] ++ zeros (-place - 1).toNat ++ digits
    else
      let mantissa :=
        match digits with
        | [] => []
        | [digit] => [digit]
        | digit :: rest => digit :: '.' :: rest
      let sign := if 0 ≤ place then '+' else '-'
      mantissa ++ 'e' :: sign :: Nat.toDigits 10 place.natAbs

def Number.chars : Number → List Char
  | whole value => (toString value).toList
  | float negative magnitude =>
      if negative then '-' :: floatChars magnitude else floatChars magnitude

mutual

def Value.chars : Value → List Char
  | .null => ['n', 'u', 'l', 'l']
  | .bool true => ['t', 'r', 'u', 'e']
  | .bool false => ['f', 'a', 'l', 's', 'e']
  | .number value => value.chars
  | .text value => quotedChars value
  | .list items => '[' :: itemsChars items ++ [']']
  | .object fields => '\x7b' :: fieldsChars fields ++ ['\x7d']

def itemsChars : List Value → List Char
  | [] => []
  | [item] => item.chars
  | item :: rest => item.chars ++ ',' :: itemsChars rest

def fieldsChars : List (String × Value) → List Char
  | [] => []
  | [(name, value)] => quotedChars name ++ ':' :: value.chars
  | (name, value) :: rest => quotedChars name ++ ':' :: value.chars ++ ',' :: fieldsChars rest

end

def Value.render (value : Value) : String := String.ofList value.chars

mutual

/-- The same value with the fields of every object sorted by name, and of a repeated
name only the last. -/
def Value.canonical : Value → Value
  | .list items => .list (canonicalItems items)
  | .object fields => .object (canonicalFields (canonicalMembers fields))
  | value => value

def canonicalItems : List Value → List Value
  | [] => []
  | item :: rest => item.canonical :: canonicalItems rest

def canonicalMembers : List (String × Value) → List (String × Value)
  | [] => []
  | (name, value) :: rest => (name, value.canonical) :: canonicalMembers rest

end

end Latchkey.Json
