/-
Account ids: numbers of 128 bits, written as 32 hexadecimal digits in groups of 8, 4,
4, 4 and 12. An id is read from its digits alone, from the grouped form, and from the
grouped form in braces or behind `urn:uuid:`; letters may have either case.
-/

import Latchkey.Text.Hex

namespace Latchkey

structure AccountId where
  bits : BitVec 128
  deriving DecidableEq, Repr

namespace AccountId

def grouped (digits : List Char) : List Char :=
  digits.take 8 ++ '-' :: (digits.drop 8).take 4 ++ '-' :: (digits.drop 12).take 4
    ++ '-' :: (digits.drop 16).take 4 ++ '-' :: digits.drop 20

def text (id : AccountId) : String :=
  String.ofList (grouped (Text.Hex.fixed 32 id.bits.toNat))

def shown (id : AccountId) : String := "Id(" ++ id.text ++ ")"

def ungrouped? (chars : List Char) : Option (List Char) :=
  let digits := chars.take 8 ++ (chars.drop 9).take 4 ++ (chars.drop 14).take 4
    ++ (chars.drop 19).take 4 ++ chars.drop 24
  if chars.length = 36 ∧ [8, 13, 18, 23].all (fun place => chars[place]? == some '-') then
    some digits
  else none

def ofDigits? (digits : List Char) : Option AccountId :=
  if digits.length = 32 then (Text.Hex.number? 0 digits).map fun number => ⟨BitVec.ofNat 128 number⟩
  else none

def urnMark : List Char := ['u', 'r', 'n', ':', 'u', 'u', 'i', 'd', ':']

def digits? (chars : List Char) : Option (List Char) :=
  if chars.length = 32 then some chars
  else if chars.length = 36 then ungrouped? chars
  else if chars.length = 38 then
    if chars.head? = some '\x7b' ∧ chars.getLast? = some '\x7d' then
      ungrouped? (chars.drop 1).dropLast
    else none
  else if chars.length = 45 ∧ (chars.take 9).map Char.toLower = urnMark then ungrouped? (chars.drop 9)
  else none

def ofText? (text : String) : Option AccountId := do
  let digits ← digits? text.toList
  ofDigits? digits

def version (id : AccountId) : Nat := (id.bits >>> 76).toNat % 16

def ofBytes (bytes : List UInt8) : AccountId :=
  ⟨BitVec.ofNat 128 (bytes.foldl (fun number byte => number * 256 + byte.toNat) 0)⟩

/-- The id made from sixteen random bytes: version 4, and the two bits `10` in front of
the fourth group. -/
def ofRandom (bytes : List UInt8) : AccountId :=
  ofBytes ((bytes.modify 6 (· % 16 + 0x40)).modify 8 (· % 64 + 0x80))

end AccountId

end Latchkey
