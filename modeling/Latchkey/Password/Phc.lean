/-
Password hashes as text: fields that each follow a dollar sign. The first names the
algorithm; then come, each if it is there, the version, the parameters, the salt and
the hash. The version begins with `v=` and has no comma; the parameters have an equals
sign; whatever follows is the salt, and after it the hash.
-/

import Latchkey.Base64

namespace Latchkey.Password

structure Phc where
  algorithm : List Char
  version : Option Nat
  parameters : List (List Char × List Char)
  salt : Option (List Char)
  hash : Option (List UInt8)
  deriving DecidableEq, Repr

namespace Phc

def isNameChar (char : Char) : Bool := char.isLower || char.isDigit || char == '-'

def isName (chars : List Char) : Bool :=
  !chars.isEmpty && chars.length ≤ 32 && chars.all isNameChar

def isValueChar (char : Char) : Bool :=
  char.isAlphanum || char == '/' || char == '+' || char == '.' || char == '-'

def isValue (chars : List Char) : Bool := chars.length ≤ 64 && chars.all isValueChar

/-- A number below `2 ^ 32` in decimal without superfluous zeros. -/
def decimal? (chars : List Char) : Option Nat :=
  let number := chars.foldl (fun number char => number * 10 + (char.toNat - '0'.toNat)) 0
  if !chars.isEmpty ∧ chars.all Char.isDigit ∧ (chars.head? ≠ some '0' ∨ chars.length = 1)
      ∧ number < 4294967296 then some number
  else none

def parameter? (chars : List Char) : Option (List Char × List Char) :=
  match chars.splitOn '=' with
  | [name, value] => if isName name ∧ isValue value then some (name, value) else none
  | _ => none

def parameters? (chars : List Char) : Option (List (List Char × List Char)) :=
  if chars.length ≤ 127 then (chars.splitOn ',').mapM parameter? else none

def version? (field : List Char) : Option Nat :=
  let value := field.drop 2
  if isValue value then decimal? value else none

def salt? (field : List Char) : Option (List Char) :=
  if 4 ≤ field.length ∧ isValue field then some field else none

def hash? (field : List Char) : Option (List UInt8) := do
  let bytes ← Base64.decodeChars? .standard field
  if 10 ≤ bytes.length ∧ bytes.length ≤ 64 then pure bytes else none

def isVersion (field : List Char) : Bool := field.take 2 == ['v', '='] && !field.contains ','

def readOutput (phc : Phc) : List (List Char) → Option Phc
  | [] => some phc
  | [salt] => do
      let salt ← salt? salt
      pure { phc with salt := some salt }
  | [salt, hash] => do
      let salt ← salt? salt
      let hash ← hash? hash
      pure { phc with salt := some salt, hash := some hash }
  | _ => none

def readParameters (phc : Phc) : List (List Char) → Option Phc
  | [] => some phc
  | field :: fields =>
      if field.contains '=' then do
        let parameters ← parameters? field
        readOutput { phc with parameters } fields
      else readOutput phc (field :: fields)

def readVersion (phc : Phc) : List (List Char) → Option Phc
  | [] => some phc
  | field :: fields =>
      if isVersion field then do
        let version ← version? field
        readParameters { phc with version := some version } fields
      else readParameters phc (field :: fields)

def parse? (text : String) : Option Phc :=
  match text.toList.splitOn '$' with
  | [] :: algorithm :: fields =>
      if isName algorithm then readVersion ⟨algorithm, none, [], none, none⟩ fields else none
  | _ => none

/-- The last value under a name. -/
def parameter (phc : Phc) (name : String) : Option (List Char) :=
  (phc.parameters.reverse.find? (·.1 == name.toList)).map (·.2)

end Phc

end Latchkey.Password
