/-
Hashing and checking passwords with Argon2. A new hash is made with Argon2id under
fixed costs and carries its salt and costs with it; a password is checked under the
variant, version and costs that its hash names. The pepper is no part of the hash and
must be the one under which the hash was made.
-/

import Latchkey.Digest.Argon2
import Latchkey.Password.Phc
import Latchkey.Password.Policy

namespace Latchkey.Password

open Digest.Argon2 (Parameters Variant Version)

def costs : Parameters :=
  { variant := .id, version := .v19, memory := 19456, passes := 2, lanes := 1, tagLength := 32 }

def saltLength : Nat := 16

def Variant.ofName? (name : List Char) : Option Variant :=
  if name = "argon2d".toList then some .d
  else if name = "argon2i".toList then some .i
  else if name = "argon2id".toList then some .id
  else none

def Variant.name : Variant → String
  | .d => "argon2d"
  | .i => "argon2i"
  | .id => "argon2id"

def Version.ofNumber? (number : Nat) : Option Version :=
  if number = 16 then some .v16 else if number = 19 then some .v19 else none

def hashText (parameters : Parameters) (salt tag : List UInt8) : String :=
  s!"${Variant.name parameters.variant}$v={parameters.version.number}"
    ++ s!"$m={parameters.memory},t={parameters.passes},p={parameters.lanes}"
    ++ "$" ++ Base64.encode .standard salt ++ "$" ++ Base64.encode .standard tag

def hash (password : Password) (pepper : Option (List UInt8)) (salt : List UInt8) : String :=
  hashText costs salt (Digest.Argon2.tag costs (password.peppered pepper) salt [])

/-- The parameters that a hash may name: the costs, a key that it tells by its number and
bytes that are hashed along. -/
def knownParameters : List (List Char) :=
  ["m", "t", "p", "keyid", "data"].map String.toList

def Phc.cost? (phc : Phc) (name : String) (default : Nat) : Option Nat :=
  match phc.parameter name with
  | none => some default
  | some value => Phc.decimal? value

def Phc.bytes? (phc : Phc) (name : String) (limit : Nat) : Option (List UInt8) :=
  match phc.parameter name with
  | none => some []
  | some value => do
      let bytes ← Base64.decodeChars? .standard value
      if bytes.length ≤ limit then pure bytes else none

/-- Whether every value of a parameter can be read, also those that a later one replaces. -/
def Phc.isReadable (phc : Phc) : Bool :=
  phc.parameters.all fun (name, value) =>
    let alone := { phc with parameters := [(name, value)] }
    knownParameters.contains name
      && ((["m", "t", "p"].map String.toList).contains name → (Phc.decimal? value).isSome)
      && (alone.bytes? "keyid" 8).isSome && (alone.bytes? "data" 32).isSome

/-- A computation that a hash asks for, with the salt, the bytes that are hashed along and
the tag that a right password gives. -/
structure Challenge where
  parameters : Parameters
  salt : List UInt8
  associated : List UInt8
  tag : List UInt8
  deriving DecidableEq, Repr

def maxLanes : Nat := 0xFFFFFF

def Phc.challenge? (phc : Phc) : Option Challenge := do
  let variant ← Variant.ofName? phc.algorithm
  let version ← Version.ofNumber? (phc.version.getD 19)
  let salt ← Base64.decodeChars? .standard (← phc.salt)
  let tag ← phc.hash
  let memory ← phc.cost? "m" costs.memory
  let passes ← phc.cost? "t" costs.passes
  let lanes ← phc.cost? "p" costs.lanes
  let associated ← phc.bytes? "data" 32
  if phc.isReadable ∧ 8 ≤ salt.length ∧ 8 ≤ memory ∧ 8 * lanes ≤ memory ∧ 1 ≤ passes
      ∧ 1 ≤ lanes ∧ lanes ≤ maxLanes then
    pure
      { parameters := { variant, version, memory, passes, lanes, tagLength := tag.length }
        salt, associated, tag }
  else none

def Challenge.isMetBy (challenge : Challenge) (password : Password)
    (pepper : Option (List UInt8)) : Bool :=
  Digest.Argon2.tag challenge.parameters (password.peppered pepper) challenge.salt
    challenge.associated == challenge.tag

/-- Whether a password under a pepper is the one of a hash. No password is the one of a
text that is no hash. -/
def verify (hash : String) (password : Password) (pepper : Option (List UInt8)) : Bool :=
  match (Phc.parse? hash).bind Phc.challenge? with
  | some challenge => challenge.isMetBy password pepper
  | none => false

def Phc.malformedMessage : String := "Invalid password hash format"

inductive HashFault where
  | notHashed (detail : String)
  | malformed
  deriving DecidableEq, Repr

def HashFault.message : HashFault → String
  | notHashed detail => "Password hashing failed: " ++ detail
  | malformed => Phc.malformedMessage

def HashFault.failure (fault : HashFault) : Failure := .internal fault.message

def Phc.shown (_ : Phc) : String := Text.shownRecord "HashedPassword" [("hash", Text.quoted "[HASH]")]

end Latchkey.Password
