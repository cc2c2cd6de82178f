/-
Passwords in clear text. A password is compared and hashed in compatibility-composed
form, so that one typed in another way is the same password. A new one must have nine
to seventy-two characters of that form, no control character, an upper-case and a
lower-case letter, a number, and a character that is none of these and not blank.
-/

import Latchkey.Failure
import Latchkey.Text.Blank
import Latchkey.Text.Letter
import Latchkey.Text.Normal
import Latchkey.Text.Utf8

namespace Latchkey

/-- A password in compatibility-composed form. -/
structure Password where
  text : String
  deriving DecidableEq

namespace Password

inductive Weakness where
  | missing
  | tooShort (length : Nat)
  | tooLong (length : Nat)
  | controlCharacter
  | noUppercase
  | noLowercase
  | noNumber
  | noSpecial
  deriving DecidableEq, Repr

def minLength : Nat := 9

def maxLength : Nat := 72

def Weakness.name : Weakness → String
  | missing => "Required"
  | tooShort _ => "TooShort"
  | tooLong _ => "TooLong"
  | controlCharacter => "InvalidCharacter"
  | noUppercase => "MissingUppercase"
  | noLowercase => "MissingLowercase"
  | noNumber => "MissingNumber"
  | noSpecial => "MissingSpecialCharacter"

def Weakness.message : Weakness → String
  | missing => "Password is required"
  | tooShort length => s!"Password must be at least {minLength} characters (got {length})"
  | tooLong length => s!"Password must be at most {maxLength} characters (got {length})"
  | controlCharacter => "Password contains invalid control characters"
  | noUppercase => "Password must contain at least one uppercase letter"
  | noLowercase => "Password must contain at least one lowercase letter"
  | noNumber => "Password must contain at least one number"
  | noSpecial => "Password must contain at least one special character"

def Weakness.failure (weakness : Weakness) : Failure := .invalidInput weakness.message

/-- A password as it was typed, whatever it lacks. -/
def typed (raw : String) : Password := ⟨Text.nfkc raw⟩

/-- What is the matter with the characters of a new password, the first thing only. -/
def weakness? (chars : List Char) : Option Weakness :=
  if chars.isEmpty then some .missing
  else if chars.length < minLength then some (.tooShort chars.length)
  else if maxLength < chars.length then some (.tooLong chars.length)
  else if chars.any Text.isControl then some .controlCharacter
  else if !chars.any Text.isUppercase then some .noUppercase
  else if !chars.any Text.isLowercase then some .noLowercase
  else if !chars.any Text.isNumeric then some .noNumber
  else if !chars.any fun char => !Text.isAlphanumeric char && !Text.isBlank char then
    some .noSpecial
  else none

def choose (raw : String) : Except Weakness Password :=
  let password := typed raw
  match weakness? password.text.toList with
  | some weakness => .error weakness
  | none => .ok password

def shown (_ : Password) : String := "ClearTextPassword(\"[REDACTED]\")"

/-- The bytes that are hashed: those of the password and then those of the pepper. -/
def peppered (password : Password) (pepper : Option (List UInt8)) : List UInt8 :=
  Text.Utf8.encode password.text ++ pepper.getD []

end Password

end Latchkey
