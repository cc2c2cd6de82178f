/-
Names that people are shown under. A name is kept in compatibility-composed form and
trimmed; it has one to a hundred characters and no control character. Whoever signs in
through an identity provider with a name that cannot be used gets a random one.
-/

import Latchkey.Failure
import Latchkey.Text.Blank
import Latchkey.Text.Normal

namespace Latchkey

structure DisplayName where
  text : String
  deriving DecidableEq, Repr

namespace DisplayName

def maxLength : Nat := 100

def parseWith (normalize : String → String) (raw : String) : Except Failure DisplayName :=
  let name := Text.trim (normalize raw)
  if name.isEmpty then .error (.invalidInput "Name is required")
  else if maxLength < name.length then
    .error (.invalidInput s!"Name must be at most {maxLength} characters")
  else if name.toList.any Text.isControl then
    .error (.invalidInput "Name contains invalid characters")
  else .ok ⟨name⟩

def parse (raw : String) : Except Failure DisplayName := parseWith Text.nfkc raw

def randomLength : Nat := 16

def generated (secret : String) : DisplayName := ⟨"user_" ++ secret⟩

def ofProviderWith? (normalize : String → String) (name : Option String) : Option DisplayName :=
  name.bind fun raw => (parseWith normalize raw).toOption

def ofProvider? (name : Option String) : Option DisplayName := ofProviderWith? Text.nfkc name

end DisplayName

end Latchkey
