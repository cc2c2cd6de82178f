/-
Headers of web requests: names and values in the order in which they came. A name is
compared without regard to the case of its letters. A value is a list of bytes without
control characters; it can be read as text only where it is visible ASCII, blanks and
tabs.
-/

import Latchkey.Text.Lowercase
import Latchkey.Text.Utf8

namespace Latchkey.Http

structure Header where
  name : String
  value : List UInt8
  deriving DecidableEq, Repr

abbrev Headers := List Header

/-- The values of the headers with a name, given in lower case. -/
def Headers.valuesOf (headers : Headers) (name : String) : List (List UInt8) :=
  (headers.filter fun header => Text.toAsciiLowercase header.name == name).map (·.value)

/-- Whether bytes may be a value: no control character but the tab. -/
def isLegalValue (bytes : List UInt8) : Bool :=
  bytes.all fun byte => (0x20 ≤ byte && byte != 0x7F) || byte == 0x09

def tokenMarks : List Char := "!#$%&'*+-.^_`|~".toList

def isTokenChar (char : Char) : Bool := char.isAlphanum || tokenMarks.contains char

def isToken (chars : List Char) : Bool := !chars.isEmpty && chars.all isTokenChar

def textOfValue? (bytes : List UInt8) : Option (List Char) :=
  if bytes.all fun byte => (0x20 ≤ byte && byte < 0x7F) || byte == 0x09 then
    some (bytes.map fun byte => Char.ofNat byte.toNat)
  else none

end Latchkey.Http
