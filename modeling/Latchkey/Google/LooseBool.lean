/-
Truth values as they are met in the wild: null for no, a truth value itself, a word or
digit in a string, blanks around it ignored, and a whole number, which is a yes unless
it is zero.
-/

import Latchkey.Json.Printer
import Latchkey.Json.Reader
import Latchkey.Text.Blank
import Latchkey.Text.Quoted

namespace Latchkey.Google.LooseBool

open Json (Value)

def yesWords : List String := ["1", "t", "T", "TRUE", "true", "True"]

def noWords : List String := ["0", "f", "F", "FALSE", "false", "False"]

def ofWord? (word : String) : Option Bool :=
  if word ∈ yesWords then some true
  else if word ∈ noWords then some false
  else none

/-- The truth value of a JSON value, or a message on why it has none. -/
def ofValue : Value → Except String Bool
  | .null => .ok false
  | .bool value => .ok value
  | .text text =>
      match ofWord? (Text.trim text) with
      | some value => .ok value
      | none => .error ("invalid boolean string: " ++ Text.quoted text)
  | .number number =>
      match number.signed? with
      | some value => .ok (value != 0)
      | none => .error ("invalid boolean number: " ++ String.ofList number.chars)
  | value => .error ("invalid boolean: " ++ value.canonical.render)

end Latchkey.Google.LooseBool
