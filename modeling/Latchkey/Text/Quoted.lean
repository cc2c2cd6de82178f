/-
Texts in quotes, as diagnostics show them, and the lay-out of a record shown with
its field names. A quote, a backslash and the usual control characters have short
escapes; whatever is not printable, and whatever extends a grapheme, is written by
its code point.
-/

import Latchkey.Text.Hex
import Latchkey.Text.Printable

namespace Latchkey.Text

def codePointEscape (char : Char) : List Char :=
  ['\\', 'u', '\x7b'] ++ Hex.shortest char.toNat ++ ['\x7d']

def escapeChar (char : Char) : List Char :=
  match char with
  | '\x00' => ['\\', '0']
  | '\t' => ['\\', 't']
  | '\n' => ['\\', 'n']
  | '\r' => ['\\', 'r']
  | '\\' => ['\\', '\\']
  | '"' => ['\\', '"']
  | _ => if extendsGrapheme char || !isPrintable char then codePointEscape char else [char]

def quoted (text : String) : String :=
  String.ofList ('"' :: text.toList.flatMap escapeChar ++ ['"'])

def shownRecord (name : String) (fields : List (String × String)) : String :=
  name ++ " \x7b " ++ ", ".intercalate (fields.map fun field => field.1 ++ ": " ++ field.2)
    ++ " \x7d"

def shownOption : Option String → String
  | none => "None"
  | some value => "Some(" ++ value ++ ")"

end Latchkey.Text
