/-
Lower case of whole texts. Every character has a lower-case form of its own but
one: a capital sigma becomes a final sigma at the end of a word, that is, when a
cased character precedes it and none follows, case-ignorable characters being
looked through on both sides.
-/

import Latchkey.Text.CaseRuns
import Latchkey.Text.CaseContext

namespace Latchkey.Text

/-- The lower-case form of a character outside any context. A capital I with a dot
becomes two characters. -/
def lowerChar (char : Char) : List Char :=
  if char = 'İ' then ['i', '\u0307']
  else
    match caseRuns.find? (·.contains char.toNat) with
    | some run => [Char.ofNat (char.toNat + run.shift).toNat]
    | none => [char]

/-- Whether the first character that is not case-ignorable is cased. -/
def meetsCased (chars : List Char) : Bool :=
  match chars.dropWhile isCaseIgnorable with
  | [] => false
  | char :: _ => isCased char

/-- Lower case of `chars` when `before` (nearest character first) precedes them. -/
def lowerCharsAfter (before : List Char) : List Char → List Char
  | [] => []
  | char :: rest =>
      let lowered :=
        if char = 'Σ' then
          if meetsCased before && !meetsCased rest then ['ς'] else ['σ']
        else lowerChar char
      lowered ++ lowerCharsAfter (char :: before) rest

def lowerChars (chars : List Char) : List Char := lowerCharsAfter [] chars

def toLowercase (text : String) : String := String.ofList (lowerChars text.toList)

def toAsciiLowercase (text : String) : String := String.ofList (text.toList.map Char.toLower)

end Latchkey.Text
