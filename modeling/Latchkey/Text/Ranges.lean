/-
Sets of characters as ranges, which hold the character properties that have no shorter
rule. They can be written as texts of hexadecimal words: a word is a single code point
(`AA`), a range (`41-5A`), or every second code point of a range (`100-12E/2`); words are
separated by blanks.
-/

import Latchkey.Text.Blank
import Latchkey.Text.Hex

namespace Latchkey.Text

/-- The code points `first`, `first + step`, and so on up to `last`. -/
structure Range where
  first : Nat
  last : Nat
  step : Nat
  deriving DecidableEq, Repr

def Range.contains (range : Range) (point : Nat) : Bool :=
  range.first ≤ point && point ≤ range.last && (point - range.first) % range.step == 0

def words (chars : List Char) : List (List Char) :=
  (chars.splitOnP isBlank).filter (fun word => !word.isEmpty)

def Range.ofWord? (word : List Char) : Option Range :=
  match word.splitOn '/' with
  | [bounds] => ofBounds? bounds 1
  | [bounds, step] => (Hex.number? 0 step).bind (ofBounds? bounds)
  | _ => none
where
  ofBounds? (bounds : List Char) (step : Nat) : Option Range :=
    match bounds.splitOn '-' with
    | [point] => (Hex.number? 0 point).map fun point => ⟨point, point, step⟩
    | [first, last] => do
        let first ← Hex.number? 0 first
        let last ← Hex.number? 0 last
        pure ⟨first, last, step⟩
    | _ => none

/-- The ranges of a text; a word that is no range stands for nothing. -/
def rangesOfText (text : String) : List Range :=
  (words text.toList).filterMap Range.ofWord?

def inRanges (ranges : List Range) (char : Char) : Bool :=
  ranges.any (·.contains char.toNat)

end Latchkey.Text
