/-
White space and control characters. Blank characters are those with the
`White_Space` property; control characters are those of category `Cc`. Trimming
removes blank characters from both ends and from nowhere else.
-/

namespace Latchkey.Text

/-- The `White_Space` property. -/
def isBlank (char : Char) : Bool :=
  let point := char.toNat
  (0x9 ≤ point && point ≤ 0xD) || point == 0x20 || point == 0x85 || point == 0xA0
    || point == 0x1680 || (0x2000 ≤ point && point ≤ 0x200A) || point == 0x2028
    || point == 0x2029 || point == 0x202F || point == 0x205F || point == 0x3000

def isControl (char : Char) : Bool :=
  let point := char.toNat
  point ≤ 0x1F || (0x7F ≤ point && point ≤ 0x9F)

def trimChars (chars : List Char) : List Char :=
  ((chars.dropWhile isBlank).reverse.dropWhile isBlank).reverse

def trim (text : String) : String :=
  String.ofList (trimChars text.toList)

def isBlankText (text : String) : Bool :=
  text.toList.all isBlank

end Latchkey.Text
