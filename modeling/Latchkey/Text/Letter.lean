/-
Letters and numbers of any script, as the password policy counts them.
-/

import Latchkey.Text.LetterRanges

namespace Latchkey.Text

def isUppercase (char : Char) : Bool := inRanges uppercaseRanges char

def isLowercase (char : Char) : Bool := inRanges lowercaseRanges char

def isAlphabetic (char : Char) : Bool := inRanges alphabeticRanges char

def isNumeric (char : Char) : Bool := inRanges numericRanges char

def isAlphanumeric (char : Char) : Bool := isAlphabetic char || isNumeric char

end Latchkey.Text
