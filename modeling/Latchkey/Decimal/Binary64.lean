/-
Magnitudes of 64-bit binary floating point numbers, exactly: a significand below
2^53 times a power of two. Every operation is the exact one on fractions followed
by a single rounding to the nearest such number, ties to the even significand.
A decimal is read the way the token and request formats do it: the digits that fit
into 64 bits are rounded first, and then scaled by a rounded power of ten.
-/

namespace Latchkey.Decimal

structure Binary64 where
  significand : Nat
  exponent : Int
  deriving DecidableEq, Repr

namespace Binary64

def zero : Binary64 := ⟨0, 0⟩

def isZero (number : Binary64) : Bool := number.significand == 0

def minExponent : Int := -1074
def maxExponent : Int := 971
def significandBound : Nat := 9007199254740992

def fraction (number : Binary64) : Nat × Nat :=
  if 0 ≤ number.exponent then (number.significand * Nat.pow 2 number.exponent.toNat, 1)
  else (number.significand, Nat.pow 2 (-number.exponent).toNat)

/-- A quotient rounded to the nearest whole number, a half to the even one. -/
def roundQuotient (numerator denominator : Nat) : Nat :=
  let quotient := numerator / denominator
  let twice := 2 * (numerator % denominator)
  if twice < denominator then quotient
  else if denominator < twice then quotient + 1
  else quotient + quotient % 2

def scaled (numerator denominator : Nat) (exponent : Int) : Nat × Nat :=
  if 0 ≤ exponent then (numerator, denominator * Nat.pow 2 exponent.toNat)
  else (numerator * Nat.pow 2 (-exponent).toNat, denominator)

/-- The nearest number with the given exponent or, where rounding carries into one
more digit, the next. -/
def roundAt (numerator denominator : Nat) (exponent : Int) : Binary64 :=
  let (top, bottom) := scaled numerator denominator exponent
  let significand := roundQuotient top bottom
  if significand = significandBound then ⟨significand / 2, exponent + 1⟩
  else ⟨significand, exponent⟩

/-- The exponent that leaves a full significand, or the least one. -/
def exponentFor (numerator denominator : Nat) : Int :=
  let estimate : Int := (Nat.log2 numerator : Int) - Nat.log2 denominator - 52
  let (top, bottom) := scaled numerator denominator estimate
  let exponent := if top / bottom < significandBound / 2 then estimate - 1 else estimate
  if exponent < minExponent then minExponent else exponent

/-- The nearest number to a fraction; none where that lies past the greatest. -/
def ofFraction? (numerator denominator : Nat) : Option Binary64 :=
  if numerator = 0 then some zero
  else
    let rounded := roundAt numerator denominator (exponentFor numerator denominator)
    if maxExponent < rounded.exponent then none else some rounded

def mul? (left right : Binary64) : Option Binary64 :=
  let (top, bottom) := left.fraction
  let (top', bottom') := right.fraction
  ofFraction? (top * top') (bottom * bottom')

def div? (left right : Binary64) : Option Binary64 :=
  let (top, bottom) := left.fraction
  let (top', bottom') := right.fraction
  ofFraction? (top * bottom') (bottom * top')

def ofNat? (number : Nat) : Option Binary64 := ofFraction? number 1

def maxScale : Nat := 308

/-- `significand * 10 ^ exponent`, rounding the significand, then each scaling step;
none where the result has no finite value. -/
def ofDecimal? (significand : Nat) (exponent : Int) : Option Binary64 := do
  let number ← ofNat? significand
  if number.isZero then pure zero
  else if 0 ≤ exponent then
    if maxScale < exponent.toNat then none
    else mul? number (← ofNat? (Nat.pow 10 exponent.toNat))
  else
    let places := (-exponent).toNat
    if places ≤ maxScale then div? number (← ofNat? (Nat.pow 10 places))
    else if places ≤ 2 * maxScale then
      let number ← div? number (← ofNat? (Nat.pow 10 maxScale))
      if number.isZero then pure zero
      else div? number (← ofNat? (Nat.pow 10 (places - maxScale)))
    else pure zero

/-- The nearest whole number, a half away from zero. -/
def round (number : Binary64) : Nat :=
  let (top, bottom) := number.fraction
  (2 * top + bottom) / (2 * bottom)

end Binary64

end Latchkey.Decimal
