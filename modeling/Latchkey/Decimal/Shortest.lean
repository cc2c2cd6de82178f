/-
The shortest decimal that reads back as a given binary number. For one digit, two
digits, and so on, the two decimals next to the number are tried; the first count
of digits with a decimal inside the rounding interval wins, and of two such
decimals the nearer one.
-/

import Latchkey.Decimal.Binary64

namespace Latchkey.Decimal

structure Scaled where
  digits : Nat
  exponent : Int
  deriving DecidableEq, Repr

def digitCount (number : Nat) : Nat := (Nat.toDigits 10 number).length

def leadingZeros (numerator denominator : Nat) : (limit : Nat) → Nat
  | 0 => 0
  | limit + 1 =>
      if denominator ≤ numerator * 10 then 0
      else leadingZeros (numerator * 10) denominator limit + 1

/-- The least `place` with the fraction below `10 ^ place`. -/
def decimalPlace (numerator denominator : Nat) : Int :=
  if denominator ≤ numerator then digitCount (numerator / denominator)
  else -(leadingZeros numerator denominator 400 : Int)

def shiftTen (numerator denominator : Nat) (exponent : Int) : Nat × Nat :=
  if 0 ≤ exponent then (numerator, denominator * Nat.pow 10 exponent.toNat)
  else (numerator * Nat.pow 10 (-exponent).toNat, denominator)

namespace Binary64

/-- Four times the number, and the ends of the interval of reals that round to it, in
the unit of a quarter of its last place. Below a power of two the spacing halves. -/
def quarters (number : Binary64) : Nat × Nat × Nat :=
  let middle := 4 * number.significand
  let lower :=
    if number.significand = significandBound / 2 ∧ minExponent < number.exponent then middle - 1
    else middle - 2
  (lower, middle, middle + 2)

/-- Whether `digits * 10 ^ exponent` reads back as the number: it lies between the ends
of the interval, which belong to it when the significand is even. -/
def holdsDecimal (number : Binary64) (digits : Nat) (exponent : Int) : Bool :=
  let (lower, _, upper) := number.quarters
  let (top, bottom) := shiftTen digits 1 (-exponent)
  let (unitTop, unitBottom) := (⟨1, number.exponent - 2⟩ : Binary64).fraction
  let value := top * unitBottom
  let low := lower * unitTop * bottom
  let high := upper * unitTop * bottom
  if number.significand % 2 = 0 then low ≤ value && value ≤ high
  else low < value && value < high

/-- The better of the two decimals with `count` digits next to the number. -/
def shortestWith? (number : Binary64) (place : Int) (count : Nat) : Option Scaled :=
  let exponent := place - count
  let (numerator, denominator) := number.fraction
  let (top, bottom) := shiftTen numerator denominator exponent
  let below := top / bottom
  let nearer := roundQuotient top bottom
  let further := if nearer = below then below + 1 else below
  if number.holdsDecimal nearer exponent then some ⟨nearer, exponent⟩
  else if number.holdsDecimal further exponent then some ⟨further, exponent⟩
  else none

/-- The first hit among the digit counts from `count` on; `left` counts remain. -/
def shortestFrom (number : Binary64) (place : Int) (count : Nat) : (left : Nat) → Scaled
  | 0 => ⟨number.significand, number.exponent⟩
  | left + 1 =>
      match number.shortestWith? place count with
      | some found => found
      | none => shortestFrom number place (count + 1) left

/-- The shortest decimal that reads back as a number other than zero; seventeen digits
always suffice. -/
def shortest (number : Binary64) : Scaled :=
  let (numerator, denominator) := number.fraction
  shortestFrom number (decimalPlace numerator denominator) 1 17

end Binary64

def Scaled.trimZeros (decimal : Scaled) : (limit : Nat) → Scaled
  | 0 => decimal
  | limit + 1 =>
      if decimal.digits ≠ 0 ∧ decimal.digits % 10 = 0 then
        Scaled.trimZeros ⟨decimal.digits / 10, decimal.exponent + 1⟩ limit
      else decimal

end Latchkey.Decimal
