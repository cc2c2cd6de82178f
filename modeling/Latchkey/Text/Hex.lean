/-
Hexadecimal digits. A digit is read in either case and written in lower case;
percent-encoding alone writes upper case. Numbers are written most significant
digit first, either with a fixed count of digits or with as few as possible.
-/

namespace Latchkey.Text.Hex

def value? (digit : Char) : Option Nat :=
  if '0' ≤ digit ∧ digit ≤ '9' then some (digit.toNat - '0'.toNat)
  else if 'a' ≤ digit ∧ digit ≤ 'f' then some (digit.toNat - 'a'.toNat + 10)
  else if 'A' ≤ digit ∧ digit ≤ 'F' then some (digit.toNat - 'A'.toNat + 10)
  else none

def lower (value : Nat) : Char :=
  if value < 10 then Char.ofNat ('0'.toNat + value) else Char.ofNat ('a'.toNat + (value - 10))

def upper (value : Nat) : Char :=
  if value < 10 then Char.ofNat ('0'.toNat + value) else Char.ofNat ('A'.toNat + (value - 10))

/-- Exactly `count` lower-case digits, the lowest ones of `number`. -/
def fixed : (count number : Nat) → List Char
  | 0, _ => []
  | count + 1, number => fixed count (number / 16) ++ [lower (number % 16)]

@[simp] theorem length_fixed (count number : Nat) : (fixed count number).length = count := by
  induction count generalizing number with
  | zero => rfl
  | succ count ih => simp [fixed, ih]

def shortest (number : Nat) : List Char :=
  if number < 16 then [lower number]
  else shortest (number / 16) ++ [lower (number % 16)]
termination_by number

/-- Reads every character as a digit, continuing the number `start`. -/
def number? (start : Nat) : List Char → Option Nat
  | [] => some start
  | digit :: rest => do
      let value ← value? digit
      number? (start * 16 + value) rest

end Latchkey.Text.Hex
