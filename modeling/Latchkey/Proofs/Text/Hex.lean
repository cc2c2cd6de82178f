/-
Hexadecimal digits read back. The digits that are written for a number stand for its lowest
places, and for the number itself when there are enough of them. Digits that are read are
written again in lower case.
-/

import Mathlib.Algebra.Group.Nat.Defs
import Mathlib.Data.List.Induction
import Latchkey.Text.Hex

namespace Latchkey.Text.Hex

theorem value?_lower {value : Nat} (small : value < 16) : value? (lower value) = some value := by
  have table : ∀ value : Fin 16, value? (lower value) = some value.val := by decide
  exact table ⟨value, small⟩

theorem number?_append (start : Nat) (first second : List Char) :
    number? start (first ++ second) = (number? start first).bind (number? · second) := by
  induction first generalizing start with
  | nil => rfl
  | cons digit rest ih =>
      rw [List.cons_append, number?, number?]
      cases value? digit with
      | none => rfl
      | some value => exact ih _

theorem number?_fixed (start count number : Nat) :
    number? start (fixed count number) = some (start * 16 ^ count + number % 16 ^ count) := by
  induction count generalizing number with
  | zero => simp [fixed, number?, Nat.mod_one]
  | succ count ih =>
      have last : number % 16 < 16 := Nat.mod_lt _ (by decide)
      have places : number % 16 ^ (count + 1) = number / 16 % 16 ^ count * 16 + number % 16 := by
        rw [Nat.pow_succ', Nat.mod_mul]
        omega
      rw [fixed, number?_append, ih, Option.bind_some, number?, value?_lower last, places,
        Nat.pow_succ, ← Nat.mul_assoc]
      simp [number?]
      omega

theorem number?_fixed_of_lt {count number : Nat} (small : number < 16 ^ count) :
    number? 0 (fixed count number) = some number := by
  rw [number?_fixed, Nat.mod_eq_of_lt small, Nat.zero_mul, Nat.zero_add]

def IsDigit (char : Char) : Prop :=
  ('0' ≤ char ∧ char ≤ '9') ∨ ('a' ≤ char ∧ char ≤ 'f') ∨ ('A' ≤ char ∧ char ≤ 'F')

def IsLowerDigit (char : Char) : Prop :=
  ('0' ≤ char ∧ char ≤ '9') ∨ ('a' ≤ char ∧ char ≤ 'f')

instance (char : Char) : Decidable (IsLowerDigit char) := instDecidableOr

theorem isSome_value?_iff {char : Char} : (value? char).isSome = true ↔ IsDigit char := by
  unfold value? IsDigit
  split
  case isTrue decimal => simp [decimal]
  case isFalse notDecimal =>
    split
    case isTrue lowerCase => simp [lowerCase]
    case isFalse notLower =>
      split
      case isTrue upperCase => simp [upperCase]
      case isFalse notUpper => simp [notDecimal, notLower, notUpper]

private theorem toNat_lt_of_isDigit {char : Char} (digit : IsDigit char) : char.toNat < 128 := by
  rcases digit with ⟨_, last⟩ | ⟨_, last⟩ | ⟨_, last⟩ <;>
    exact Nat.lt_of_le_of_lt (Char.le_def.mp last) (by decide)

theorem lower_value? {digit : Char} {value : Nat} (read : value? digit = some value) :
    value < 16 ∧ lower value = digit.toLower := by
  have table : ∀ point : Fin 128, ∀ value ∈ value? (Char.ofNat point),
      value < 16 ∧ lower value = (Char.ofNat point).toLower := by decide
  have ascii := toNat_lt_of_isDigit (isSome_value?_iff.mp (Option.isSome_of_eq_some read))
  have entry := table ⟨digit.toNat, ascii⟩
  rw [Char.ofNat_toNat] at entry
  exact entry value read

theorem isLowerDigit_lower {value : Nat} (small : value < 16) : IsLowerDigit (lower value) := by
  have table : ∀ value : Fin 16, IsLowerDigit (lower value) := by decide
  exact table ⟨value, small⟩

theorem isLowerDigit_of_mem_fixed {count number : Nat} {digit : Char}
    (member : digit ∈ fixed count number) : IsLowerDigit digit := by
  induction count generalizing number with
  | zero => cases member
  | succ count ih =>
      rcases List.mem_append.mp member with earlier | last
      · exact ih earlier
      · rw [List.mem_singleton.mp last]
        exact isLowerDigit_lower (Nat.mod_lt _ (by decide))

theorem isSome_number?_iff {digits : List Char} (start : Nat) :
    (number? start digits).isSome = true ↔ ∀ digit ∈ digits, IsDigit digit := by
  induction digits generalizing start with
  | nil => simp [number?]
  | cons digit rest ih =>
      rw [number?, List.forall_mem_cons, ← isSome_value?_iff]
      cases value? digit with
      | none => simp
      | some value => simpa using ih (start * 16 + value)

theorem fixed_of_number? {digits : List Char} {number : Nat}
    (read : number? 0 digits = some number) :
    number < 16 ^ digits.length ∧ fixed digits.length number = digits.map Char.toLower := by
  induction digits using List.reverseRecOn generalizing number with
  | nil =>
      cases read
      exact ⟨Nat.one_pos, rfl⟩
  | append_singleton digits digit ih =>
      rw [number?_append, Option.bind_eq_some_iff] at read
      obtain ⟨higher, readHigher, readLast⟩ := read
      rw [number?, Option.bind_eq_bind, Option.bind_eq_some_iff] at readLast
      obtain ⟨value, readDigit, whole⟩ := readLast
      cases whole
      obtain ⟨smallHigher, writtenHigher⟩ := ih readHigher
      obtain ⟨small, written⟩ := lower_value? readDigit
      have quotient : (higher * 16 + value) / 16 = higher := by omega
      have remainder : (higher * 16 + value) % 16 = value := by omega
      rw [List.length_append, List.length_singleton, List.map_append, List.map_singleton, fixed,
        quotient, remainder, writtenHigher, written]
      refine ⟨?_, rfl⟩
      rw [Nat.pow_succ]
      omega

end Latchkey.Text.Hex
