/-
Texts whose ends are trimmed. Nothing is taken from a text without blank characters, blank
characters around such a text are taken away, and what is left of any text has no blank
character at either end.
-/

import Mathlib.Data.List.DropRight
import Latchkey.Text.Blank

namespace Latchkey.Text

theorem not_isBlank_of_isAlphanum {char : Char} (alphanumeric : char.isAlphanum = true) :
    isBlank char = false := by
  unfold Char.isAlphanum Char.isAlpha Char.isUpper Char.isLower Char.isDigit at alphanumeric
  simp only [Bool.or_eq_true, Bool.and_eq_true, decide_eq_true_eq, UInt32.le_iff_toNat_le,
    ge_iff_le] at alphanumeric
  change ((65 ≤ char.toNat ∧ char.toNat ≤ 90) ∨ (97 ≤ char.toNat ∧ char.toNat ≤ 122)) ∨
    (48 ≤ char.toNat ∧ char.toNat ≤ 57) at alphanumeric
  simp [isBlank]
  omega

private theorem dropWhile_isBlank {chars : List Char}
    (solid : ∀ char ∈ chars, isBlank char = false) : chars.dropWhile isBlank = chars := by
  cases chars with
  | nil => rfl
  | cons char rest =>
      have notBlank : ¬isBlank char = true := by
        rw [solid char List.mem_cons_self]
        decide
      exact List.dropWhile_cons_of_neg notBlank

theorem trimChars_of_not_isBlank {chars : List Char}
    (solid : ∀ char ∈ chars, isBlank char = false) : trimChars chars = chars := by
  have reversed : ∀ char ∈ chars.reverse, isBlank char = false :=
    fun char member => solid char (List.mem_reverse.mp member)
  rw [trimChars, dropWhile_isBlank solid, dropWhile_isBlank reversed, List.reverse_reverse]

theorem trimChars_append_append {before after : List Char} (chars : List Char)
    (blankBefore : ∀ char ∈ before, isBlank char = true)
    (blankAfter : ∀ char ∈ after, isBlank char = true) :
    trimChars (before ++ chars ++ after) = trimChars chars := by
  have blankEnd : ∀ char ∈ after.reverse, isBlank char = true :=
    fun char member => blankAfter char (List.mem_reverse.mp member)
  rw [trimChars, trimChars, List.append_assoc, List.dropWhile_append_of_pos blankBefore,
    List.dropWhile_append]
  split
  case isTrue nothing =>
    rw [List.isEmpty_iff.mp nothing, List.dropWhile_eq_nil_iff.mpr blankAfter]
  case isFalse =>
    rw [List.reverse_append, List.dropWhile_append_of_pos blankEnd]

theorem trimChars_padded {before chars after : List Char}
    (blankBefore : ∀ char ∈ before, isBlank char = true)
    (solid : ∀ char ∈ chars, isBlank char = false)
    (blankAfter : ∀ char ∈ after, isBlank char = true) :
    trimChars (before ++ chars ++ after) = chars := by
  rw [trimChars_append_append chars blankBefore blankAfter, trimChars_of_not_isBlank solid]

private theorem trimChars_eq (chars : List Char) :
    trimChars chars = (chars.dropWhile isBlank).rdropWhile isBlank := rfl

theorem exists_trimmed (chars : List Char) :
    ∃ before after, chars = before ++ trimChars chars ++ after ∧
      (∀ char ∈ before, isBlank char = true) ∧ ∀ char ∈ after, isBlank char = true := by
  refine ⟨chars.takeWhile isBlank, ((chars.dropWhile isBlank).reverse.takeWhile isBlank).reverse,
    ?_, fun _char => List.mem_takeWhile_imp, ?_⟩
  · rw [List.append_assoc, trimChars, ← List.reverse_append, List.takeWhile_append_dropWhile,
      List.reverse_reverse, List.takeWhile_append_dropWhile]
  · intro char member
    exact List.mem_takeWhile_imp (List.mem_reverse.mp member)

/-- A text is trimmed to a word exactly if it is the word between blank characters. -/
theorem trimChars_eq_iff {chars word : List Char} (solid : ∀ char ∈ word, isBlank char = false) :
    trimChars chars = word ↔ ∃ before after, chars = before ++ word ++ after ∧
      (∀ char ∈ before, isBlank char = true) ∧ ∀ char ∈ after, isBlank char = true := by
  constructor
  · rintro rfl
    exact exists_trimmed chars
  · rintro ⟨before, after, rfl, blankBefore, blankAfter⟩
    exact trimChars_padded blankBefore solid blankAfter

theorem trimChars_append {word : List Char} (nonempty : word ≠ [])
    (solid : ∀ char ∈ word, isBlank char = false) (rest : List Char) :
    trimChars (word ++ rest) = word ++ rest.rdropWhile isBlank := by
  have front : (word ++ rest).dropWhile isBlank = word ++ rest := by
    rw [List.dropWhile_append, dropWhile_isBlank solid, if_neg (by simpa using nonempty)]
  have reversed : word.reverse.dropWhile isBlank = word.reverse :=
    dropWhile_isBlank fun char member => solid char (List.mem_reverse.mp member)
  rw [trimChars_eq, front, List.rdropWhile, List.rdropWhile, List.reverse_append,
    List.dropWhile_append, reversed]
  split
  case isTrue nothing =>
    rw [List.isEmpty_iff.mp nothing, List.reverse_reverse, List.reverse_nil, List.append_nil]
  case isFalse => rw [List.reverse_append, List.reverse_reverse]

theorem mem_of_mem_trimChars {char : Char} {chars : List Char} (member : char ∈ trimChars chars) :
    char ∈ chars := by
  rw [trimChars_eq] at member
  exact (List.dropWhile_suffix isBlank).subset ((List.rdropWhile_prefix isBlank _).subset member)

theorem trimChars_trimChars (chars : List Char) :
    trimChars (trimChars chars) = trimChars chars := by
  -- the first character that is left is the first one that is not blank
  have front : (trimChars chars).dropWhile isBlank = trimChars chars := by
    obtain ⟨behind, whole⟩ := List.rdropWhile_prefix isBlank (chars.dropWhile isBlank)
    rw [← trimChars_eq] at whole
    cases trimmed : trimChars chars with
    | nil => rfl
    | cons head rest =>
        have solid := List.head?_dropWhile_not isBlank chars
        rw [← whole, trimmed] at solid
        exact List.dropWhile_cons_of_neg (ne_true_of_eq_false solid)
  rw [trimChars_eq (trimChars chars), front, trimChars_eq]
  exact List.rdropWhile_idempotent isBlank _

theorem trim_trim (text : String) : trim (trim text) = trim text := by
  rw [trim, trim, String.toList_ofList, trimChars_trimChars]

theorem trim_of_not_isBlank {text : String} (solid : ∀ char ∈ text.toList, isBlank char = false) :
    trim text = text := by
  rw [trim, trimChars_of_not_isBlank solid, String.ofList_toList]

/-- What is left of a text stood in it as it is. -/
theorem isInfix_trim (text : String) : (trim text).toList.IsInfix text.toList := by
  obtain ⟨before, after, whole, _blankBefore, _blankAfter⟩ := exists_trimmed text.toList
  rw [trim, String.toList_ofList]
  exact ⟨before, after, whole.symm⟩

end Latchkey.Text
