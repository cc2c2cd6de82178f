/-
Texts that differ in the case of letters A to Z alone. Trimming and lower case ask four things
of a character: whether it is blank, cased or case-ignorable, and what its own lower-case form
is. A capital and its small letter agree on all four, so that both operations come to the same
on either, although a capital sigma looks at what stands around it.
-/

import Latchkey.Proofs.Text.Trim
import Latchkey.Text.Lowercase

namespace Latchkey.Text

private theorem toLower_eq_or_capital (char : Char) :
    char.toLower = char ∨ ∃ letter : Fin 26, char = Char.ofNat (65 + letter) := by
  by_cases capital : 65 ≤ char.toNat ∧ char.toNat ≤ 90
  · right
    refine ⟨⟨char.toNat - 65, by omega⟩, ?_⟩
    have point : 65 + (char.toNat - 65) = char.toNat := by omega
    rw [point, Char.ofNat_toNat]
  · left
    unfold Char.toLower
    rw [dif_neg]
    rintro ⟨least, greatest⟩
    exact capital ⟨least, greatest⟩

/-- What takes the 26 capitals for their small letters takes no note of case among A to Z. -/
theorem map_toLower_eq {α : Type} {observe : Char → α}
    (capitals : ∀ letter : Fin 26,
      observe (Char.ofNat (65 + letter)).toLower = observe (Char.ofNat (65 + letter)))
    (char : Char) : observe char.toLower = observe char := by
  rcases toLower_eq_or_capital char with same | ⟨letter, rfl⟩
  · rw [same]
  · exact capitals letter

@[simp]
theorem isBlank_toLower (char : Char) : isBlank char.toLower = isBlank char :=
  map_toLower_eq (by decide +kernel) char

@[simp]
theorem isCased_toLower (char : Char) : isCased char.toLower = isCased char :=
  map_toLower_eq (by decide +kernel) char

@[simp]
theorem isCaseIgnorable_toLower (char : Char) :
    isCaseIgnorable char.toLower = isCaseIgnorable char :=
  map_toLower_eq (by decide +kernel) char

@[simp]
theorem lowerChar_toLower (char : Char) : lowerChar char.toLower = lowerChar char :=
  map_toLower_eq (by decide +kernel) char

@[simp]
theorem toLower_eq_sigma (char : Char) : char.toLower = 'Σ' ↔ char = 'Σ' := by
  rw [← decide_eq_decide]
  exact @map_toLower_eq Bool (fun char => decide (char = 'Σ')) (by decide +kernel) char

theorem trimChars_map_toLower (chars : List Char) :
    trimChars (chars.map Char.toLower) = (trimChars chars).map Char.toLower := by
  have blank : isBlank ∘ Char.toLower = isBlank := funext isBlank_toLower
  rw [trimChars, trimChars, List.dropWhile_map, blank, ← List.map_reverse, List.dropWhile_map,
    blank, List.map_reverse]

theorem meetsCased_map_toLower (chars : List Char) :
    meetsCased (chars.map Char.toLower) = meetsCased chars := by
  have ignorable : isCaseIgnorable ∘ Char.toLower = isCaseIgnorable :=
    funext isCaseIgnorable_toLower
  unfold meetsCased
  rw [List.dropWhile_map, ignorable]
  cases chars.dropWhile isCaseIgnorable with
  | nil => rfl
  | cons char rest => exact isCased_toLower char

theorem lowerCharsAfter_map_toLower (before chars : List Char) :
    lowerCharsAfter (before.map Char.toLower) (chars.map Char.toLower) =
      lowerCharsAfter before chars := by
  induction chars generalizing before with
  | nil => rfl
  | cons char rest ih =>
      have later := ih (char :: before)
      rw [List.map_cons] at later ⊢
      simp only [lowerCharsAfter, meetsCased_map_toLower, toLower_eq_sigma, lowerChar_toLower,
        later]

/-- Lower case of a whole text comes to the same when the letters A to Z are small before. -/
theorem lowerChars_map_toLower (chars : List Char) :
    lowerChars (chars.map Char.toLower) = lowerChars chars :=
  lowerCharsAfter_map_toLower [] chars

end Latchkey.Text
