/-
Lower case is reached in one step: what a character becomes has no lower-case form of its
own any more. Two runs of the mapping keep apart when one ends before the other begins or
when one has the even code points and the other the odd ones, and the images of all runs
keep apart from all runs.
-/

import Latchkey.Text.Lowercase

namespace Latchkey.Text

namespace CaseRun

def last (run : CaseRun) : Nat := run.first + (run.count - 1) * run.step

def image (run : CaseRun) : CaseRun := { run with first := (run.first + run.shift).toNat }

def isApart (left right : CaseRun) : Bool :=
  left.last.blt right.first || right.last.blt left.first
    || (right.step == 2 && (left.step == 2 || left.count == 1)
      && (left.first + right.first) % 2 == 1)

theorem contains_iff {run : CaseRun} {point : Nat} :
    run.contains point = true ↔
      run.first ≤ point ∧ point ≤ run.last ∧ (point - run.first) % run.step = 0 := by
  simp only [contains, last, Bool.and_eq_true, decide_eq_true_eq, beq_iff_eq, and_assoc]

theorem not_contains_of_isApart {left right : CaseRun} (apart : left.isApart right = true)
    {point : Nat} (inside : left.contains point = true) : right.contains point = false := by
  rw [Bool.eq_false_iff]
  intro within
  obtain ⟨leftFirst, leftLast, leftStep⟩ := contains_iff.mp inside
  obtain ⟨rightFirst, rightLast, rightStep⟩ := contains_iff.mp within
  simp only [isApart, Bool.or_eq_true, Bool.and_eq_true, Nat.blt_eq, beq_iff_eq] at apart
  rcases apart with (before | after) | ⟨⟨rightTwo, leftTwo⟩, odd⟩
  · omega
  · omega
  · rw [rightTwo] at rightStep
    rcases leftTwo with leftTwo | single
    · rw [leftTwo] at leftStep
      omega
    · rw [last, single] at leftLast
      omega

theorem contains_image {run : CaseRun} {point : Nat} (starts : 0 ≤ run.first + run.shift)
    (inside : run.contains point = true) :
    run.image.contains (point + run.shift).toNat = true := by
  obtain ⟨first, last, step⟩ := contains_iff.mp inside
  have firstOfImage : run.image.first = (run.first + run.shift).toNat := rfl
  have lastOfImage : run.image.last = (run.first + run.shift).toNat + (run.last - run.first) := by
    simp [CaseRun.last, image]
  have moved : (point + run.shift).toNat - run.image.first = point - run.first := by omega
  refine contains_iff.mpr ⟨by omega, by omega, ?_⟩
  rw [moved]
  exact step

end CaseRun

theorem caseRuns_isApart : (caseRuns.all fun run => caseRuns.all run.image.isApart) = true := by
  decide +kernel

/-- No run leads below the first code point, and none to the capital I with a dot. -/
theorem caseRuns_bounds :
    ∀ run ∈ caseRuns, 0 ≤ run.first + run.shift ∧ run.image.contains 'İ'.toNat = false := by
  decide +kernel

/-- Whether lower case leaves a character as it is in any context. -/
def IsLowered (char : Char) : Prop := char ≠ 'Σ' ∧ lowerChar char = [char]

instance (char : Char) : Decidable (IsLowered char) := inferInstanceAs (Decidable (_ ∧ _))

theorem isLowered_of_not_contains {char : Char} (notDotted : char ≠ 'İ')
    (outside : ∀ run ∈ caseRuns, run.contains char.toNat = false) : IsLowered char := by
  have none : caseRuns.find? (·.contains char.toNat) = none := by
    rw [List.find?_eq_none]
    intro run member inside
    rw [outside run member] at inside
    cases inside
  constructor
  · rintro rfl
    revert none
    decide
  · unfold lowerChar
    rw [if_neg notDotted, none]

private theorem toNat_ofNat_or_null (point : Nat) :
    (Char.ofNat point).toNat = point ∨ Char.ofNat point = '\x00' := by
  by_cases valid : point.isValidChar
  · left
    rw [Char.ofNat, dif_pos valid]
    rfl
  · right
    rw [Char.ofNat, dif_neg valid]
    rfl

theorem isLowered_ofNat {run : CaseRun} (member : run ∈ caseRuns) {char : Char}
    (inside : run.contains char.toNat = true) :
    IsLowered (Char.ofNat (char.toNat + run.shift).toNat) := by
  obtain ⟨starts, notDotted⟩ := caseRuns_bounds run member
  have moved := CaseRun.contains_image starts inside
  have outside : ∀ other ∈ caseRuns,
      other.contains (char.toNat + run.shift).toNat = false := by
    intro other otherMember
    have apart := List.all_eq_true.mp (List.all_eq_true.mp caseRuns_isApart run member) other
      otherMember
    exact CaseRun.not_contains_of_isApart apart moved
  rcases toNat_ofNat_or_null (char.toNat + run.shift).toNat with reached | null
  · apply isLowered_of_not_contains
    · intro dotted
      rw [← reached, dotted, notDotted] at moved
      cases moved
    · rw [reached]
      exact outside
  · rw [null]
    decide

theorem isLowered_of_mem_lowerChar {char lowered : Char} (notSigma : char ≠ 'Σ')
    (member : lowered ∈ lowerChar char) : IsLowered lowered := by
  unfold lowerChar at member
  by_cases dotted : char = 'İ'
  · rw [if_pos dotted] at member
    have both : IsLowered 'i' ∧ IsLowered '\u0307' := by decide
    rw [List.mem_cons, List.mem_singleton] at member
    rcases member with rfl | rfl
    · exact both.1
    · exact both.2
  · rw [if_neg dotted] at member
    cases found : caseRuns.find? (·.contains char.toNat) with
    | none =>
        rw [found, List.mem_singleton] at member
        subst member
        refine ⟨notSigma, ?_⟩
        unfold lowerChar
        rw [if_neg dotted, found]
    | some run =>
        rw [found, List.mem_singleton] at member
        subst member
        have inside : run.contains char.toNat = true := by simpa using List.find?_some found
        exact isLowered_ofNat (List.mem_of_find?_eq_some found) inside

theorem isLowered_of_mem_lowerCharsAfter {before chars : List Char} {lowered : Char}
    (member : lowered ∈ lowerCharsAfter before chars) : IsLowered lowered := by
  induction chars generalizing before with
  | nil => cases member
  | cons char rest ih =>
      rw [lowerCharsAfter, List.mem_append] at member
      rcases member with own | later
      · by_cases sigma : char = 'Σ'
        · have forms : IsLowered 'ς' ∧ IsLowered 'σ' := by decide
          rw [if_pos sigma] at own
          split at own
          · rw [List.mem_singleton.mp own]
            exact forms.1
          · rw [List.mem_singleton.mp own]
            exact forms.2
        · rw [if_neg sigma] at own
          exact isLowered_of_mem_lowerChar sigma own
      · exact ih later

theorem lowerCharsAfter_of_isLowered {chars : List Char} (before : List Char)
    (lowered : ∀ char ∈ chars, IsLowered char) : lowerCharsAfter before chars = chars := by
  induction chars generalizing before with
  | nil => rfl
  | cons char rest ih =>
      obtain ⟨⟨notSigma, own⟩, later⟩ := List.forall_mem_cons.mp lowered
      rw [lowerCharsAfter, if_neg notSigma, own, ih _ later]
      rfl

/-- Lower case changes nothing in what it made. -/
theorem toLowercase_toLowercase (text : String) :
    toLowercase (toLowercase text) = toLowercase text := by
  unfold toLowercase
  have lowered : ∀ char ∈ lowerChars text.toList, IsLowered char :=
    fun _char member => isLowered_of_mem_lowerCharsAfter member
  rw [String.toList_ofList, lowerChars, lowerCharsAfter_of_isLowered [] lowered]

end Latchkey.Text
