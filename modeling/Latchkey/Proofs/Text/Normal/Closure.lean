/-
Texts in normal form. They are the compositions of the texts that are decomposed and in order, so
that normalization keeps them as they are; and whatever is cut out of one is one, too.
-/

import Latchkey.Proofs.Text.Normal.Composition

namespace Latchkey.Text.Normal

variable {chars rest part before : List Char} {char : Char}

/-- A text whose characters are decomposed, with the marks behind each starter in order. -/
structure IsDecomposed (chars : List Char) : Prop where
  whole : ∀ char ∈ chars, decompose char = [char]
  inOrder : InOrder chars

theorem isDecomposed_reorder : IsDecomposed (reorder [] (chars.flatMap decompose)) where
  whole := by
    intro part member
    obtain ⟨char, _listed, among⟩ := List.mem_flatMap.mp (mem_reorder.mp member)
    exact decompose_of_mem among
  inOrder := inOrder_reorder

theorem IsDecomposed.of_sublist {left : List Char} (decomposed : IsDecomposed chars)
    (within : left.Sublist chars) (inOrder : InOrder left) : IsDecomposed left :=
  ⟨fun char member => decomposed.whole char (within.subset member), inOrder⟩

theorem IsDecomposed.tail (decomposed : IsDecomposed (char :: rest)) : IsDecomposed rest :=
  decomposed.of_sublist (List.sublist_cons_self char rest) decomposed.inOrder.tail

/-- A text that is composed of one that is decomposed. -/
def IsNormal (chars : List Char) : Prop :=
  ∃ parts, IsDecomposed parts ∧ recomposeAll parts = chars

private theorem composes_recomposeAll (isStarter : combiningClass char = 0)
    (inOrder : InOrder (char :: rest)) :
    Composes char [] rest (recomposeAll (char :: rest)) := by
  rw [recomposeAll, if_pos isStarter]
  exact composes_recompose (Waits.of_inOrder inOrder.tail)

private theorem reorder_flatMap_recomposeAll (decomposed : IsDecomposed chars)
    (before : List Char) :
    reorder [] (before ++ (recomposeAll chars).flatMap decompose) =
      reorder [] (before ++ chars) := by
  induction chars generalizing before with
  | nil => rfl
  | cons char rest ih =>
      have wholeChar := decomposed.whole char List.mem_cons_self
      by_cases isStarter : combiningClass char = 0
      · have undone := (composes_recomposeAll isStarter decomposed.inOrder).undone
          (Waits.of_inOrder decomposed.inOrder.tail) decomposed.tail.whole before
        rw [undone, wholeChar, List.append_nil, List.append_assoc, List.singleton_append]
      · have later := ih decomposed.tail (before ++ [char])
        rw [recomposeAll, if_neg isStarter, List.flatMap_cons, wholeChar]
        rw [List.append_assoc, List.append_assoc] at later
        exact later

/-- What was composed is what the composition is decomposed into. -/
theorem IsDecomposed.reorder_recomposeAll (decomposed : IsDecomposed chars) :
    reorder [] ((recomposeAll chars).flatMap decompose) = chars := by
  have undone := reorder_flatMap_recomposeAll decomposed []
  rw [List.nil_append, List.nil_append] at undone
  rw [undone, decomposed.inOrder.reorder_eq]

theorem isNormal_iff :
    IsNormal chars ↔ recomposeAll (reorder [] (chars.flatMap decompose)) = chars := by
  constructor
  · rintro ⟨parts, decomposed, rfl⟩
    rw [decomposed.reorder_recomposeAll]
  · intro fixed
    exact ⟨_, isDecomposed_reorder, fixed⟩

theorem IsNormal.tail (normal : IsNormal (char :: rest)) : IsNormal rest := by
  obtain ⟨parts, decomposed, composed⟩ := normal
  cases parts with
  | nil => cases composed
  | cons first parts =>
      by_cases isStarter : combiningClass first = 0
      · have course := composes_recomposeAll isStarter decomposed.inOrder
        obtain ⟨_first, left, within, inOrder, same⟩ :=
          course.behind (Waits.of_inOrder decomposed.inOrder.tail)
        obtain ⟨rfl, rfl⟩ := List.cons.inj (same.symm.trans composed)
        exact ⟨left, decomposed.tail.of_sublist within inOrder, rfl⟩
      · rw [recomposeAll, if_neg isStarter] at composed
        exact ⟨parts, decomposed.tail, (List.cons.inj composed).2⟩

private theorem exists_thinned (inOrder : InOrder chars) (length : Nat) :
    ∃ kept, Thinned kept chars ∧ recomposeAll kept = (recomposeAll chars).take length := by
  induction chars generalizing length with
  | nil => exact ⟨[], .cut, List.take_nil.symm⟩
  | cons char rest ih =>
      cases length with
      | zero => exact ⟨[], .cut, List.take_zero.symm⟩
      | succ length =>
          by_cases isStarter : combiningClass char = 0
          · obtain ⟨kept, thinned, course⟩ :=
              (composes_recomposeAll isStarter inOrder).take length
            rw [List.take_nil] at course
            have waits : Waits [] kept := Waits.of_inOrder (thinned.inOrder inOrder.tail)
            refine ⟨char :: kept, .keep thinned, ?_⟩
            rw [course.eq_recompose waits, recomposeAll, if_pos isStarter]
            rfl
          · obtain ⟨kept, thinned, same⟩ := ih inOrder.tail length
            refine ⟨char :: kept, .keep thinned, ?_⟩
            rw [recomposeAll, recomposeAll, if_neg isStarter, if_neg isStarter, same,
              List.take_succ_cons]

theorem IsNormal.take (normal : IsNormal chars) (length : Nat) : IsNormal (chars.take length) := by
  obtain ⟨parts, decomposed, rfl⟩ := normal
  obtain ⟨kept, thinned, same⟩ := exists_thinned decomposed.inOrder length
  have inOrder : InOrder kept := thinned.inOrder decomposed.inOrder
  exact ⟨kept, decomposed.of_sublist thinned.sublist inOrder, same⟩

theorem IsNormal.of_suffix (normal : IsNormal (before ++ chars)) : IsNormal chars := by
  induction before with
  | nil => exact normal
  | cons char before ih => exact ih normal.tail

theorem IsNormal.of_part (normal : IsNormal chars) (within : part.IsInfix chars) :
    IsNormal part := by
  obtain ⟨before, after, rfl⟩ := within
  have front := normal.take (before ++ part).length
  rw [List.take_left] at front
  exact front.of_suffix

end Latchkey.Text.Normal

namespace Latchkey.Text

open Latchkey.Text.Normal

theorem nfkc_eq_iff {text : String} : nfkc text = text ↔ IsNormal text.toList := by
  rw [isNormal_iff, ← String.toList_inj, nfkc, String.toList_ofList]

/-- Where marks are in order already, nothing is sorted. -/
theorem nfkc_of_inOrder {text : String} (inOrder : InOrder (text.toList.flatMap decompose)) :
    nfkc text = String.ofList (recomposeAll (text.toList.flatMap decompose)) := by
  rw [nfkc, inOrder.reorder_eq]

/-- Normalizing twice is normalizing once. -/
theorem nfkc_nfkc (text : String) : nfkc (nfkc text) = nfkc text := by
  apply nfkc_eq_iff.mpr
  rw [nfkc, String.toList_ofList]
  exact ⟨_, isDecomposed_reorder, rfl⟩

/-- Whatever is cut out of a text in normal form is in normal form. -/
theorem nfkc_of_part {text part : String} (normal : nfkc text = text)
    (within : part.toList.IsInfix text.toList) : nfkc part = part :=
  nfkc_eq_iff.mpr ((nfkc_eq_iff.mp normal).of_part within)

end Latchkey.Text
