/-
Canonical order. Reordering keeps every character, and the marks of one class in their order; it
brings each run of marks into the order of their classes, and a text that is in this order stays
as it is. Two marks of different classes that stand side by side may change places before.
-/

import Mathlib.Data.List.Chain
import Latchkey.Text.Normal

namespace Latchkey.Text.Normal

def IsMark (char : Char) : Prop := combiningClass char ≠ 0

/-- No mark stands behind one of a higher class. -/
def InOrder (chars : List Char) : Prop :=
  chars.IsChain fun before after =>
    combiningClass after = 0 ∨ combiningClass before ≤ combiningClass after

instance (chars : List Char) : Decidable (InOrder chars) :=
  inferInstanceAs (Decidable (chars.IsChain fun before after =>
    combiningClass after = 0 ∨ combiningClass before ≤ combiningClass after))

variable {chars marks before after : List Char} {char first second : Char}

private theorem le_trans_class (first second third : Char) :
    decide (combiningClass first ≤ combiningClass second) →
      decide (combiningClass second ≤ combiningClass third) →
        decide (combiningClass first ≤ combiningClass third) := by
  simp only [decide_eq_true_eq]
  exact Nat.le_trans

private theorem le_total_class (first second : Char) :
    decide (combiningClass first ≤ combiningClass second) ||
      decide (combiningClass second ≤ combiningClass first) := by
  simp only [Bool.or_eq_true, decide_eq_true_eq]
  exact Nat.le_total _ _

theorem sortMarks_perm (marks : List Char) : (sortMarks marks).Perm marks :=
  List.mergeSort_perm marks _

theorem pairwise_sortMarks (marks : List Char) :
    (sortMarks marks).Pairwise (combiningClass · ≤ combiningClass ·) := by
  have sorted := List.pairwise_mergeSort le_trans_class le_total_class marks
  exact sorted.imp of_decide_eq_true

theorem sortMarks_of_pairwise (sorted : marks.Pairwise (combiningClass · ≤ combiningClass ·)) :
    sortMarks marks = marks :=
  List.mergeSort_of_pairwise (sorted.imp decide_eq_true)

theorem filter_sortMarks (marks : List Char) (order : Nat) :
    (sortMarks marks).filter (combiningClass · = order) =
      marks.filter (combiningClass · = order) := by
  have level : (marks.filter (combiningClass · = order)).Pairwise
      fun first second => decide (combiningClass first ≤ combiningClass second) := by
    apply List.pairwise_iff_forall_sublist.mpr
    intro first second within
    have isFirst := within.subset List.mem_cons_self
    have isSecond := within.subset (List.mem_cons_of_mem first List.mem_cons_self)
    simp only [List.mem_filter, decide_eq_true_eq] at isFirst isSecond ⊢
    omega
  have kept : (marks.filter (combiningClass · = order)).Sublist (sortMarks marks) :=
    List.sublist_mergeSort le_trans_class le_total_class level List.filter_sublist
  have within := kept.filter (combiningClass · = order)
  simp only [List.filter_filter, Bool.and_self] at within
  exact (within.eq_of_length ((sortMarks_perm marks).filter _).length_eq.symm).symm

private theorem head_le {mark other : Char} {others : List Char}
    (sorted : (mark :: marks).Pairwise (combiningClass · ≤ combiningClass ·))
    (same : (mark :: marks).filter (combiningClass · = combiningClass other) =
      (other :: others).filter (combiningClass · = combiningClass other)) :
    combiningClass mark ≤ combiningClass other := by
  have present : other ∈ (other :: others).filter (combiningClass · = combiningClass other) :=
    List.mem_filter.mpr ⟨List.mem_cons_self, decide_eq_true rfl⟩
  rw [← same] at present
  rcases List.mem_cons.mp (List.mem_of_mem_filter present) with rfl | later
  · exact Nat.le_refl _
  · exact List.rel_of_pairwise_cons sorted later

/-- Two sorted lists are one if they have the same marks of each class in the same order. -/
theorem eq_of_filter_eq {others : List Char}
    (sorted : marks.Pairwise (combiningClass · ≤ combiningClass ·))
    (sortedOthers : others.Pairwise (combiningClass · ≤ combiningClass ·))
    (same : ∀ order, marks.filter (combiningClass · = order) =
      others.filter (combiningClass · = order)) : marks = others := by
  induction marks generalizing others with
  | nil =>
      cases others with
      | nil => rfl
      | cons other others =>
          have absent := same (combiningClass other)
          simp at absent
  | cons mark marks ih =>
      cases others with
      | nil =>
          have absent := same (combiningClass mark)
          simp at absent
      | cons other others =>
          -- each head is in the other list too, where no lower class stands before it
          have level : combiningClass other = combiningClass mark :=
            Nat.le_antisymm (head_le sortedOthers (same _).symm) (head_le sorted (same _))
          have heads := same (combiningClass mark)
          simp only [List.filter_cons, level, decide_true, if_true, List.cons.injEq] at heads
          obtain ⟨rfl, _behind⟩ := heads
          refine congrArg (mark :: ·) (ih sorted.tail sortedOthers.tail fun order => ?_)
          have wholes := same order
          simp only [List.filter_cons] at wholes
          split at wholes
          · exact (List.cons.inj wholes).2
          · exact wholes

theorem sortMarks_swap (different : combiningClass first ≠ combiningClass second) :
    sortMarks (before ++ first :: second :: after) =
      sortMarks (before ++ second :: first :: after) := by
  apply eq_of_filter_eq (pairwise_sortMarks _) (pairwise_sortMarks _)
  intro order
  rw [filter_sortMarks, filter_sortMarks, List.filter_append, List.filter_append]
  by_cases isFirst : combiningClass first = order
  · have notSecond : combiningClass second ≠ order := by omega
    simp [isFirst, notSecond]
  · simp [List.filter_cons, isFirst]

theorem mem_reorder : char ∈ reorder marks chars ↔ char ∈ marks ++ chars := by
  induction chars generalizing marks with
  | nil => simp [reorder, (sortMarks_perm marks).mem_iff]
  | cons other chars ih =>
      rw [reorder]
      split
      · simp [(sortMarks_perm marks).mem_iff, ih]
      · rw [ih, List.append_assoc, List.singleton_append]

/-- What was read before matters only for how it is sorted with the marks behind it. -/
theorem reorder_congr {others : List Char}
    (same : ∀ behind, sortMarks (marks ++ behind) = sortMarks (others ++ behind)) :
    reorder marks chars = reorder others chars := by
  induction chars generalizing marks others with
  | nil =>
      have alone := same []
      rw [List.append_nil, List.append_nil] at alone
      rw [reorder, reorder, alone]
  | cons char chars ih =>
      have alone := same []
      rw [List.append_nil, List.append_nil] at alone
      rw [reorder, reorder, alone]
      split
      · rfl
      · apply ih
        intro behind
        rw [List.append_assoc, List.append_assoc]
        exact same ([char] ++ behind)

theorem reorder_swap (isFirst : IsMark first) (isSecond : IsMark second)
    (different : combiningClass first ≠ combiningClass second) :
    reorder marks (before ++ first :: second :: after) =
      reorder marks (before ++ second :: first :: after) := by
  induction before generalizing marks with
  | nil =>
      simp only [List.nil_append, reorder, if_neg isFirst, if_neg isSecond]
      apply reorder_congr
      intro behind
      simp only [List.append_assoc, List.cons_append, List.nil_append]
      exact sortMarks_swap different
  | cons char before ih =>
      rw [List.cons_append, List.cons_append, reorder, reorder, ih, ih]

/-- A mark may pass all marks of other classes before it. -/
theorem reorder_pass {passed : List Char} (isMark : IsMark char)
    (others : ∀ mark ∈ passed, IsMark mark ∧ combiningClass mark ≠ combiningClass char) :
    reorder marks (before ++ passed ++ char :: after) =
      reorder marks (before ++ char :: passed ++ after) := by
  induction passed generalizing before with
  | nil => rw [List.append_nil, List.append_assoc, List.singleton_append]
  | cons mark passed ih =>
      obtain ⟨⟨isOther, different⟩, rest⟩ := List.forall_mem_cons.mp others
      have later := @ih (before ++ [mark]) rest
      simp only [List.append_assoc, List.cons_append, List.nil_append] at later ⊢
      rw [later, reorder_swap isOther isMark different]

theorem inOrder_of_pairwise (sorted : marks.Pairwise (combiningClass · ≤ combiningClass ·)) :
    InOrder marks :=
  sorted.isChain.imp fun _before _after => Or.inr

theorem InOrder.pairwise (inOrder : InOrder marks) (all : ∀ mark ∈ marks, IsMark mark) :
    marks.Pairwise (combiningClass · ≤ combiningClass ·) := by
  have ascending : (marks.map combiningClass).IsChain (· ≤ ·) :=
    (List.isChain_map combiningClass).mpr
      (inOrder.imp_of_mem_tail_imp fun _before after _member memberTail related =>
        related.resolve_left (all after (List.mem_of_mem_tail memberTail)))
  exact List.pairwise_map.mp (List.isChain_iff_pairwise.mp ascending)

theorem sortMarks_of_inOrder (all : ∀ mark ∈ marks, IsMark mark) (inOrder : InOrder marks) :
    sortMarks marks = marks :=
  sortMarks_of_pairwise (inOrder.pairwise all)

theorem InOrder.without (inOrder : InOrder (before ++ char :: after)) (isMark : IsMark char) :
    InOrder (before ++ after) := by
  obtain ⟨front, back, joint⟩ := List.isChain_append.mp inOrder
  refine front.append back.tail ?_
  intro last isLast next isNext
  have risen := (joint last isLast char rfl).resolve_left isMark
  rcases back.rel_head? isNext with starter | higher
  · exact Or.inl starter
  · exact Or.inr (Nat.le_trans risen higher)

theorem reorder_of_inOrder (all : ∀ mark ∈ marks, IsMark mark)
    (inOrder : InOrder (marks ++ chars)) : reorder marks chars = marks ++ chars := by
  induction chars generalizing marks with
  | nil => rw [reorder, sortMarks_of_inOrder all inOrder.left_of_append, List.append_nil]
  | cons char chars ih =>
      rw [reorder]
      split
      case isTrue starter =>
        have rest : InOrder chars := inOrder.right_of_append.tail
        rw [sortMarks_of_inOrder all inOrder.left_of_append, ih (List.forall_mem_nil _) rest,
          List.nil_append]
      case isFalse isMark =>
        have together : InOrder (marks ++ [char] ++ chars) := by
          rw [List.append_assoc]
          exact inOrder
        rw [ih (List.forall_mem_append.mpr ⟨all, List.forall_mem_singleton.mpr isMark⟩) together,
          List.append_assoc]
        rfl

theorem InOrder.reorder_eq (inOrder : InOrder chars) : reorder [] chars = chars :=
  reorder_of_inOrder (List.forall_mem_nil _) inOrder

theorem inOrder_reorder : InOrder (reorder marks chars) := by
  induction chars generalizing marks with
  | nil => exact inOrder_of_pairwise (pairwise_sortMarks marks)
  | cons char chars ih =>
      rw [reorder]
      split
      case isTrue starter =>
        refine (inOrder_of_pairwise (pairwise_sortMarks marks)).append
          (ih.cons fun next _isNext => Or.inr (starter ▸ Nat.zero_le _)) ?_
        rintro _last _isLast _next ⟨⟩
        exact Or.inl starter
      case isFalse => exact ih

end Latchkey.Text.Normal
