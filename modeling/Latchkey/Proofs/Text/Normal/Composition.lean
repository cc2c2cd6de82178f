/-
Composition. The ways it goes on from a starter are the constructors of a relation, and what it
leaves in its place is said by induction on them: decomposed and brought into order, the result
is the text that was composed; behind its first character, it is a composition again; and so is
every beginning of it, of what the text is when it is cut off and some of its marks are left out.
-/

import Latchkey.Proofs.Text.Normal.Order
import Latchkey.Proofs.Text.Normal.Tables

namespace Latchkey.Text.Normal

/-- No mark in `pending` keeps a character behind them from the starter in front of them. -/
def IsFree (pending : List Char) (char : Char) : Prop :=
  ∀ mark ∈ pending, combiningClass mark < combiningClass char

private theorem isMark_of_isFree {mark char : Char} {pending : List Char}
    (free : IsFree (mark :: pending) char) : IsMark char :=
  Nat.ne_zero_of_lt (free mark List.mem_cons_self)

/-- The ways that composition goes on from a starter with the marks behind it that stay. -/
inductive Composes : Char → List Char → List Char → List Char → Prop where
  | last {starter : Char} {pending : List Char} :
      Composes starter pending [] (starter :: pending)
  | joined {starter char composite : Char} {pending rest out : List Char} :
      IsFree pending char → compose? starter char = some composite →
      Composes composite pending rest out → Composes starter pending (char :: rest) out
  | next {starter char : Char} {pending rest out : List Char} :
      (IsFree pending char → compose? starter char = none) → combiningClass char = 0 →
      Composes char [] rest out →
      Composes starter pending (char :: rest) (starter :: pending ++ out)
  | held {starter char : Char} {pending rest out : List Char} :
      (IsFree pending char → compose? starter char = none) → IsMark char →
      Composes starter (pending ++ [char]) rest out → Composes starter pending (char :: rest) out

variable {starter composite char : Char} {pending rest chars before out : List Char}

structure Waits (pending rest : List Char) : Prop where
  marks : ∀ mark ∈ pending, IsMark mark
  inOrder : InOrder (pending ++ rest)

namespace Waits

theorem sorted (waits : Waits pending rest) :
    pending.Pairwise (combiningClass · ≤ combiningClass ·) :=
  InOrder.pairwise waits.inOrder.left_of_append waits.marks

theorem of_inOrder (inOrder : InOrder rest) : Waits [] rest :=
  ⟨List.forall_mem_nil _, inOrder⟩

theorem next (waits : Waits pending (char :: rest)) : Waits [] rest :=
  of_inOrder waits.inOrder.right_of_append.tail

theorem held (waits : Waits pending (char :: rest)) (isMark : IsMark char) :
    Waits (pending ++ [char]) rest where
  marks := List.forall_mem_append.mpr ⟨waits.marks, List.forall_mem_singleton.mpr isMark⟩
  inOrder := by
    rw [List.append_assoc]
    exact waits.inOrder

theorem joined (waits : Waits pending (char :: rest)) (free : IsFree pending char) :
    Waits pending rest where
  marks := waits.marks
  inOrder := by
    cases pending with
    | nil => exact waits.inOrder.tail
    | cons mark pending => exact waits.inOrder.without (isMark_of_isFree free)

end Waits

def highestOf (pending : List Char) : Nat := (pending.getLast?.map combiningClass).getD 0

private theorem highestOf_append : highestOf (pending ++ [char]) = combiningClass char := by
  rw [highestOf, List.getLast?_concat]
  rfl

private theorem isFree_iff (sorted : pending.Pairwise (combiningClass · ≤ combiningClass ·)) :
    (pending.isEmpty || highestOf pending < combiningClass char) = true ↔
      IsFree pending char := by
  rcases pending.eq_nil_or_concat with rfl | ⟨front, last, rfl⟩
  · simp [IsFree]
  · rw [List.concat_eq_append] at sorted ⊢
    obtain ⟨_front, _last, below⟩ := List.pairwise_append.mp sorted
    have nonempty : (front ++ [last]).isEmpty = false := by simp
    rw [highestOf_append, nonempty, Bool.false_or, decide_eq_true_eq]
    constructor
    · intro lastBelow
      refine List.forall_mem_append.mpr ⟨fun mark member => ?_,
        List.forall_mem_singleton.mpr lastBelow⟩
      exact Nat.lt_of_le_of_lt (below mark member last List.mem_cons_self) lastBelow
    · intro free
      exact free last (List.mem_append_right front List.mem_cons_self)

private theorem recompose_joined (waits : Waits pending (char :: rest))
    (free : IsFree pending char) (made : compose? starter char = some composite) :
    recompose starter pending (highestOf pending) (char :: rest) =
      recompose composite pending (highestOf pending) rest := by
  simp only [recompose, if_pos ((isFree_iff waits.sorted).mpr free), made]

private theorem recompose_apart (waits : Waits pending (char :: rest))
    (apart : IsFree pending char → compose? starter char = none) :
    recompose starter pending (highestOf pending) (char :: rest) =
      if combiningClass char = 0 then starter :: pending ++ recompose char [] (highestOf []) rest
      else recompose starter (pending ++ [char]) (highestOf (pending ++ [char])) rest := by
  have blocked : (if pending.isEmpty || highestOf pending < combiningClass char
      then compose? starter char else none) = none := by
    split
    case isTrue free => exact apart ((isFree_iff waits.sorted).mp free)
    case isFalse => rfl
  rw [highestOf_append]
  simp only [recompose, blocked]
  rfl

theorem composes_recompose (waits : Waits pending rest) :
    Composes starter pending rest (recompose starter pending (highestOf pending) rest) := by
  induction rest generalizing starter pending with
  | nil => exact .last
  | cons char rest ih =>
      by_cases joins : IsFree pending char ∧ ∃ composite, compose? starter char = some composite
      · obtain ⟨free, composite, made⟩ := joins
        rw [recompose_joined waits free made]
        exact .joined free made (ih (waits.joined free))
      · have apart : IsFree pending char → compose? starter char = none := by
          intro free
          exact Option.eq_none_iff_forall_ne_some.mpr fun composite made =>
            joins ⟨free, composite, made⟩
        rw [recompose_apart waits apart]
        split
        case isTrue isStarter => exact .next apart isStarter (ih waits.next)
        case isFalse isMark => exact .held apart isMark (ih (waits.held isMark))

private theorem reorder_of_isFree (marks : ∀ mark ∈ pending, IsMark mark)
    (free : IsFree pending char) :
    reorder [] (before ++ pending ++ char :: rest) =
      reorder [] (before ++ char :: pending ++ rest) := by
  cases pending with
  | nil => rw [List.append_nil, List.append_assoc, List.singleton_append]
  | cons mark pending =>
      exact reorder_pass (isMark_of_isFree free) fun other member =>
        ⟨marks other member, Nat.ne_of_lt (free other member)⟩

theorem recomposeAll_append (marks : ∀ mark ∈ pending, IsMark mark) (rest : List Char) :
    recomposeAll (pending ++ rest) = pending ++ recomposeAll rest := by
  induction pending with
  | nil => rfl
  | cons mark pending ih =>
      obtain ⟨isMark, others⟩ := List.forall_mem_cons.mp marks
      rw [List.cons_append, recomposeAll, if_neg isMark, ih others]
      rfl

namespace Composes

/-- There is one course for each text. -/
theorem eq_recompose (course : Composes starter pending rest out) (waits : Waits pending rest) :
    out = recompose starter pending (highestOf pending) rest := by
  induction course with
  | last => rfl
  | joined free made _later ih => rw [recompose_joined waits free made, ih (waits.joined free)]
  | next apart isStarter _later ih =>
      rw [recompose_apart waits apart, if_pos isStarter, ih waits.next]
  | held apart isMark _later ih =>
      rw [recompose_apart waits apart, if_neg isMark, ih (waits.held isMark)]

/-- Decomposed, a composition is what was composed, up to the order of marks. -/
theorem undone (course : Composes starter pending rest out) (waits : Waits pending rest)
    (whole : ∀ char ∈ pending ++ rest, decompose char = [char]) (before : List Char) :
    reorder [] (before ++ out.flatMap decompose) =
      reorder [] (before ++ decompose starter ++ pending ++ rest) := by
  induction course generalizing before with
  | last =>
      rw [List.append_nil] at whole
      rw [List.flatMap_cons, flatMap_decompose whole, List.append_nil, List.append_assoc]
  | @joined starter char composite pending rest out free made _later ih =>
      have left : ∀ char ∈ pending ++ rest, decompose char = [char] := fun other member =>
        whole other (((List.sublist_cons_self char rest).append_left pending).subset member)
      -- the composite holds the character, which stood behind the marks
      rw [ih (waits.joined free) left, decompose_of_compose? made,
        reorder_of_isFree waits.marks free]
      simp only [List.append_assoc, List.cons_append, List.nil_append]
  | @next starter char pending rest out _apart _isStarter _later ih =>
      obtain ⟨wholePending, wholeRest⟩ := List.forall_mem_append.mp whole
      obtain ⟨wholeChar, left⟩ := List.forall_mem_cons.mp wholeRest
      have behind := ih waits.next left (before ++ decompose starter ++ pending)
      rw [List.flatMap_append, List.flatMap_cons, flatMap_decompose wholePending]
      rw [wholeChar] at behind
      simp only [List.append_assoc, List.cons_append, List.nil_append] at behind ⊢
      exact behind
  | @held starter char pending rest out _apart isMark _later ih =>
      rw [← List.singleton_append, ← List.append_assoc] at whole
      rw [ih (waits.held isMark) whole]
      simp only [List.append_assoc, List.cons_append, List.nil_append]

theorem behind (course : Composes starter pending rest out) (waits : Waits pending rest) :
    ∃ first left, left.Sublist (pending ++ rest) ∧ InOrder left ∧
      out = first :: recomposeAll left := by
  induction course with
  | @last starter pending =>
      refine ⟨starter, pending, List.sublist_append_left pending [], ?_, ?_⟩
      · exact waits.inOrder.left_of_append
      · have marks := recomposeAll_append waits.marks []
        rw [List.append_nil, recomposeAll, List.append_nil] at marks
        rw [marks]
  | @joined starter char composite pending rest out free _made _later ih =>
      obtain ⟨first, left, within, inOrder, rfl⟩ := ih (waits.joined free)
      exact ⟨first, left,
        within.trans ((List.sublist_cons_self char rest).append_left pending), inOrder, rfl⟩
  | @next starter char pending rest out _apart isStarter later _ih =>
      refine ⟨starter, pending ++ char :: rest, List.Sublist.refl _, waits.inOrder, ?_⟩
      rw [recomposeAll_append waits.marks, recomposeAll, if_pos isStarter,
        later.eq_recompose waits.next]
      rfl
  | @held starter char pending rest out _apart isMark _later ih =>
      obtain ⟨first, left, within, inOrder, rfl⟩ := ih (waits.held isMark)
      rw [List.append_assoc] at within
      exact ⟨first, left, within, inOrder, rfl⟩

end Composes

/-- What a text is when it is cut off and some of the marks in front of the cut are left out. -/
inductive Thinned : List Char → List Char → Prop where
  | cut {chars : List Char} : Thinned [] chars
  | keep {char : Char} {kept chars : List Char} :
      Thinned kept chars → Thinned (char :: kept) (char :: chars)
  | skip {mark : Char} {kept chars : List Char} :
      IsMark mark → Thinned kept chars → Thinned kept (mark :: chars)

namespace Thinned

variable {kept : List Char}

theorem sublist (thinned : Thinned kept chars) : kept.Sublist chars := by
  induction thinned with
  | cut => exact List.nil_sublist _
  | keep _later ih => exact ih.cons_cons _
  | skip _isMark _later ih => exact ih.cons _

theorem inOrder_append (thinned : Thinned kept chars) (before : List Char)
    (inOrder : InOrder (before ++ chars)) : InOrder (before ++ kept) := by
  induction thinned generalizing before with
  | cut =>
      rw [List.append_nil]
      exact inOrder.left_of_append
  | @keep char kept chars _later ih =>
      have together := ih (before ++ [char])
      rw [List.append_assoc, List.append_assoc] at together
      exact together inOrder
  | @skip mark kept chars isMark _later ih =>
      have together := ih (before ++ [mark])
      rw [List.append_assoc, List.append_assoc] at together
      exact (together inOrder).without isMark

theorem inOrder (thinned : Thinned kept chars) (inOrder : InOrder chars) : InOrder kept :=
  thinned.inOrder_append [] inOrder

end Thinned

/-- Every beginning of a composition is the composition of a thinned text. -/
theorem Composes.take (course : Composes starter pending rest out) (length : Nat) :
    ∃ kept, Thinned kept rest ∧
      Composes starter (pending.take length) kept (out.take (length + 1)) := by
  induction course generalizing length with
  | last => exact ⟨[], .cut, .last⟩
  | @joined starter char composite pending rest out free made _later ih =>
      obtain ⟨kept, thinned, course⟩ := ih length
      have freeOfFront : IsFree (pending.take length) char := fun mark member =>
        free mark (List.mem_of_mem_take member)
      exact ⟨char :: kept, .keep thinned, .joined freeOfFront made course⟩
  | @next starter char pending rest out apart isStarter _later ih =>
      rw [List.cons_append, List.take_succ_cons]
      rcases le_or_gt length pending.length with within | beyond
      · rw [List.take_append_of_le_length within]
        exact ⟨[], .cut, .last⟩
      · obtain ⟨more, rfl⟩ := Nat.exists_eq_add_of_lt beyond
        obtain ⟨kept, thinned, course⟩ := ih more
        rw [List.take_nil] at course
        rw [Nat.add_assoc, List.take_length_add_append, List.take_of_length_le (by omega)]
        exact ⟨char :: kept, .keep thinned, .next apart isStarter course⟩
  | @held starter char pending rest out apart isMark _later ih =>
      obtain ⟨kept, thinned, course⟩ := ih length
      rcases le_or_gt length pending.length with within | beyond
      · -- the cut is in front of the mark, which is left out
        rw [List.take_append_of_le_length within] at course
        exact ⟨kept, .skip isMark thinned, course⟩
      · have all : (pending ++ [char]).take length = pending ++ [char] :=
          List.take_of_length_le (by rw [List.length_append]; exact beyond)
        rw [all] at course
        rw [List.take_of_length_le (Nat.le_of_lt beyond)]
        exact ⟨char :: kept, .keep thinned, .held apart isMark course⟩

end Latchkey.Text.Normal
