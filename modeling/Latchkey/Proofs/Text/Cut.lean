/-
Texts that are cut at a separator: once, at the first one, or into all the parts between
separators.
-/

import Mathlib.Data.List.TakeDrop
import Mathlib.Data.List.TakeWhile

namespace Latchkey.Text

variable {α : Type} {separator mark item : α} {items before after : List α}

theorem mem_part_of_mem_intercalate {parts : List (List α)}
    (member : item ∈ [separator].intercalate parts) :
    item = separator ∨ ∃ part ∈ parts, item ∈ part := by
  induction parts with
  | nil => cases member
  | cons part rest ih =>
      cases rest with
      | nil =>
          rw [List.intercalate_singleton] at member
          exact Or.inr ⟨part, List.mem_cons_self, member⟩
      | cons next rest =>
          rw [List.intercalate_cons_cons, List.mem_append, List.mem_append, List.mem_singleton]
            at member
          rcases member with (own | same) | later
          · exact Or.inr ⟨part, List.mem_cons_self, own⟩
          · exact Or.inl same
          · rcases ih later with same | ⟨other, among, within⟩
            · exact Or.inl same
            · exact Or.inr ⟨other, List.mem_cons_of_mem _ among, within⟩

private theorem mem_intercalate_of_mem {parts : List (List α)} {part : List α}
    (among : part ∈ parts) (member : item ∈ part) : item ∈ [separator].intercalate parts := by
  induction parts with
  | nil => cases among
  | cons first rest ih =>
      cases rest with
      | nil =>
          rw [List.mem_singleton.mp among] at member
          exact List.intercalate_singleton ▸ member
      | cons next rest =>
          rw [List.intercalate_cons_cons, List.mem_append]
          rcases List.mem_cons.mp among with rfl | later
          · exact Or.inl (List.mem_append_left _ member)
          · exact Or.inr (ih later)

variable [BEq α] [LawfulBEq α]

theorem span_ne_of_notMem (absent : separator ∉ before) (after : List α) :
    (before ++ separator :: after).span (· != separator) = (before, separator :: after) := by
  have passed : ∀ item ∈ before, (item != separator) = true := by
    intro item member
    rw [bne_iff_ne]
    rintro rfl
    exact absent member
  rw [List.span_eq_takeWhile_dropWhile, List.takeWhile_append_of_pos passed,
    List.dropWhile_append_of_pos passed, List.takeWhile_cons_of_neg (by simp),
    List.dropWhile_cons_of_neg (by simp), List.append_nil]

theorem takeWhile_ne_of_notMem (absent : separator ∉ before) (after : List α) :
    (before ++ separator :: after).takeWhile (· != separator) = before := by
  have cut := span_ne_of_notMem absent after
  rw [List.span_eq_takeWhile_dropWhile] at cut
  exact congrArg Prod.fst cut

theorem span_ne_eq_cons (cut : items.span (· != separator) = (before, mark :: after)) :
    mark = separator ∧ separator ∉ before ∧ items = before ++ separator :: after := by
  rw [List.span_eq_takeWhile_dropWhile] at cut
  obtain ⟨beforeIs, afterIs⟩ := Prod.mk.inj cut
  have whole := List.takeWhile_append_dropWhile (p := (· != separator)) (l := items)
  rw [beforeIs, afterIs] at whole
  have first : mark = separator := by
    have stopped := List.head?_dropWhile_not (· != separator) items
    rw [afterIs] at stopped
    exact bne_eq_false_iff_eq.mp stopped
  refine ⟨first, ?_, ?_⟩
  · intro member
    rw [← beforeIs] at member
    have passed := List.mem_takeWhile_imp member
    simp at passed
  · rw [← whole, first]

theorem mem_part_of_mem (separator : α) (member : item ∈ items) :
    item = separator ∨ ∃ part ∈ items.splitOn separator, item ∈ part := by
  have whole : [separator].intercalate (items.splitOn separator) = items :=
    List.intercalate_splitOn separator
  rw [← whole] at member
  exact mem_part_of_mem_intercalate member

theorem notMem_of_mem_splitOn {part : List α} (among : part ∈ items.splitOn separator) :
    separator ∉ part := by
  induction items generalizing part with
  | nil =>
      rw [List.splitOn_nil, List.mem_singleton] at among
      rw [among]
      exact List.not_mem_nil
  | cons item items ih =>
      rw [List.splitOn_cons_eq_if_modifyHead] at among
      split at among
      case isTrue =>
        rcases List.mem_cons.mp among with rfl | later
        · exact List.not_mem_nil
        · exact ih later
      case isFalse differs =>
        have earlier : ∀ part ∈ items.splitOn separator, separator ∉ part := fun _part => ih
        obtain ⟨first, others, parts⟩ :=
          List.exists_cons_of_ne_nil (List.splitOn_ne_nil separator items)
        rw [parts, List.modifyHead_cons] at among
        rw [parts, List.forall_mem_cons] at earlier
        rcases List.mem_cons.mp among with rfl | later
        · rw [List.mem_cons, not_or]
          exact ⟨fun same => differs (beq_iff_eq.mpr same.symm), earlier.1⟩
        · exact earlier.2 part later

theorem mem_of_mem_splitOn {part : List α} (among : part ∈ items.splitOn separator)
    (member : item ∈ part) : item ∈ items := by
  have whole : [separator].intercalate (items.splitOn separator) = items :=
    List.intercalate_splitOn separator
  rw [← whole]
  exact mem_intercalate_of_mem among member

theorem splitOn_map {β : Type} [BEq β] [LawfulBEq β] {write : α → β}
    (apart : ∀ item ∈ items, write item = write separator → item = separator) :
    (items.map write).splitOn (write separator) = (items.splitOn separator).map (·.map write) := by
  induction items with
  | nil => rfl
  | cons item items ih =>
      obtain ⟨own, others⟩ := List.forall_mem_cons.mp apart
      rw [List.map_cons, List.splitOn_cons_eq_if_modifyHead, List.splitOn_cons_eq_if_modifyHead,
        ih others]
      obtain ⟨first, later, parts⟩ :=
        List.exists_cons_of_ne_nil (List.splitOn_ne_nil separator items)
      by_cases same : item = separator
      · rw [if_pos (beq_iff_eq.mpr same), if_pos (beq_iff_eq.mpr (congrArg write same))]
        rfl
      · rw [if_neg (fun equal => same (beq_iff_eq.mp equal)),
          if_neg (fun equal => same (own (beq_iff_eq.mp equal))), parts]
        rfl

end Latchkey.Text
