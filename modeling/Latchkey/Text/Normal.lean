/-
Normalization form NFKC: compatibility decomposition, canonical ordering of the
marks after each starter, then canonical composition.
-/

import Latchkey.Text.Normal.Decompositions
import Latchkey.Text.Normal.Compositions
import Latchkey.Text.Normal.CombiningClasses

namespace Latchkey.Text.Normal

/-- The first syllable; the others follow in the order of their parts. -/
def syllableBase : Nat := 0xAC00
def leadBase : Nat := 0x1100
def vowelBase : Nat := 0x1161
/-- One before the first trailing consonant: an offset of zero means none. -/
def tailBase : Nat := 0x11A7
def leadCount : Nat := 19
def vowelCount : Nat := 21
def tailCount : Nat := 28

def isSyllable (point : Nat) : Bool :=
  syllableBase ≤ point && point < syllableBase + leadCount * vowelCount * tailCount

def syllableParts (point : Nat) : List Char :=
  let index := point - syllableBase
  let lead := Char.ofNat (leadBase + index / (vowelCount * tailCount))
  let vowel := Char.ofNat (vowelBase + index % (vowelCount * tailCount) / tailCount)
  let tail := index % tailCount
  if tail = 0 then [lead, vowel] else [lead, vowel, Char.ofNat (tailBase + tail)]

/-- A lead and a vowel make a syllable, and so do a syllable without a tail and a tail. -/
def composeSyllable? (first second : Nat) : Option Char :=
  if leadBase ≤ first ∧ first < leadBase + leadCount
      ∧ vowelBase ≤ second ∧ second < vowelBase + vowelCount then
    some (Char.ofNat
      (syllableBase + ((first - leadBase) * vowelCount + (second - vowelBase)) * tailCount))
  else if isSyllable first ∧ (first - syllableBase) % tailCount = 0
      ∧ tailBase < second ∧ second < tailBase + tailCount then
    some (Char.ofNat (first + (second - tailBase)))
  else none

/-- What a single character is decomposed into. No character before U+00A0 is. -/
def decompose (char : Char) : List Char :=
  let point := char.toNat
  if point < 0xA0 then [char]
  else if isSyllable point then syllableParts point
  else
    match decomposition? point with
    | some parts => parts.map Char.ofNat
    | none => [char]

/-- The single character that two make up. None is made with a character before U+0300 as the
second of the two. -/
def compose? (first second : Char) : Option Char :=
  if second.toNat < 0x300 then none
  else
    match composeSyllable? first.toNat second.toNat with
    | some syllable => some syllable
    | none => (composition? first.toNat second.toNat).map Char.ofNat

def sortMarks (marks : List Char) : List Char :=
  marks.mergeSort (fun earlier later => combiningClass earlier ≤ combiningClass later)

/-- Brings the marks after each starter into canonical order. `marks` are those
read since the last starter. -/
def reorder (marks : List Char) : List Char → List Char
  | [] => sortMarks marks
  | char :: rest =>
      if combiningClass char = 0 then sortMarks marks ++ char :: reorder [] rest
      else reorder (marks ++ [char]) rest

/-- Composes each later character with the last starter where nothing between
them blocks it. `pending` holds the marks after `starter` that stay, and
`highest` the class of the last of them (zero when there is none). -/
def recompose (starter : Char) (pending : List Char) (highest : Nat) : List Char → List Char
  | [] => starter :: pending
  | char :: rest =>
      let order := combiningClass char
      let composite? :=
        if pending.isEmpty || highest < order then compose? starter char else none
      match composite? with
      | some composite => recompose composite pending highest rest
      | none =>
          if order = 0 then starter :: pending ++ recompose char [] 0 rest
          else recompose starter (pending ++ [char]) order rest

/-- Composition over a whole text: marks before the first starter are kept. -/
def recomposeAll : List Char → List Char
  | [] => []
  | char :: rest =>
      if combiningClass char = 0 then recompose char [] 0 rest else char :: recomposeAll rest

end Latchkey.Text.Normal

namespace Latchkey.Text

def nfkc (text : String) : String :=
  String.ofList (Normal.recomposeAll (Normal.reorder [] (text.toList.flatMap Normal.decompose)))

namespace Normal

/-- Whether every character comes before U+00A0, so that it neither decomposes nor composes. -/
def IsPlain (chars : List Char) : Prop := ∀ char ∈ chars, char.toNat < 0xA0

instance (chars : List Char) : Decidable (IsPlain chars) := List.decidableBAll _ chars

variable {chars : List Char}

theorem combiningClass_of_lt {char : Char} (early : char.toNat < 0xA0) :
    combiningClass char = 0 := if_pos (by omega)

theorem flatMap_decompose (whole : ∀ char ∈ chars, decompose char = [char]) :
    chars.flatMap decompose = chars := by
  induction chars with
  | nil => rfl
  | cons char chars ih =>
      obtain ⟨first, others⟩ := List.forall_mem_cons.mp whole
      rw [List.flatMap_cons, first, ih others]
      rfl

theorem flatMap_decompose_of_plain (plain : IsPlain chars) : chars.flatMap decompose = chars :=
  flatMap_decompose fun char member => if_pos (plain char member)

theorem reorder_of_plain (plain : IsPlain chars) : reorder [] chars = chars := by
  have unmarked : sortMarks [] = [] := List.mergeSort_nil
  induction chars with
  | nil => exact unmarked
  | cons char chars ih =>
      obtain ⟨early, rest⟩ := List.forall_mem_cons.mp plain
      rw [reorder, if_pos (combiningClass_of_lt early), ih rest, unmarked]
      rfl

theorem recompose_of_plain (starter : Char) (plain : IsPlain chars) :
    recompose starter [] 0 chars = starter :: chars := by
  induction chars generalizing starter with
  | nil => rfl
  | cons char chars ih =>
      obtain ⟨early, rest⟩ := List.forall_mem_cons.mp plain
      have apart : compose? starter char = none := if_pos (by omega)
      simp only [recompose, List.isEmpty_nil, Bool.true_or, if_true, apart,
        combiningClass_of_lt early, ih char rest, List.singleton_append]

theorem recomposeAll_of_plain (plain : IsPlain chars) : recomposeAll chars = chars := by
  cases chars with
  | nil => rfl
  | cons char chars =>
      obtain ⟨early, rest⟩ := List.forall_mem_cons.mp plain
      rw [recomposeAll, if_pos (combiningClass_of_lt early), recompose_of_plain char rest]

end Normal

theorem nfkc_of_plain {text : String} (plain : Normal.IsPlain text.toList) : nfkc text = text := by
  unfold nfkc
  rw [Normal.flatMap_decompose_of_plain plain, Normal.reorder_of_plain plain,
    Normal.recomposeAll_of_plain plain, String.ofList_toList]

end Latchkey.Text
