/-
What the tables of normalization have to do with each other. A decomposition is full: none of the
characters in it is decomposed further. And a composite is decomposed into what it was made of:
the decomposition of the first of the two, and behind it the second.
-/

import Latchkey.Text.Normal

namespace Latchkey.Text.Normal

/-- A set of numbers as the bits of one number, so that a membership is a single test. -/
def bitsOf (numbers : List Nat) : Nat :=
  numbers.foldr (fun number bits => 1 <<< number ||| bits) 0

theorem testBit_bitsOf {numbers : List Nat} {number : Nat} (member : number ∈ numbers) :
    (bitsOf numbers).testBit number = true := by
  induction numbers with
  | nil => cases member
  | cons other numbers ih =>
      change (1 <<< other ||| bitsOf numbers).testBit number = true
      rw [Nat.one_shiftLeft, Nat.testBit_or, Bool.or_eq_true]
      rcases List.mem_cons.mp member with rfl | later
      · exact Or.inl Nat.testBit_two_pow_self
      · exact Or.inr (ih later)

private theorem mem_of_lookup {α : Type} {entries : List (Nat × α)} {key : Nat} {value : α}
    (found : entries.lookup key = some value) : (key, value) ∈ entries := by
  obtain ⟨before, after, rfl, _earlier⟩ := List.lookup_eq_some_iff.mp found
  exact List.mem_append_right before List.mem_cons_self

private theorem mem_row_of_decomposition? {point : Nat} {parts : List Nat}
    (found : decomposition? point = some parts) :
    ∃ row ∈ decompositions, (point, parts) ∈ row.2 := by
  obtain ⟨entries, isRow, isEntry⟩ := Option.bind_eq_some_iff.mp found
  exact ⟨_, mem_of_lookup isRow, mem_of_lookup isEntry⟩

private theorem mem_row_of_composition? {first second composite : Nat}
    (found : composition? first second = some composite) :
    ∃ row ∈ compositions, row.1 = second ∧ (first, composite) ∈ row.2 := by
  obtain ⟨entries, isRow, isEntry⟩ := Option.bind_eq_some_iff.mp found
  exact ⟨_, mem_of_lookup isRow, rfl, mem_of_lookup isEntry⟩

theorem decompose_eq (char : Char) :
    decompose char =
      if char.toNat < 0xA0 then [char]
      else if isSyllable char.toNat then syllableParts char.toNat
      else
        match decomposition? char.toNat with
        | some parts => parts.map Char.ofNat
        | none => [char] := rfl

theorem isSyllable_iff {point : Nat} :
    isSyllable point = true ↔ 0xAC00 ≤ point ∧ point < 0xD7A4 := by
  simp only [isSyllable, Bool.and_eq_true, decide_eq_true_eq]
  rfl

theorem decompose_syllable {char : Char} (syllable : isSyllable char.toNat = true) :
    decompose char = syllableParts char.toNat := by
  obtain ⟨least, _greatest⟩ := isSyllable_iff.mp syllable
  rw [decompose_eq, if_neg (by omega), if_pos syllable]

theorem decompose_cases (char : Char) :
    decompose char = [char] ∨
      isSyllable char.toNat = true ∧ decompose char = syllableParts char.toNat ∨
      ∃ parts, decomposition? char.toNat = some parts ∧ decompose char = parts.map Char.ofNat := by
  rw [decompose_eq]
  split
  case isTrue => exact Or.inl rfl
  split
  case isTrue syllable => exact Or.inr (Or.inl ⟨syllable, rfl⟩)
  split
  case h_1 parts found => exact Or.inr (Or.inr ⟨parts, found, rfl⟩)
  case h_2 => exact Or.inl rfl

def decomposedPoints : List Nat := decompositions.flatMap fun row => row.2.map (·.1)

def isUndecomposed (point : Nat) : Bool :=
  !isSyllable point && !(bitsOf decomposedPoints).testBit point

theorem decompose_of_isUndecomposed {char : Char}
    (undecomposed : isUndecomposed char.toNat = true) : decompose char = [char] := by
  simp only [isUndecomposed, Bool.and_eq_true, Bool.not_eq_true'] at undecomposed
  obtain ⟨noSyllable, unset⟩ := undecomposed
  rcases decompose_cases char with whole | ⟨syllable, _parts⟩ | ⟨parts, found, _decomposed⟩
  · exact whole
  · rw [syllable] at noSyllable
    cases noSyllable
  · obtain ⟨row, isRow, isEntry⟩ := mem_row_of_decomposition? found
    have listed : char.toNat ∈ decomposedPoints :=
      List.mem_flatMap.mpr ⟨row, isRow, List.mem_map.mpr ⟨_, isEntry, rfl⟩⟩
    rw [testBit_bitsOf listed] at unset
    cases unset

theorem toNat_ofNat {point : Nat} (valid : point.isValidChar) :
    (Char.ofNat point).toNat = point := by
  rw [Char.ofNat, dif_pos valid]
  rfl

private theorem decompose_ofNat_syllable {point : Nat} (syllable : isSyllable point = true) :
    decompose (Char.ofNat point) = syllableParts point := by
  obtain ⟨_least, _greatest⟩ := isSyllable_iff.mp syllable
  have valid : point.isValidChar := by
    unfold Nat.isValidChar
    omega
  have same := toNat_ofNat valid
  rw [decompose_syllable (same.symm ▸ syllable), same]

theorem decompose_jamo (point : Nat) (least : 0x1100 ≤ point) (greatest : point < 0x1200) :
    decompose (Char.ofNat point) = [Char.ofNat point] := by
  have same : (Char.ofNat point).toNat = point := toNat_ofNat (Or.inl (by omega))
  rcases decompose_cases (Char.ofNat point) with whole | ⟨syllable, _parts⟩ | ⟨_parts, found, _⟩
  · exact whole
  · rw [same, isSyllable_iff] at syllable
    omega
  · have noRow : decompositions.lookup 0x11 = none := by decide +kernel
    have inRow : point / 256 = 0x11 := by omega
    rw [same, decomposition?, inRow, noRow] at found
    cases found

theorem syllableParts_eq (point : Nat) :
    syllableParts point =
      if (point - 0xAC00) % 28 = 0 then
        [Char.ofNat (0x1100 + (point - 0xAC00) / 588),
          Char.ofNat (0x1161 + (point - 0xAC00) % 588 / 28)]
      else
        [Char.ofNat (0x1100 + (point - 0xAC00) / 588),
          Char.ofNat (0x1161 + (point - 0xAC00) % 588 / 28),
          Char.ofNat (0x11A7 + (point - 0xAC00) % 28)] := rfl

theorem decompose_of_mem_syllableParts {point : Nat} (syllable : isSyllable point = true) :
    ∀ part ∈ syllableParts point, decompose part = [part] := by
  obtain ⟨least, greatest⟩ := isSyllable_iff.mp syllable
  have lead := decompose_jamo (0x1100 + (point - 0xAC00) / 588) (by omega) (by omega)
  have vowel := decompose_jamo (0x1161 + (point - 0xAC00) % 588 / 28) (by omega) (by omega)
  have tail := decompose_jamo (0x11A7 + (point - 0xAC00) % 28) (by omega) (by omega)
  rw [syllableParts_eq]
  split
  · rw [List.forall_mem_cons, List.forall_mem_singleton]
    exact ⟨lead, vowel⟩
  · rw [List.forall_mem_cons, List.forall_mem_cons, List.forall_mem_singleton]
    exact ⟨lead, vowel, tail⟩

theorem composeSyllable?_eq (first second : Nat) :
    composeSyllable? first second =
      if 0x1100 ≤ first ∧ first < 0x1113 ∧ 0x1161 ≤ second ∧ second < 0x1176 then
        some (Char.ofNat (0xAC00 + ((first - 0x1100) * 21 + (second - 0x1161)) * 28))
      else if isSyllable first ∧ (first - 0xAC00) % 28 = 0 ∧ 0x11A7 < second ∧ second < 0x11C3 then
        some (Char.ofNat (first + (second - 0x11A7)))
      else none := rfl

private theorem decompose_pair (lead vowel : Nat) (isLead : lead < 19) (isVowel : vowel < 21) :
    decompose (Char.ofNat (0xAC00 + (lead * 21 + vowel) * 28)) =
      [Char.ofNat (0x1100 + lead), Char.ofNat (0x1161 + vowel)] := by
  have tailless : (0xAC00 + (lead * 21 + vowel) * 28 - 0xAC00) % 28 = 0 := by omega
  have leadPart : (0xAC00 + (lead * 21 + vowel) * 28 - 0xAC00) / 588 = lead := by omega
  have vowelPart : (0xAC00 + (lead * 21 + vowel) * 28 - 0xAC00) % 588 / 28 = vowel := by omega
  have syllable : isSyllable (0xAC00 + (lead * 21 + vowel) * 28) = true :=
    isSyllable_iff.mpr (by omega)
  rw [decompose_ofNat_syllable syllable, syllableParts_eq, if_pos tailless, leadPart, vowelPart]

private theorem decompose_tailed {point : Nat} (tail : Nat)
    (syllable : isSyllable point = true) (tailless : (point - 0xAC00) % 28 = 0) (least : tail ≠ 0) (greatest : tail < 28) :
    decompose (Char.ofNat (point + tail)) =
      syllableParts point ++ [Char.ofNat (0x11A7 + tail)] := by
  obtain ⟨first, _last⟩ := isSyllable_iff.mp syllable
  have longer : isSyllable (point + tail) = true := isSyllable_iff.mpr (by omega)
  have index : point + tail - 0xAC00 = point - 0xAC00 + tail := Nat.sub_add_comm first
  rw [decompose_ofNat_syllable longer, syllableParts_eq, syllableParts_eq, if_pos tailless, index]
  generalize point - 0xAC00 = index at tailless
  have tailPart : (index + tail) % 28 = tail := by omega
  have leadPart : (index + tail) / 588 = index / 588 := by omega
  have vowelPart : (index + tail) % 588 / 28 = index % 588 / 28 := by omega
  rw [tailPart, leadPart, vowelPart, if_neg least]
  rfl

theorem decompose_of_composeSyllable? {first second composite : Char}
    (composed : composeSyllable? first.toNat second.toNat = some composite) :
    decompose composite = decompose first ++ [second] := by
  rw [composeSyllable?_eq] at composed
  split at composed
  case isTrue parts =>
    obtain ⟨leastLead, greatestLead, leastVowel, greatestVowel⟩ := parts
    have whole := decompose_jamo first.toNat leastLead (by omega)
    have pair := decompose_pair (first.toNat - 0x1100) (second.toNat - 0x1161) (by omega) (by omega)
    rw [Option.some.inj composed, Nat.add_sub_cancel' leastLead, Nat.add_sub_cancel' leastVowel,
      Char.ofNat_toNat, Char.ofNat_toNat] at pair
    rw [Char.ofNat_toNat] at whole
    rw [pair, whole]
    rfl
  split at composed
  case isTrue parts =>
    obtain ⟨syllable, tailless, least, greatest⟩ := parts
    have tailed := decompose_tailed (second.toNat - 0x11A7) syllable tailless (by omega) (by omega)
    rw [Option.some.inj composed, Nat.add_sub_cancel' (Nat.le_of_lt least),
      Char.ofNat_toNat] at tailed
    rw [tailed, decompose_syllable syllable]
  case isFalse => cases composed

private theorem table_isFull : (decompositions.all fun row => row.2.all fun entry =>
    entry.2.all fun part => decide part.isValidChar && isUndecomposed part) = true := by
  decide +kernel

theorem decompose_of_mem {char part : Char} (member : part ∈ decompose char) :
    decompose part = [part] := by
  rcases decompose_cases char with whole | ⟨syllable, parts⟩ | ⟨parts, found, decomposed⟩
  · rw [whole] at member
    rw [List.mem_singleton.mp member, whole]
  · rw [parts] at member
    exact decompose_of_mem_syllableParts syllable part member
  · rw [decomposed] at member
    obtain ⟨point, among, rfl⟩ := List.mem_map.mp member
    obtain ⟨row, isRow, isEntry⟩ := mem_row_of_decomposition? found
    have entries := List.all_eq_true.mp table_isFull row isRow
    have checked := List.all_eq_true.mp (List.all_eq_true.mp entries _ isEntry) point among
    obtain ⟨valid, undecomposed⟩ := Bool.and_eq_true_iff.mp checked
    apply decompose_of_isUndecomposed
    rw [toNat_ofNat (of_decide_eq_true valid)]
    exact undecomposed

private theorem table_undoes : (compositions.all fun row => row.2.all fun entry =>
    decompose (Char.ofNat entry.2) == decompose (Char.ofNat entry.1) ++ [Char.ofNat row.1])
      = true := by
  decide +kernel

theorem decompose_of_compose? {first second composite : Char}
    (composed : compose? first second = some composite) :
    decompose composite = decompose first ++ [second] := by
  unfold compose? at composed
  split at composed
  case isTrue => cases composed
  split at composed
  case h_1 syllable made =>
    cases composed
    exact decompose_of_composeSyllable? made
  case h_2 =>
    obtain ⟨point, found, rfl⟩ := Option.map_eq_some_iff.mp composed
    obtain ⟨row, isRow, isSecond, isEntry⟩ := mem_row_of_composition? found
    have entries := List.all_eq_true.mp table_undoes row isRow
    have checked := eq_of_beq (List.all_eq_true.mp entries _ isEntry)
    rw [isSecond, Char.ofNat_toNat, Char.ofNat_toNat] at checked
    exact checked

end Latchkey.Text.Normal
