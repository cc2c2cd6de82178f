/-
Which JSON texts stand for a truth value, and for which: null, a truth value itself, a word
between blanks in a string, and an integer literal. Of the literals only those that fit into 64
signed bits are read, and a negative zero is not.
-/

import Latchkey.Google.LooseBool
import Latchkey.Proofs.Json.Integer
import Latchkey.Proofs.Text.Trim

namespace Latchkey.Google.LooseBool

open Json (IntegerLiteral parse)

def spellings : List (String × Bool) := [
  ("1", true), ("t", true), ("T", true), ("TRUE", true), ("true", true), ("True", true),
  ("0", false), ("f", false), ("F", false), ("FALSE", false), ("false", false), ("False", false)]

/-- Whether a text is the spelling of a truth value between blanks. -/
def Spells (text : String) (truth : Bool) : Prop :=
  ∃ before word after, text.toList = before ++ String.toList word ++ after ∧
    (∀ char ∈ before, Text.isBlank char = true) ∧ (∀ char ∈ after, Text.isBlank char = true) ∧
    (word, truth) ∈ spellings

/-- Whether a literal fits into 64 signed bits and is no negative zero. -/
def Fits (literal : IntegerLiteral) : Prop :=
  ¬(literal.negative = true ∧ literal.magnitude = 0) ∧
    -9223372036854775808 ≤ literal.value ∧ literal.value ≤ 9223372036854775807

instance (literal : IntegerLiteral) : Decidable (Fits literal) :=
  inferInstanceAs (Decidable (_ ∧ _))

def IsRead (json : List UInt8) (truth : Bool) : Prop :=
  ∃ value, parse json = .ok value ∧ ofValue value = .ok truth

inductive Stands (json : List UInt8) : Bool → Prop where
  | null (parsed : parse json = .ok .null) : Stands json false
  | bool {truth : Bool} (parsed : parse json = .ok (.bool truth)) : Stands json truth
  | text {text : String} {truth : Bool} (parsed : parse json = .ok (.text text))
      (spells : Spells text truth) : Stands json truth
  | integer {literal : IntegerLiteral} (isText : literal.IsTextOf json) (fits : Fits literal) :
      Stands json (literal.value ≠ 0)

variable {json : List UInt8} {truth : Bool} {literal : IntegerLiteral}

private theorem ofWord?_eq_some {word : String} :
    ofWord? word = some truth ↔ (word, truth) ∈ spellings := by
  have yes : (word, true) ∈ spellings ↔ word ∈ yesWords := by simp [spellings, yesWords]
  have no : (word, false) ∈ spellings ↔ word ∈ noWords := by simp [spellings, noWords]
  have apart : ∀ word ∈ yesWords, word ∉ noWords := by decide
  unfold ofWord?
  by_cases yesWord : word ∈ yesWords
  · rw [if_pos yesWord]
    cases truth with
    | true => exact iff_of_true rfl (yes.mpr yesWord)
    | false => exact iff_of_false nofun (fun noWord => apart word yesWord (no.mp noWord))
  · rw [if_neg yesWord]
    cases truth with
    | true => exact iff_of_false (by split <;> simp) (fun word => yesWord (yes.mp word))
    | false => rw [no]; split <;> simp [*]

private theorem solid_of_mem_spellings {word : String} (spelling : (word, truth) ∈ spellings) :
    ∀ char ∈ word.toList, Text.isBlank char = false := by
  have table : ∀ spelling ∈ spellings, spelling.1.toList.all (!Text.isBlank ·) = true := by decide
  intro char member
  simpa using List.all_eq_true.mp (table _ spelling) char member

theorem ofWord?_trim_eq_some {text : String} :
    ofWord? (Text.trim text) = some truth ↔ Spells text truth := by
  rw [ofWord?_eq_some]
  constructor
  · intro spelling
    obtain ⟨before, after, whole, blankBefore, blankAfter⟩ := Text.exists_trimmed text.toList
    refine ⟨before, Text.trim text, after, ?_, blankBefore, blankAfter, spelling⟩
    rw [Text.trim, String.toList_ofList]
    exact whole
  · rintro ⟨before, word, after, whole, blankBefore, blankAfter, spelling⟩
    rw [Text.trim, whole,
      Text.trimChars_padded blankBefore (solid_of_mem_spellings spelling) blankAfter,
      String.ofList_toList]
    exact spelling

private theorem signed?_eq_some {number : Json.Number} {value : Int} :
    number.signed? = some value ↔ number = .whole value ∧
      -9223372036854775808 ≤ value ∧ value ≤ 9223372036854775807 := by
  cases number with
  | whole found =>
      rw [Json.Number.signed?]
      constructor
      · intro signed
        split at signed
        · next bounds =>
            cases signed
            exact ⟨rfl, bounds⟩
        · cases signed
      · rintro ⟨⟨⟩, bounds⟩
        exact if_pos bounds
  | float negative magnitude => exact ⟨nofun, nofun⟩

private theorem ofValue_number {number : Json.Number} :
    ofValue (.number number) = .ok truth ↔
      ∃ value, number.signed? = some value ∧ truth = decide (value ≠ 0) := by
  rw [ofValue]
  cases number.signed? with
  | none => simp
  | some value =>
      have same : (value != 0) = decide (value ≠ 0) := by
        rw [Bool.eq_iff_iff, bne_iff_ne, decide_eq_true_iff]
      simp [same, eq_comm]

theorem Fits.isWhole (fits : Fits literal) : literal.IsWhole := by
  obtain ⟨negative, magnitude⟩ := literal
  obtain ⟨noZero, low, high⟩ := fits
  cases negative with
  | true =>
      change -9223372036854775808 ≤ -(magnitude : Int) at low
      have nonzero : magnitude ≠ 0 := fun zero => noZero ⟨rfl, zero⟩
      refine ⟨?_, fun _negative => ⟨nonzero, ?_⟩⟩
      · change magnitude < 18446744073709551616
        omega
      · change magnitude ≤ 9223372036854775808
        omega
  | false =>
      change (magnitude : Int) ≤ 9223372036854775807 at high
      refine ⟨?_, nofun⟩
      change magnitude < 18446744073709551616
      omega

theorem isRead_integer_iff (isText : literal.IsTextOf json) :
    IsRead json truth ↔ Fits literal ∧ truth = decide (literal.value ≠ 0) := by
  constructor
  · rintro ⟨value, parsed, converted⟩
    rw [isText.parse] at parsed
    cases valued : literal.numberText.value? with
    | none =>
        rw [valued] at parsed
        cases parsed
    | some number =>
        rw [valued] at parsed
        cases parsed
        obtain ⟨found, signed, rfl⟩ := ofValue_number.mp converted
        obtain ⟨rfl, low, high⟩ := signed?_eq_some.mp signed
        obtain ⟨isWhole, rfl⟩ := literal.value?_numberText.mp valued
        exact ⟨⟨fun ⟨negative, zero⟩ => (isWhole.2 negative).1 zero, low, high⟩, rfl⟩
  · rintro ⟨fits, rfl⟩
    have parsed : parse json = .ok (.number (.whole literal.value)) :=
      Json.parse_eq_whole.mpr ⟨literal, isText, fits.isWhole, rfl⟩
    exact ⟨_, parsed, ofValue_number.mpr ⟨_, signed?_eq_some.mpr ⟨rfl, fits.2⟩, rfl⟩⟩

theorem isRead_iff_stands : IsRead json truth ↔ Stands json truth := by
  constructor
  · rintro ⟨value, parsed, converted⟩
    cases value with
    | null =>
        cases converted
        exact .null parsed
    | bool found =>
        cases converted
        exact .bool parsed
    | text text =>
        rw [ofValue] at converted
        cases word : ofWord? (Text.trim text) with
        | none =>
            rw [word] at converted
            cases converted
        | some found =>
            rw [word] at converted
            cases converted
            exact .text parsed (ofWord?_trim_eq_some.mp word)
    | number number =>
        obtain ⟨found, signed, _same⟩ := ofValue_number.mp converted
        obtain ⟨rfl, _bounds⟩ := signed?_eq_some.mp signed
        obtain ⟨literal, isText, _isWhole, _value⟩ := Json.parse_eq_whole.mp parsed
        obtain ⟨fits, rfl⟩ := (isRead_integer_iff isText).mp ⟨_, parsed, converted⟩
        exact .integer isText fits
    | list items => cases converted
    | object fields => cases converted
  · intro stands
    cases stands with
    | null parsed => exact ⟨_, parsed, rfl⟩
    | bool parsed => exact ⟨_, parsed, rfl⟩
    | text parsed spells =>
        refine ⟨_, parsed, ?_⟩
        rw [ofValue, ofWord?_trim_eq_some.mpr spells]
    | integer isText fits => exact (isRead_integer_iff isText).mpr ⟨fits, rfl⟩

/-- The texts from which a truth value is read are those that stand for it, and no others. Of the
integer literals, of any size, these are the ones that fit. -/
theorem reads_what_stands (json : List UInt8) (truth : Bool) :
    (IsRead json truth ↔ Stands json truth) ∧
    ∀ literal : IntegerLiteral, literal.IsTextOf json →
      (IsRead json truth ↔ Fits literal ∧ truth = decide (literal.value ≠ 0)) :=
  ⟨isRead_iff_stands, fun _literal => isRead_integer_iff⟩

/-- The least whole number that is read, between blanks; and a negative zero, which is not. -/
theorem reads_what_stands_edges :
    IsRead (Text.Utf8.encode " -9223372036854775808\n") true ∧
      ¬IsRead (Text.Utf8.encode "-0") false := by
  have least : IntegerLiteral.IsTextOf ⟨true, 9223372036854775808⟩
      (Text.Utf8.encode " -9223372036854775808\n") :=
    ⟨[0x20], [0x0A], by decide, by decide, by decide +kernel⟩
  have zero : IntegerLiteral.IsTextOf ⟨true, 0⟩ (Text.Utf8.encode "-0") :=
    ⟨[], [], by decide, by decide, by decide +kernel⟩
  refine ⟨((reads_what_stands _ _).2 _ least).mpr (by decide), ?_⟩
  intro read
  have fits := (((reads_what_stands _ _).2 _ zero).mp read).1
  revert fits
  decide

/-- The least whole number beyond 64 signed bits. -/
def firstUnfit : IntegerLiteral := ⟨false, 9223372036854775808⟩

/-- Not all integer literals are read. -/
theorem not_all_integers_read :
    ¬∀ literal : IntegerLiteral, IsRead literal.bytes (literal.value ≠ 0) := by
  intro all
  have isText : firstUnfit.IsTextOf firstUnfit.bytes :=
    ⟨[], [], List.forall_mem_nil _, List.forall_mem_nil _, (List.append_nil _).symm⟩
  have fits := ((isRead_integer_iff isText).mp (all firstUnfit)).1
  revert fits
  decide

end Latchkey.Google.LooseBool
