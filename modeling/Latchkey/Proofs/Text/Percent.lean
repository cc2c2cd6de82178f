/-
Percent-encoded texts read back. A text is written without the signs that part the fields of a
form, so that a form is read field by field, and each name and value comes out as the text that
went in, whether it was written as a component of a URL or as the text of a form.
-/

import Latchkey.Proofs.Text.Cut
import Latchkey.Text.Percent

namespace Latchkey.Text.Percent

open Utf8 (encode encodeChars)

theorem decodeBytes_cons_of_ne {byte : UInt8} (plain : byte ≠ 0x25) (rest : List UInt8) :
    decodeBytes (byte :: rest) = byte :: decodeBytes rest := by
  rw [decodeBytes]
  rintro high low rest rfl rfl
  exact plain rfl

theorem decodeBytes_escape {byte high low : UInt8} (escaped : escapedByte? high low = some byte)
    (rest : List UInt8) : decodeBytes (0x25 :: high :: low :: rest) = byte :: decodeBytes rest := by
  rw [decodeBytes, escaped]

def digitsOf (byte : UInt8) : UInt8 × UInt8 :=
  (UInt8.ofNat (Hex.upper (byte.toNat / 16)).toNat, UInt8.ofNat (Hex.upper (byte.toNat % 16)).toNat)

theorem escapedByte?_digitsOf (byte : UInt8) :
    escapedByte? (digitsOf byte).1 (digitsOf byte).2 = some byte := by
  have table : ∀ number : Fin 256,
      escapedByte? (digitsOf (.ofFin number)).1 (digitsOf (.ofFin number)).2 =
        some (.ofFin number) := by
    decide +kernel
  exact table byte.toFin

/-- The bytes that mean something in a form: the percent, plus, ampersand and equals signs. -/
def formSigns : List UInt8 := [0x25, 0x2B, 0x26, 0x3D]

theorem notMem_formSigns_digitsOf (byte : UInt8) :
    (digitsOf byte).1 ∉ formSigns ∧ (digitsOf byte).2 ∉ formSigns := by
  have table : ∀ number : Fin 256, (digitsOf (.ofFin number)).1 ∉ formSigns ∧
      (digitsOf (.ofFin number)).2 ∉ formSigns := by
    decide +kernel
  exact table byte.toFin

/-- How a byte may be written: as itself, unless it is a sign of a form; as a plus sign, if it
is a space; and as an escape, whatever it is. -/
inductive Writes : UInt8 → List UInt8 → Prop where
  | itself {byte : UInt8} (plain : byte ∉ formSigns) : Writes byte [byte]
  | space : Writes 0x20 [0x2B]
  | escape (byte : UInt8) : Writes byte [0x25, (digitsOf byte).1, (digitsOf byte).2]

theorem encodeChars_escapeByte (byte : UInt8) :
    encodeChars (escapeByte byte) = [0x25, (digitsOf byte).1, (digitsOf byte).2] := by
  have table : ∀ number : Fin 256, encodeChars (escapeByte (.ofFin number)) =
      [0x25, (digitsOf (.ofFin number)).1, (digitsOf (.ofFin number)).2] := by
    decide +kernel
  exact table byte.toFin

private theorem encodeChars_unreserved {byte : UInt8} (unreserved : isUnreserved byte = true) :
    byte ∉ formSigns ∧ encodeChars [Char.ofNat byte.toNat] = [byte] := by
  have table : ∀ number : Fin 256, isUnreserved (.ofFin number) = true →
      .ofFin number ∉ formSigns ∧
        encodeChars [Char.ofNat (UInt8.ofFin number).toNat] = [.ofFin number] := by
    decide +kernel
  exact table byte.toFin unreserved

theorem writes_componentByte (byte : UInt8) : Writes byte (encodeChars (componentByte byte)) := by
  unfold componentByte
  split
  · next unreserved =>
      obtain ⟨plain, written⟩ := encodeChars_unreserved unreserved
      exact (congrArg (Writes byte) written).mpr (.itself plain)
  · rw [encodeChars_escapeByte]
    exact .escape byte

theorem writes_formByte (byte : UInt8) : Writes byte (encodeChars (formByte byte)) := by
  have table : ∀ number : Fin 256, isFormSafe (.ofFin number) = true →
      .ofFin number ∉ formSigns ∧
        encodeChars [Char.ofNat (UInt8.ofFin number).toNat] = [.ofFin number] := by
    decide +kernel
  unfold formByte
  split
  · next isSpace =>
      rw [beq_iff_eq.mp isSpace]
      exact .space
  split
  · next safe =>
      obtain ⟨plain, written⟩ := table byte.toFin safe
      exact (congrArg (Writes byte) written).mpr (.itself plain)
  · rw [encodeChars_escapeByte]
    exact .escape byte

section Writing

variable {byte sign : UInt8} {written bytes : List UInt8} {text : String}

theorem Writes.notMem (writes : Writes byte written) (parts : sign = 0x26 ∨ sign = 0x3D) :
    sign ∉ written := by
  have isSign : sign ∈ formSigns := by
    rcases parts with rfl | rfl <;> decide
  have noEscape : sign ≠ 0x25 := by
    rcases parts with rfl | rfl <;> decide
  have noPlus : sign ≠ 0x2B := by
    rcases parts with rfl | rfl <;> decide
  intro member
  cases writes with
  | itself plain => exact plain (List.mem_singleton.mp member ▸ isSign)
  | space => exact noPlus (List.mem_singleton.mp member)
  | escape =>
      have digits := notMem_formSigns_digitsOf byte
      simp only [List.mem_cons, List.not_mem_nil, or_false] at member
      rcases member with same | same | same
      · exact noEscape same
      · exact digits.1 (same ▸ isSign)
      · exact digits.2 (same ▸ isSign)

def withoutPlus (byte : UInt8) : UInt8 := if byte == 0x2B then 0x20 else byte

theorem withoutPlus_of_notMem (plain : byte ∉ formSigns) : withoutPlus byte = byte := by
  have noPlus : byte ≠ 0x2B := by
    rintro rfl
    revert plain
    decide
  exact if_neg (by simpa using noPlus)

theorem Writes.decodeBytes_append (writes : Writes byte written) (rest : List UInt8) :
    decodeBytes (written.map withoutPlus ++ rest) = byte :: decodeBytes rest := by
  cases writes with
  | itself plain =>
      have noEscape : byte ≠ 0x25 := by
        rintro rfl
        revert plain
        decide
      rw [List.map_singleton, withoutPlus_of_notMem plain, List.singleton_append,
        decodeBytes_cons_of_ne noEscape]
  | space => exact decodeBytes_cons_of_ne (by decide) rest
  | escape =>
      have digits := notMem_formSigns_digitsOf byte
      have kept : [0x25, (digitsOf byte).1, (digitsOf byte).2].map withoutPlus =
          [0x25, (digitsOf byte).1, (digitsOf byte).2] := by
        simp only [List.map_cons, List.map_nil, withoutPlus_of_notMem digits.1,
          withoutPlus_of_notMem digits.2]
        rfl
      rw [kept]
      exact decodeBytes_escape (escapedByte?_digitsOf byte) rest

/-- Whether bytes are a text, each byte of it written in one of the ways. -/
def IsWriting (text : String) (bytes : List UInt8) : Prop :=
  ∃ write : UInt8 → List UInt8, (∀ byte, Writes byte (write byte)) ∧
    bytes = (encode text).flatMap write

theorem isWriting_encodeComponent (text : String) :
    IsWriting text (encode (encodeComponent text)) := by
  refine ⟨_, writes_componentByte, ?_⟩
  rw [encodeComponent, encode, String.toList_ofList]
  exact List.flatMap_assoc

theorem isWriting_encodeFormText (text : String) :
    IsWriting text (encodeChars (encodeFormText text)) :=
  ⟨_, writes_formByte, List.flatMap_assoc⟩

theorem IsWriting.notMem (writing : IsWriting text bytes) (parts : sign = 0x26 ∨ sign = 0x3D) :
    sign ∉ bytes := by
  obtain ⟨write, writes, rfl⟩ := writing
  intro member
  obtain ⟨byte, _among, within⟩ := List.mem_flatMap.mp member
  exact (writes byte).notMem parts within

theorem IsWriting.decodeFormText (writing : IsWriting text bytes) :
    decodeFormText bytes = text := by
  obtain ⟨write, writes, rfl⟩ := writing
  have read (bytes : List UInt8) :
      decodeBytes ((bytes.flatMap write).map withoutPlus) = bytes := by
    induction bytes with
    | nil => rw [List.flatMap_nil, List.map_nil, decodeBytes]
    | cons byte bytes ih =>
        rw [List.flatMap_cons, List.map_append, (writes byte).decodeBytes_append, ih]
  change Utf8.decodeLossy (decodeBytes (((encode text).flatMap write).map withoutPlus)) = text
  rw [read, Utf8.decodeLossy_encode]

end Writing

def IsComponentChar (char : Char) : Prop :=
  ('A' ≤ char ∧ char ≤ 'Z') ∨ ('a' ≤ char ∧ char ≤ 'z') ∨ ('0' ≤ char ∧ char ≤ '9') ∨
    char ∈ ['-', '.', '_', '~', '%']

instance (char : Char) : Decidable (IsComponentChar char) := inferInstanceAs (Decidable (_ ∨ _))

theorem isComponentChar_of_mem {text : String} {char : Char}
    (member : char ∈ (encodeComponent text).toList) : IsComponentChar char := by
  have table : ∀ number : Fin 256,
      (componentByte (.ofFin number)).all (decide <| IsComponentChar ·) = true := by
    decide +kernel
  rw [encodeComponent, String.toList_ofList] at member
  obtain ⟨byte, _among, within⟩ := List.mem_flatMap.mp member
  exact of_decide_eq_true (List.all_eq_true.mp (table byte.toFin) char within)

theorem IsComponentChar.visible {char : Char} (component : IsComponentChar char) :
    '!' ≤ char ∧ char ≤ '~' := by
  have between {low high : Char} (above : '!' ≤ low) (below : high ≤ '~')
      (within : low ≤ char ∧ char ≤ high) : '!' ≤ char ∧ char ≤ '~' :=
    ⟨Char.le_trans above within.1, Char.le_trans within.2 below⟩
  have signs : ['-', '.', '_', '~', '%'].all (fun sign => '!' ≤ sign ∧ sign ≤ '~') = true := by
    decide
  rcases component with upper | lower | digit | sign
  · exact between (by decide) (by decide) upper
  · exact between (by decide) (by decide) lower
  · exact between (by decide) (by decide) digit
  · exact of_decide_eq_true (List.all_eq_true.mp signs char sign)

private theorem decodeBytes_componentByte (byte : UInt8) (rest : List UInt8) :
    decodeBytes (encodeChars (componentByte byte) ++ rest) = byte :: decodeBytes rest := by
  unfold componentByte
  split
  · next unreserved =>
      obtain ⟨plain, written⟩ := encodeChars_unreserved unreserved
      rw [written]
      apply decodeBytes_cons_of_ne
      rintro rfl
      revert plain
      decide
  · rw [encodeChars_escapeByte]
    exact decodeBytes_escape (escapedByte?_digitsOf byte) rest

theorem decodeComponent_encodeComponent (text : String) :
    decodeComponent (encodeComponent text) = some text := by
  have read (bytes : List UInt8) :
      decodeBytes (encodeChars (bytes.flatMap componentByte)) = bytes := by
    induction bytes with
    | nil => rfl
    | cons byte bytes ih =>
        rw [List.flatMap_cons, Utf8.encodeChars_append, decodeBytes_componentByte, ih]
  rw [decodeComponent, encodeComponent, encode, String.toList_ofList, read, Utf8.decode?_encode]

theorem cutAt_of_notMem {separator : UInt8} {before : List UInt8} (absent : separator ∉ before)
    (after : List UInt8) : cutAt separator (before ++ separator :: after) = (before, after) := by
  rw [cutAt, Text.span_ne_of_notMem absent]

def IsField (field : String × String) (piece : List UInt8) : Prop :=
  ∃ name value, IsWriting field.1 name ∧ IsWriting field.2 value ∧ piece = name ++ 0x3D :: value

theorem IsField.notMem {field : String × String} {piece : List UInt8}
    (isField : IsField field piece) : 0x26 ∉ piece := by
  obtain ⟨name, value, nameIs, valueIs, rfl⟩ := isField
  rw [List.mem_append, List.mem_cons]
  rintro (inName | same | inValue)
  · exact nameIs.notMem (Or.inl rfl) inName
  · revert same
    decide
  · exact valueIs.notMem (Or.inl rfl) inValue

theorem decodeForm_intercalate {fields : List (String × String)}
    {piece : String × String → List UInt8}
    (areFields : ∀ field ∈ fields, IsField field (piece field)) :
    decodeForm ([0x26].intercalate (fields.map piece)) = fields := by
  cases fields with
  | nil => rfl
  | cons field fields =>
      have noMark : ∀ bytes ∈ (field :: fields).map piece, 0x26 ∉ bytes := by
        intro bytes member
        obtain ⟨own, among, rfl⟩ := List.mem_map.mp member
        exact (areFields own among).notMem
      have nonempty : ∀ bytes ∈ (field :: fields).map piece, (!bytes.isEmpty) = true := by
        intro bytes member
        obtain ⟨own, among, rfl⟩ := List.mem_map.mp member
        obtain ⟨name, value, _nameIs, _valueIs, whole⟩ := areFields own among
        simp [whole]
      rw [decodeForm, List.splitOn_intercalate _ noMark (List.cons_ne_nil _ _),
        List.filter_eq_self.mpr nonempty, List.map_map, List.map_congr_left (g := id), List.map_id]
      intro own among
      obtain ⟨name, value, nameIs, valueIs, whole⟩ := areFields own among
      have cut := cutAt_of_notMem (nameIs.notMem (Or.inr rfl)) value
      simp only [Function.comp_apply, whole, cut, nameIs.decodeFormText, valueIs.decodeFormText,
        id_eq]

theorem encode_intercalate (texts : List String) :
    encode ("&".intercalate texts) = [0x26].intercalate (texts.map encode) := by
  rw [encode, String.toList_intercalate]
  induction texts with
  | nil => rfl
  | cons text texts ih =>
      cases texts with
      | nil => simp [encode, List.intercalate_singleton]
      | cons next texts =>
          have sign : encodeChars "&".toList = [0x26] := by decide
          simp only [List.map_cons] at ih ⊢
          rw [List.intercalate_cons_cons, List.intercalate_cons_cons, Utf8.encodeChars_append,
            Utf8.encodeChars_append, ih, sign]
          rfl

/-- A query reads back field by field, if nothing in the names has to be escaped. -/
theorem decodeForm_query {fields : List (String × String)}
    (plain : ∀ field ∈ fields, encodeComponent field.1 = field.1) :
    decodeForm (encode ("&".intercalate
      (fields.map fun field => field.1 ++ "=" ++ encodeComponent field.2))) = fields := by
  rw [encode_intercalate, List.map_map]
  refine decodeForm_intercalate fun field among => ?_
  have sign : encode "=" = [0x3D] := by decide
  have name := isWriting_encodeComponent field.1
  rw [plain field among] at name
  refine ⟨_, _, name, isWriting_encodeComponent field.2, ?_⟩
  simp only [Function.comp_apply, Utf8.encode_append, sign, List.append_assoc,
    List.singleton_append]

theorem decodeForm_encodeForm (fields : List (String × String)) :
    decodeForm (encode (encodeForm fields)) = fields := by
  rw [encodeForm, encode_intercalate, List.map_map]
  refine decodeForm_intercalate fun field _among => ?_
  have sign : String.utf8EncodeChar '=' = [0x3D] := by decide
  refine ⟨_, _, isWriting_encodeFormText field.1, isWriting_encodeFormText field.2, ?_⟩
  simp only [Function.comp_apply, encode, String.toList_ofList, Utf8.encodeChars_append,
    Utf8.encodeChars_cons, sign, List.singleton_append]

end Latchkey.Text.Percent
