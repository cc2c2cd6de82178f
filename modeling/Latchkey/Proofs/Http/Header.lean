/-
Header values that hold text. What is written with visible characters, blanks and tabs is a
legal value and is read as the text that it was.
-/

import Latchkey.Http.Header

namespace Latchkey.Http

open Text.Utf8 (encode encodeChars encodeChars_of_ascii)

def IsReadableChar (char : Char) : Prop := 0x20 ≤ char.toNat ∧ char.toNat < 0x7F ∨ char = '\t'

instance (char : Char) : Decidable (IsReadableChar char) :=
  inferInstanceAs (Decidable (_ ∧ _ ∨ _))

def IsReadable (chars : List Char) : Prop := ∀ char ∈ chars, IsReadableChar char

instance (chars : List Char) : Decidable (IsReadable chars) := List.decidableBAll _ chars

variable {char : Char} {chars : List Char}

theorem isReadable_append {first second : List Char} :
    IsReadable (first ++ second) ↔ IsReadable first ∧ IsReadable second :=
  List.forall_mem_append

theorem IsReadableChar.ascii (readable : IsReadableChar char) : char.toNat < 0x80 := by
  rcases readable with ⟨_low, high⟩ | rfl
  · omega
  · decide

theorem toNat_byteOf (readable : IsReadableChar char) :
    (UInt8.ofNat char.toNat).toNat = char.toNat := by
  have ascii := readable.ascii
  exact UInt8.toNat_ofNat_of_lt' (show char.toNat < 256 by omega)

theorem encodeChars_of_readable (readable : IsReadable chars) :
    encodeChars chars = chars.map fun char => UInt8.ofNat char.toNat :=
  encodeChars_of_ascii fun char member => (readable char member).ascii

theorem textOfValue?_encodeChars (readable : IsReadable chars) :
    textOfValue? (encodeChars chars) = some chars := by
  have visible : (chars.map fun char => UInt8.ofNat char.toNat).all
      (fun byte => (0x20 ≤ byte && byte < 0x7F) || byte == 0x09) = true := by
    rw [List.all_map, List.all_eq_true]
    intro char member
    have byte := toNat_byteOf (readable char member)
    rcases readable char member with ⟨low, high⟩ | rfl
    · simp only [Function.comp_apply, Bool.or_eq_true, Bool.and_eq_true, decide_eq_true_eq,
        UInt8.le_iff_toNat_le, UInt8.lt_iff_toNat_lt, byte]
      exact Or.inl ⟨low, high⟩
    · rfl
  have back : (chars.map fun char => UInt8.ofNat char.toNat).map (fun byte => Char.ofNat byte.toNat) =
      chars := by
    rw [List.map_map, List.map_congr_left (g := id), List.map_id]
    intro char member
    simp only [Function.comp_apply, toNat_byteOf (readable char member), Char.ofNat_toNat, id_eq]
  rw [encodeChars_of_readable readable, textOfValue?, if_pos visible, back]

private theorem readable_of_visible {byte : UInt8}
    (visible : ((0x20 ≤ byte && byte < 0x7F) || byte == 0x09) = true) :
    IsReadableChar (Char.ofNat byte.toNat) ∧ UInt8.ofNat (Char.ofNat byte.toNat).toNat = byte := by
  have table : ∀ number : Fin 256,
      ((0x20 ≤ UInt8.ofFin number && UInt8.ofFin number < 0x7F) || UInt8.ofFin number == 0x09) =
        true → IsReadableChar (Char.ofNat (UInt8.ofFin number).toNat) ∧
          UInt8.ofNat (Char.ofNat (UInt8.ofFin number).toNat).toNat = .ofFin number := by
    decide +kernel
  exact table byte.toFin visible

theorem textOfValue?_eq_some {bytes : List UInt8} :
    textOfValue? bytes = some chars ↔ bytes = encodeChars chars ∧ IsReadable chars := by
  constructor
  · intro text
    unfold textOfValue? at text
    split at text
    case isFalse => cases text
    case isTrue visible =>
      cases text
      rw [List.all_eq_true] at visible
      have readable : IsReadable (bytes.map fun byte => Char.ofNat byte.toNat) := by
        intro char member
        obtain ⟨byte, within, rfl⟩ := List.mem_map.mp member
        exact (readable_of_visible (visible byte within)).1
      refine ⟨?_, readable⟩
      rw [encodeChars_of_readable readable, List.map_map, List.map_congr_left (g := id), List.map_id]
      intro byte within
      exact (readable_of_visible (visible byte within)).2
  · rintro ⟨rfl, readable⟩
    exact textOfValue?_encodeChars readable

theorem isLegalValue_of_textOfValue? {bytes : List UInt8} (text : textOfValue? bytes = some chars) :
    isLegalValue bytes = true := by
  unfold textOfValue? at text
  split at text
  · next visible =>
      rw [isLegalValue, List.all_eq_true]
      rw [List.all_eq_true] at visible
      intro byte member
      have own := visible byte member
      simp only [Bool.or_eq_true, Bool.and_eq_true, decide_eq_true_eq, bne_iff_ne] at own ⊢
      rcases own with ⟨low, high⟩ | tab
      · refine Or.inl ⟨low, ?_⟩
        rintro rfl
        revert high
        decide
      · exact Or.inr tab
  · cases text

theorem isLegalValue_encodeChars (readable : IsReadable chars) :
    isLegalValue (encodeChars chars) = true :=
  isLegalValue_of_textOfValue? (textOfValue?_encodeChars readable)

end Latchkey.Http
