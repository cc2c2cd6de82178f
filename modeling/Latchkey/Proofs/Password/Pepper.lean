/-
Hashes under one pepper and passwords that are tried under another. A password is followed by
the pepper with nothing between them, so that the bytes that are hashed do not tell where the
one ends: a hash accepts a password under another pepper if and only if Argon2 gives two
different inputs one tag, or what one password has at its end stands at the beginning of the
other pepper.
-/

import Latchkey.Proofs.Password.Hashing

namespace Latchkey

namespace Text.Utf8

theorem exists_of_encodeChars_eq_append {chars front : List Char} {rest : List UInt8}
    (same : encodeChars chars = encodeChars front ++ rest) :
    ∃ back, chars = front ++ back ∧ rest = encodeChars back := by
  induction front generalizing chars with
  | nil => exact ⟨chars, rfl, same.symm⟩
  | cons char front ih =>
      obtain ⟨lead, tail, written, read⟩ := first_utf8EncodeChar char
      cases chars with
      | nil =>
          rw [encodeChars_cons, written] at same
          cases same
      | cons other chars =>
          obtain ⟨otherLead, otherTail, otherWritten, otherRead⟩ := first_utf8EncodeChar other
          rw [encodeChars_cons, encodeChars_cons, written, otherWritten, List.append_assoc,
            List.cons_append, List.cons_append] at same
          obtain ⟨rfl, tails⟩ := List.cons.inj same
          have twice := (otherRead (encodeChars chars)).symm.trans (tails ▸ read _)
          obtain ⟨first, later⟩ := Prod.mk.inj twice
          obtain ⟨back, rfl, isText⟩ := ih later
          exact ⟨back, by rw [Option.some.inj first, List.cons_append], isText⟩

theorem exists_of_encode_eq_append {text front : String} {rest : List UInt8}
    (same : encode text = encode front ++ rest) :
    ∃ back : String, text = front ++ back ∧ rest = encode back := by
  obtain ⟨back, chars, isText⟩ := exists_of_encodeChars_eq_append same
  refine ⟨String.ofList back, ?_, by rw [isText, encode, String.toList_ofList]⟩
  rw [← String.ofList_toList (s := text), chars, String.ofList_append, String.ofList_toList]

end Text.Utf8

namespace Password

open Digest.Argon2 (tag)
open Text.Utf8 (encode)

variable {password other : Password} {pepper otherPepper : Option (List UInt8)}
  {salt input otherInput : List UInt8}

/-- Whether two passwords are the same but for an end that only the first one has and that the
pepper of the second one has at its beginning. -/
def Spills (password : Password) (pepper : Option (List UInt8)) (other : Password)
    (otherPepper : Option (List UInt8)) : Prop :=
  ∃ moved : String, moved ≠ "" ∧ password.text = other.text ++ moved ∧
    otherPepper.getD [] = encode moved ++ pepper.getD []

theorem Spills.isSuffix (spills : Spills password pepper other otherPepper) :
    pepper.getD [] <:+ otherPepper.getD [] := by
  obtain ⟨moved, _nonempty, _text, begins⟩ := spills
  exact ⟨encode moved, begins.symm⟩

theorem Spills.peppered_eq (spills : Spills password pepper other otherPepper) :
    password.peppered pepper = other.peppered otherPepper := by
  obtain ⟨moved, _nonempty, text, begins⟩ := spills
  rw [peppered, peppered, text, begins, Text.Utf8.encode_append, List.append_assoc]

private theorem spills_of_append {moved : List UInt8}
    (different : pepper.getD [] ≠ otherPepper.getD [])
    (goesOn : encode password.text = encode other.text ++ moved)
    (begins : otherPepper.getD [] = moved ++ pepper.getD []) :
    Spills password pepper other otherPepper := by
  obtain ⟨back, text, rfl⟩ := Text.Utf8.exists_of_encode_eq_append goesOn
  refine ⟨back, ?_, text, begins⟩
  rintro rfl
  exact different begins.symm

/-- Under different peppers, one input stands for two passwords only if one of them spills. -/
theorem peppered_eq_iff (different : pepper.getD [] ≠ otherPepper.getD []) :
    password.peppered pepper = other.peppered otherPepper ↔
      Spills password pepper other otherPepper ∨ Spills other otherPepper password pepper := by
  constructor
  · intro same
    rcases List.append_eq_append_iff.mp same with ⟨moved, goesOn, begins⟩ | ⟨moved, goesOn, begins⟩
    · exact Or.inr (spills_of_append different.symm goesOn begins)
    · exact Or.inl (spills_of_append different goesOn begins)
  · rintro (spills | spills)
    · exact spills.peppered_eq
    · exact spills.peppered_eq.symm

/-- Whether Argon2 gives two different inputs the same tag under the costs of new hashes. -/
structure Collide (salt input otherInput : List UInt8) : Prop where
  different : input ≠ otherInput
  sameTag : tag costs input salt [] = tag costs otherInput salt []

/-- A hash that was made under one pepper accepts a password under another exactly if their
inputs collide or if one of the two passwords spills into the pepper of the other. So nothing
but a collision is accepted where neither pepper ends with the other one.

Argon2 takes no salt of less than eight bytes, and no value holds one of more than 48. -/
theorem verify_underOtherPepper_iff (saltLong : 8 ≤ salt.length) (saltShort : salt.length ≤ 48)
    (password other : Password) (different : pepper.getD [] ≠ otherPepper.getD []) :
    (verify (password.hash pepper salt) other otherPepper = true ↔
        Collide salt (password.peppered pepper) (other.peppered otherPepper) ∨
          Spills password pepper other otherPepper ∨
            Spills other otherPepper password pepper) ∧
      (¬pepper.getD [] <:+ otherPepper.getD [] → ¬otherPepper.getD [] <:+ pepper.getD [] →
        verify (password.hash pepper salt) other otherPepper = true →
          Collide salt (password.peppered pepper) (other.peppered otherPepper)) := by
  have accepted : verify (password.hash pepper salt) other otherPepper = true ↔
      Collide salt (password.peppered pepper) (other.peppered otherPepper) ∨
        Spills password pepper other otherPepper ∨ Spills other otherPepper password pepper := by
    rw [verify_hash_iff saltLong saltShort, ← peppered_eq_iff different]
    constructor
    · intro sameTag
      by_cases same : password.peppered pepper = other.peppered otherPepper
      · exact Or.inr same
      · exact Or.inl ⟨same, sameTag.symm⟩
    · rintro (collide | same)
      · exact collide.sameTag.symm
      · rw [same]
  refine ⟨accepted, fun noEnd noOtherEnd holds => ?_⟩
  rcases accepted.mp holds with collide | spills | spills
  · exact collide
  · exact absurd spills.isSuffix noEnd
  · exact absurd spills.isSuffix noOtherEnd

theorem spills_horse :
    Spills (typed "Correct-Horse-99") (some (encode "x")) (typed "Correct-Horse-9")
      (some (encode "9x")) := by
  refine ⟨"9", by decide, ?_, by decide⟩
  rw [typed, typed, Text.nfkc_of_plain (by decide), Text.nfkc_of_plain (by decide)]
  decide

theorem verify_underOtherPepper_horse :
    (some (encode "x")).getD [] ≠ (some (encode "9x")).getD [] ∧
      verify ((typed "Correct-Horse-99").hash (some (encode "x")) (List.replicate saltLength 0))
        (typed "Correct-Horse-9") (some (encode "9x")) = true := by
  have different : (some (encode "x")).getD [] ≠ (some (encode "9x")).getD [] := by decide
  have long : 8 ≤ (List.replicate saltLength (0 : UInt8)).length := by decide
  have short : (List.replicate saltLength (0 : UInt8)).length ≤ 48 := by decide
  have accepted := (verify_underOtherPepper_iff long short (typed "Correct-Horse-99")
    (typed "Correct-Horse-9") different).1
  exact ⟨different, accepted.mpr (Or.inr (Or.inl spills_horse))⟩

/-- The pepper need not be the one under which a hash was made, though no inputs collide. -/
theorem not_pepper_mustMatch :
    ¬∀ (raw otherRaw : String) (pepper otherPepper : Option (List UInt8)) (salt : List UInt8),
      8 ≤ salt.length → salt.length ≤ 48 → pepper.getD [] ≠ otherPepper.getD [] →
        verify ((typed raw).hash pepper salt) (typed otherRaw) otherPepper = true →
          Collide salt ((typed raw).peppered pepper) ((typed otherRaw).peppered otherPepper) := by
  intro mustMatch
  have same := spills_horse.peppered_eq
  have accepted : verify ((typed "Correct-Horse-99").hash (some (encode "x"))
      (List.replicate saltLength 0)) (typed "Correct-Horse-9") (some (encode "9x")) = true := by
    rw [verify_hash_iff (by decide) (by decide), same]
  have collide := mustMatch _ _ _ _ _ (by decide) (by decide) (by decide) accepted
  exact collide.different same

end Password

end Latchkey
