/-
Bytes as text and back. Every list of bytes has one text: it is as long as its bits need, it is
read as those bytes, and no other text is. So a random secret shows how many bytes were drawn
for it, and holds all of them.
-/

import Mathlib.Algebra.Order.Floor.Div
import Mathlib.GroupTheory.GroupAction.Ring
import Latchkey.Secret

namespace Latchkey

namespace Base64

variable {alphabet : Alphabet} {text other : String} {bytes : List UInt8}

theorem length_encodeChars (alphabet : Alphabet) (bytes : List UInt8) :
    (encodeChars alphabet bytes).length = (4 * bytes.length + 2) / 3 := by
  fun_induction encodeChars alphabet bytes with
  | case1 => rfl
  | case2 a => simp
  | case3 a b => simp
  | case4 a b c rest ih =>
      simp only [List.length_cons, ih]
      omega

theorem length_encode (alphabet : Alphabet) (bytes : List UInt8) :
    (encode alphabet bytes).length = 4 * bytes.length ⌈/⌉ 3 := by
  rw [encode, String.length_ofList, length_encodeChars, Nat.ceilDiv_eq_add_pred_div]
  rfl

theorem isUrlSafe_of_mem_encode {char : Char} (member : char ∈ (encode .urlSafe bytes).toList) :
    IsUrlSafe char := by
  rw [encode, String.toList_ofList] at member
  exact isUrlSafe_of_mem_encodeChars member

theorem decode?_eq_some_iff : decode? alphabet text = some bytes ↔ text = encode alphabet bytes := by
  rw [decode?, decodeChars?_eq_some_iff, encode, ← String.toList_inj, String.toList_ofList]

theorem decode_eq_ok_iff : decode alphabet text = .ok bytes ↔ text = encode alphabet bytes := by
  rw [← decode?_eq_some_iff, decode]
  cases decode? alphabet text with
  | none => simp
  | some found => simp

/-- A text is read as the bytes whose text it is, and as no others. There are four symbols for
three bytes, those of a last group that is not full rounded up, and a URL keeps all of them. A
secret made from random bytes is as long as their count tells and is read as those bytes. -/
theorem urlSafe_canonical :
    (∀ text bytes, decode .urlSafe text = .ok bytes ↔ text = encode .urlSafe bytes) ∧
      (∀ bytes, (encode .urlSafe bytes).length = 4 * bytes.length ⌈/⌉ 3 ∧
        ∀ char ∈ (encode .urlSafe bytes).toList, IsUrlSafe char) ∧
      (∀ text other bytes, decode .urlSafe text = .ok bytes → decode .urlSafe other = .ok bytes →
        text = other) ∧
      ∀ drawn, drawn ≠ [] → ∃ secret, Secret.ofBytes drawn = .ok secret ∧
        secret.length = 4 * drawn.length ⌈/⌉ 3 ∧ decode .urlSafe secret = .ok drawn := by
  refine ⟨fun _text _bytes => decode_eq_ok_iff, ?_, ?_, ?_⟩
  · intro bytes
    exact ⟨length_encode .urlSafe bytes, fun _char => isUrlSafe_of_mem_encode⟩
  · intro text other bytes read readOther
    exact (decode_eq_ok_iff.mp read).trans (decode_eq_ok_iff.mp readOther).symm
  · intro drawn nonempty
    exact ⟨encode .urlSafe drawn, Secret.ofBytes_of_ne_nil nonempty, length_encode .urlSafe drawn,
      decode_eq_ok_iff.mpr rfl⟩

/-- Both marks of the alphabet, and two symbols for a byte that is left over. -/
theorem urlSafe_canonical_marks :
    decode .urlSafe "-__--A" = .ok [0xFB, 0xFF, 0xFE, 0xF8] ∧
      (∀ other, decode .urlSafe other = .ok [0xFB, 0xFF, 0xFE, 0xF8] → other = "-__--A") ∧
      ([0xFB, 0xFF, 0xFE, 0xF8] : List UInt8) ≠ [] ∧
      ∃ secret, Secret.ofBytes [0xFB, 0xFF, 0xFE, 0xF8] = .ok secret ∧ secret.length = 6 ∧
        decode .urlSafe secret = .ok [0xFB, 0xFF, 0xFE, 0xF8] := by
  obtain ⟨canonical, _spelled, unique, secrets⟩ := urlSafe_canonical
  have read : decode .urlSafe "-__--A" = .ok [0xFB, 0xFF, 0xFE, 0xF8] :=
    (canonical _ _).mpr (by decide)
  refine ⟨read, fun other readOther => unique other _ _ readOther read, by decide, ?_⟩
  exact secrets _ (by decide)

end Base64

end Latchkey
