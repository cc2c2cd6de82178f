/-
Ids read back from their texts. The hyphens of the grouped form stand where its reader looks
for them, and between them are the digits in their order.
-/

import Latchkey.Account.Id
import Latchkey.Proofs.Text.Hex

namespace Latchkey.AccountId

theorem ungrouped?_groups {a b c d e : List Char} (lenA : a.length = 8)
    (lenB : b.length = 4) (lenC : c.length = 4) (lenD : d.length = 4) (lenE : e.length = 12) :
    ungrouped? (a ++ '-' :: b ++ '-' :: c ++ '-' :: d ++ '-' :: e)
      = some (a ++ b ++ c ++ d ++ e) := by
  unfold ungrouped?
  simp [List.drop_append, List.getElem?_append, List.drop_eq_nil_of_le, lenA,
    lenB, lenC, lenD, lenE]

private theorem take_append_drop_from (digits : List Char) (start count : Nat) :
    (digits.drop start).take count ++ digits.drop (start + count) = digits.drop start := by
  rw [← List.drop_drop]
  exact List.take_append_drop count _

theorem groups_append (digits : List Char) :
    digits.take 8 ++ (digits.drop 8).take 4 ++ (digits.drop 12).take 4 ++ (digits.drop 16).take 4
      ++ digits.drop 20 = digits := by
  rw [List.append_assoc, take_append_drop_from digits 16 4, List.append_assoc,
    take_append_drop_from digits 12 4, List.append_assoc, take_append_drop_from digits 8 4,
    List.take_append_drop]

theorem ungrouped?_grouped {digits : List Char} (full : digits.length = 32) :
    ungrouped? (grouped digits) = some digits := by
  unfold grouped
  rw [ungrouped?_groups (by simp [full]) (by simp [full]) (by simp [full]) (by simp [full])
    (by simp [full]), groups_append]

theorem length_grouped {digits : List Char} (full : digits.length = 32) :
    (grouped digits).length = 36 := by
  unfold grouped
  simp [full]

theorem ofText?_text (id : AccountId) : ofText? id.text = some id := by
  have full := Text.Hex.length_fixed 32 id.bits.toNat
  have small : id.bits.toNat < 16 ^ 32 := by
    have bound := id.bits.isLt
    have places : 2 ^ 128 = 16 ^ 32 := by decide
    rw [← places]
    exact bound
  have digits : digits? (grouped (Text.Hex.fixed 32 id.bits.toNat))
      = some (Text.Hex.fixed 32 id.bits.toNat) := by
    unfold digits?
    rw [length_grouped full, if_neg (by decide), if_pos rfl, ungrouped?_grouped full]
  unfold ofText? text
  rw [String.toList_ofList, digits]
  rw [Option.bind_eq_bind, Option.bind_some]
  rw [ofDigits?, if_pos full, Text.Hex.number?_fixed_of_lt small, Option.map_some,
    BitVec.ofNat_toNat, BitVec.setWidth_eq]

end Latchkey.AccountId
