/-
Cookies there and back. The header that sets a cookie is legal and begins with its name and
value, whatever its attributes; and the value is found again wherever it is sent back in
readable headers, unless an earlier cookie has the name.
-/

import Latchkey.Base64
import Latchkey.Cookie
import Latchkey.Proofs.Http.Header
import Latchkey.Proofs.Json.Number
import Latchkey.Proofs.Text.Cut

namespace Latchkey.Cookie

open Http (IsReadable IsReadableChar isReadable_append)
open Text.Utf8 (encode)

def IsVisible (char : Char) : Prop := 0x21 ≤ char.toNat ∧ char.toNat ≤ 0x7E

instance (char : Char) : Decidable (IsVisible char) := inferInstanceAs (Decidable (_ ∧ _))

def IsName (name : String) : Prop :=
  name ≠ "" ∧ ∀ char ∈ name.toList, IsVisible char ∧ char ≠ '=' ∧ char ≠ ';'

instance (name : String) : Decidable (IsName name) :=
  @instDecidableAnd _ _ _ (List.decidableBAll _ name.toList)

def IsValue (value : String) : Prop := ∀ char ∈ value.toList, IsVisible char ∧ char ≠ ';'

instance (value : String) : Decidable (IsValue value) := List.decidableBAll _ value.toList

theorem IsVisible.readable {char : Char} (visible : IsVisible char) : IsReadableChar char := by
  obtain ⟨low, high⟩ := visible
  exact Or.inl ⟨by omega, by omega⟩

theorem IsVisible.not_isBlank {char : Char} (visible : IsVisible char) :
    Text.isBlank char = false := by
  obtain ⟨low, high⟩ := visible
  simp only [Text.isBlank, Bool.or_eq_false_iff, Bool.and_eq_false_iff, decide_eq_false_iff_not,
    beq_eq_false_iff_ne]
  omega

theorem isVisible_of_between {low high char : Char} (visible : IsVisible low)
    (within : low ≤ char ∧ char ≤ high) (bound : IsVisible high) : IsVisible char := by
  have above : low.toNat ≤ char.toNat := UInt32.le_iff_toNat_le.mp within.1
  have below : char.toNat ≤ high.toNat := UInt32.le_iff_toNat_le.mp within.2
  exact ⟨Nat.le_trans visible.1 above, Nat.le_trans below bound.2⟩

theorem isVisible_of_isUrlSafe {char : Char} (symbol : Base64.IsUrlSafe char) : IsVisible char := by
  rcases symbol with upper | lower | digit | rfl | rfl
  · exact isVisible_of_between (by decide) upper (by decide)
  · exact isVisible_of_between (by decide) lower (by decide)
  · exact isVisible_of_between (by decide) digit (by decide)
  · decide
  · decide

variable {name value : String}

theorem IsName.readable (named : IsName name) : IsReadable name.toList :=
  fun char member => (named.2 char member).1.readable

theorem IsValue.readable (valued : IsValue value) : IsReadable value.toList :=
  fun char member => (valued char member).1.readable

theorem readable_attributes {cookie : Cookie}
    (path : IsReadable cookie.path.toList) :
    IsReadable cookie.attributes.toList := by
  have site (site : SameSite) : IsReadable site.name.toList := by
    cases site <;> decide
  unfold attributes
  simp only [String.toList_append, isReadable_append]
  refine ⟨⟨⟨⟨⟨?_, ?_⟩, by decide⟩, site cookie.sameSite⟩, by decide⟩, path⟩
  · split <;> decide
  · split <;> decide

theorem readable_natural (number : Nat) : IsReadable number.repr.toList := by
  rw [Nat.toList_repr]
  intro char member
  obtain ⟨low, high⟩ := Json.toNat_of_mem_toDigits member
  exact Or.inl ⟨by omega, by omega⟩

theorem readable_wholeSeconds (age : Time.Span) :
    IsReadable (toString age.wholeSeconds).toList := by
  rw [Int.toString_eq_repr]
  cases age.wholeSeconds with
  | ofNat seconds => exact readable_natural seconds
  | negSucc seconds =>
      simp only [Int.repr, String.toList_append, isReadable_append]
      exact ⟨by decide, readable_natural _⟩

theorem readable_setting {cookie : Cookie} (named : IsName cookie.name) (valued : IsValue value)
    (path : IsReadable cookie.path.toList) :
    IsReadable (cookie.setting value).toList := by
  unfold setting
  simp only [String.toList_append, isReadable_append]
  refine ⟨⟨⟨⟨named.readable, by decide⟩, valued.readable⟩, readable_attributes path⟩, ?_⟩
  cases cookie.maxAge with
  | none => decide
  | some age =>
      simp only [Option.map_some, Option.getD_some, String.toList_append, isReadable_append]
      exact ⟨by decide, readable_wholeSeconds age⟩

theorem setting?_eq_some {cookie : Cookie} (named : IsName cookie.name) (valued : IsValue value)
    (path : IsReadable cookie.path.toList) :
    Http.isLegalValue (encode (cookie.setting value)) = true ∧
      cookie.setting? value = some (cookie.setting value) := by
  have legal := Http.isLegalValue_encodeChars (readable_setting named valued path)
  exact ⟨legal, if_pos legal⟩

theorem exists_toList_attributes (cookie : Cookie) :
    ∃ rest, cookie.attributes.toList = ';' :: rest := by
  unfold attributes
  simp only [String.toList_append]
  split
  · exact ⟨_, rfl⟩
  · split
    · exact ⟨_, rfl⟩
    · exact ⟨_, rfl⟩

theorem takeWhile_setting {cookie : Cookie} (named : IsName cookie.name) (valued : IsValue value) :
    (cookie.setting value).toList.takeWhile (· != ';') =
      (cookie.name ++ "=" ++ value).toList := by
  obtain ⟨rest, attributes⟩ := exists_toList_attributes cookie
  have noMark : ';' ∉ (cookie.name ++ "=" ++ value).toList := by
    simp only [String.toList_append, List.mem_append]
    rintro ((inName | inSign) | inValue)
    · exact (named.2 ';' inName).2.2 rfl
    · revert inSign
      decide
    · exact (valued ';' inValue).2 rfl
  unfold setting
  rw [String.toList_append, String.toList_append, attributes, List.append_assoc, List.cons_append,
    Text.takeWhile_ne_of_notMem noMark]

/-- Whether a piece of a header is a cookie with a name and a value, between blanks. -/
def IsPiece (name value piece : List Char) : Prop := Text.trimChars piece = name ++ '=' :: value

theorem valueOf?_eq_some {name value piece : List Char} (noSign : '=' ∉ name) :
    valueOf? name piece = some value ↔ IsPiece name value piece := by
  unfold valueOf? IsPiece
  constructor
  · intro found
    split at found
    · cases found
    · next key mark rest cut =>
        obtain ⟨_mark, _absent, whole⟩ := Text.span_ne_eq_cons cut
        split at found
        · next same =>
            cases found
            rw [whole, same]
        · cases found
  · intro whole
    rw [whole, Text.span_ne_of_notMem noSign]
    exact if_pos rfl

/-- Cookie headers of readable text among whose cookies the first one with a name has a
value. -/
structure Sent (headers : Http.Headers) (name value : String) where
  texts : List String
  before : List (List Char)
  piece : List Char
  after : List (List Char)
  values : headers.valuesOf "cookie" = texts.map encode
  readable : ∀ text ∈ texts, IsReadable text.toList
  pieces : texts.flatMap (·.toList.splitOn ';') = before ++ piece :: after
  own : IsPiece name.toList value.toList piece
  first : ∀ other ∈ before, ∀ value, ¬IsPiece name.toList value other

theorem filterMap_textOfValue? {texts : List String}
    (readable : ∀ text ∈ texts, IsReadable text.toList) :
    (texts.map encode).filterMap Http.textOfValue? = texts.map String.toList := by
  induction texts with
  | nil => rfl
  | cons text texts ih =>
      obtain ⟨own, others⟩ := List.forall_mem_cons.mp readable
      have read : Http.textOfValue? (encode text) = some text.toList :=
        Http.textOfValue?_encodeChars own
      rw [List.map_cons, List.filterMap_cons_some read, ih others, List.map_cons]

theorem Sent.find?_eq {headers : Http.Headers} (sent : Sent headers name value)
    (noSign : '=' ∉ name.toList) : find? headers name = some value := by
  have hidden : ∀ other ∈ sent.before, valueOf? name.toList other = none := by
    intro other among
    rw [Option.eq_none_iff_forall_ne_some]
    intro value found
    exact sent.first other among value ((valueOf?_eq_some noSign).mp found)
  have found : (sent.texts.flatMap (·.toList.splitOn ';')).findSome? (valueOf? name.toList) =
      some value.toList := by
    rw [List.findSome?_eq_some_iff]
    exact ⟨_, _, _, sent.pieces, (valueOf?_eq_some noSign).mpr sent.own, hidden⟩
  rw [find?, sent.values, filterMap_textOfValue? sent.readable]
  simp only [List.flatMap_map, found, Option.map_some, String.ofList_toList]

end Latchkey.Cookie
