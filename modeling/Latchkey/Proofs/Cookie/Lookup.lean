/-
Cookies among the bytes of a request. Semicolons part the cookies of a header value, and blanks
around a cookie do not belong to it. The first cookie with a name is found, whatever stands
around it; a value with a byte beyond ASCII is passed over, with all the cookies in it.
-/

import Latchkey.Proofs.Cookie
import Latchkey.Proofs.Text.Trim

namespace Latchkey.Cookie

open Http (IsReadable textOfValue?)
open Text.Utf8 (encode encodeChars)

def pieces (values : List (List UInt8)) : List (List UInt8) := values.flatMap (·.splitOn 0x3B)

/-- Whether bytes are spaces and tabs. -/
def IsPad (bytes : List UInt8) : Prop := ∀ byte ∈ bytes, byte = 0x20 ∨ byte = 0x09

instance (bytes : List UInt8) : Decidable (IsPad bytes) :=
  @List.decidableBAll _ (fun byte => byte = 0x20 ∨ byte = 0x09) _ bytes

def IsCookie (name value : String) (piece : List UInt8) : Prop :=
  ∃ before after, IsPad before ∧ IsPad after ∧
    piece = before ++ encode (name ++ "=" ++ value) ++ after

/-- Whether a piece is a cookie with a name, of whatever value. -/
def HasName (name : String) (piece : List UInt8) : Prop :=
  ∃ before rest, IsPad before ∧ piece = before ++ encode (name ++ "=") ++ rest

/-- Whether a cookie with a value is the first one that has its name. -/
def IsFirst (name value : String) (values : List (List UInt8)) : Prop :=
  ∃ before piece after, pieces values = before ++ piece :: after ∧ IsCookie name value piece ∧
    ∀ other ∈ before, ¬HasName name other

def IsAscii (value : List UInt8) : Prop := ∀ byte ∈ value, byte < 0x80

instance (value : List UInt8) : Decidable (IsAscii value) := List.decidableBAll _ value

section Readable

variable {name value : String} {chars word piece : List Char} {first last : List UInt8}

private theorem encodeChars_injective : Function.Injective encodeChars :=
  Function.LeftInverse.injective Text.Utf8.decodeCharsLossy_encodeChars

private theorem encodeChars_eq_around (readable : IsReadable chars)
    (written : encodeChars chars = first ++ encodeChars word ++ last) :
    ∃ before after, chars = before ++ word ++ after ∧ encodeChars before = first ∧
      IsReadable before ∧ encodeChars after = last ∧ IsReadable after := by
  rw [Http.encodeChars_of_readable readable] at written
  obtain ⟨front, after, rfl, frontIs, rfl⟩ := List.map_eq_append_iff.mp written
  obtain ⟨before, middle, rfl, rfl, middleIs⟩ := List.map_eq_append_iff.mp frontIs
  obtain ⟨readableFront, readableAfter⟩ := Http.isReadable_append.mp readable
  obtain ⟨readableBefore, readableMiddle⟩ := Http.isReadable_append.mp readableFront
  rw [← Http.encodeChars_of_readable readableMiddle] at middleIs
  exact ⟨before, after, by rw [encodeChars_injective middleIs],
    Http.encodeChars_of_readable readableBefore, readableBefore,
    Http.encodeChars_of_readable readableAfter, readableAfter⟩

private theorem isPad_encodeChars (readable : IsReadable chars) :
    IsPad (encodeChars chars) ↔ ∀ char ∈ chars, Text.isBlank char = true := by
  rw [Http.encodeChars_of_readable readable, IsPad, List.forall_mem_map]
  apply forall₂_congr
  intro char member
  rw [← UInt8.toNat_inj, ← UInt8.toNat_inj, Http.toNat_byteOf (readable char member)]
  change char.toNat = 0x20 ∨ char.toNat = 0x09 ↔ _
  rcases readable char member with ⟨low, high⟩ | rfl
  · simp only [Text.isBlank, Bool.or_eq_true, Bool.and_eq_true, decide_eq_true_eq, beq_iff_eq]
    omega
  · decide

private theorem encode_cookie (name value : String) :
    encode (name ++ "=" ++ value) = encodeChars (name.toList ++ '=' :: value.toList) := by
  have sign : "=".toList = ['='] := rfl
  rw [encode, String.toList_append, String.toList_append, sign, List.append_assoc,
    List.singleton_append]

theorem IsName.solid (named : IsName name) :
    ∀ char ∈ name.toList ++ ['='], Text.isBlank char = false :=
  List.forall_mem_append.mpr ⟨fun char member => (named.2 char member).1.not_isBlank,
    List.forall_mem_singleton.mpr rfl⟩

theorem isCookie_encodeChars (named : IsName name) (valued : IsValue value)
    (readable : IsReadable piece) :
    IsCookie name value (encodeChars piece) ↔ IsPiece name.toList value.toList piece := by
  have solid : ∀ char ∈ name.toList ++ '=' :: value.toList, Text.isBlank char = false := by
    rw [List.append_cons]
    exact List.forall_mem_append.mpr
      ⟨named.solid, fun char member => (valued char member).1.not_isBlank⟩
  rw [IsPiece, Text.trimChars_eq_iff solid]
  constructor
  · rintro ⟨padBefore, padAfter, isPadBefore, isPadAfter, whole⟩
    rw [encode_cookie] at whole
    obtain ⟨before, after, rfl, rfl, readableBefore, rfl, readableAfter⟩ :=
      encodeChars_eq_around readable whole
    exact ⟨before, after, rfl, (isPad_encodeChars readableBefore).mp isPadBefore,
      (isPad_encodeChars readableAfter).mp isPadAfter⟩
  · rintro ⟨before, after, rfl, blankBefore, blankAfter⟩
    obtain ⟨readableFront, readableAfter⟩ := Http.isReadable_append.mp readable
    obtain ⟨readableBefore, _readableWord⟩ := Http.isReadable_append.mp readableFront
    refine ⟨encodeChars before, encodeChars after,
      (isPad_encodeChars readableBefore).mpr blankBefore,
      (isPad_encodeChars readableAfter).mpr blankAfter, ?_⟩
    rw [Text.Utf8.encodeChars_append, Text.Utf8.encodeChars_append, encode_cookie]

theorem hasName_encodeChars (named : IsName name) (readable : IsReadable piece) :
    HasName name (encodeChars piece) ↔ ∃ value, IsPiece name.toList value piece := by
  have sign : encode (name ++ "=") = encodeChars (name.toList ++ ['=']) := by
    rw [encode, String.toList_append]
    rfl
  rw [HasName, sign]
  constructor
  · rintro ⟨padBefore, rest, isPad, whole⟩
    obtain ⟨before, after, rfl, rfl, readableBefore, _rest, _readableAfter⟩ :=
      encodeChars_eq_around readable whole
    have trimmed := Text.trimChars_append_append (name.toList ++ ['='] ++ after)
      ((isPad_encodeChars readableBefore).mp isPad) (List.forall_mem_nil _)
    rw [List.append_nil, Text.trimChars_append (by simp) named.solid] at trimmed
    refine ⟨after.rdropWhile Text.isBlank, ?_⟩
    rw [IsPiece, List.append_assoc before, trimmed, List.append_assoc]
    rfl
  · rintro ⟨value, own⟩
    obtain ⟨before, after, whole, blankBefore, _blankAfter⟩ := Text.exists_trimmed piece
    rw [IsPiece] at own
    rw [own] at whole
    rw [whole] at readable ⊢
    obtain ⟨readableFront, _readableAfter⟩ := Http.isReadable_append.mp readable
    obtain ⟨readableBefore, _readableWord⟩ := Http.isReadable_append.mp readableFront
    refine ⟨encodeChars before, encodeChars value ++ encodeChars after,
      (isPad_encodeChars readableBefore).mpr blankBefore, ?_⟩
    rw [Text.Utf8.encodeChars_append, Text.Utf8.encodeChars_append, List.append_cons,
      Text.Utf8.encodeChars_append]
    simp only [List.append_assoc]

end Readable

section Values

variable {name value : String} {texts : List (List Char)} {values : List (List UInt8)}

private theorem isAscii_of_readable {chars : List Char} (readable : IsReadable chars) :
    IsAscii (encodeChars chars) := by
  rw [Http.encodeChars_of_readable readable, IsAscii, List.forall_mem_map]
  intro char member
  rw [UInt8.lt_iff_toNat_lt, Http.toNat_byteOf (readable char member)]
  exact (readable char member).ascii

private theorem exists_text_of_isAscii {bytes : List UInt8} (legal : Http.isLegalValue bytes = true)
    (ascii : IsAscii bytes) : ∃ chars, textOfValue? bytes = some chars := by
  refine ⟨_, if_pos (List.all_eq_true.mpr ?_)⟩
  intro byte member
  have own := List.all_eq_true.mp legal byte member
  have small := ascii byte member
  simp only [Bool.or_eq_true, Bool.and_eq_true, decide_eq_true_eq, bne_iff_ne, beq_iff_eq,
    UInt8.le_iff_toNat_le, UInt8.lt_iff_toNat_lt, ne_eq, ← UInt8.toNat_inj] at own small ⊢
  change (32 ≤ byte.toNat ∧ ¬byte.toNat = 127) ∨ byte.toNat = 9 at own
  change byte.toNat < 128 at small
  change (32 ≤ byte.toNat ∧ byte.toNat < 127) ∨ byte.toNat = 9
  omega

private theorem filter_isAscii (legal : ∀ value ∈ values, Http.isLegalValue value = true) :
    values.filter (decide <| IsAscii ·) = (values.filterMap textOfValue?).map encodeChars := by
  induction values with
  | nil => rfl
  | cons value values ih =>
      obtain ⟨own, others⟩ := List.forall_mem_cons.mp legal
      by_cases ascii : IsAscii value
      · obtain ⟨chars, text⟩ := exists_text_of_isAscii own ascii
        rw [List.filter_cons, if_pos (decide_eq_true ascii), List.filterMap_cons_some text,
          List.map_cons, ih others, ← (Http.textOfValue?_eq_some.mp text).1]
      · have unread : textOfValue? value = none := by
          rw [Option.eq_none_iff_forall_ne_some]
          intro chars text
          obtain ⟨rfl, readable⟩ := Http.textOfValue?_eq_some.mp text
          exact ascii (isAscii_of_readable readable)
        rw [List.filter_cons_of_neg (by simpa using ascii), List.filterMap_cons_none unread,
          ih others]

private theorem readable_of_mem_filterMap {chars : List Char}
    (member : chars ∈ values.filterMap textOfValue?) : IsReadable chars := by
  obtain ⟨_value, _among, text⟩ := List.mem_filterMap.mp member
  exact (Http.textOfValue?_eq_some.mp text).2

private theorem pieces_map_encodeChars (readable : ∀ chars ∈ texts, IsReadable chars) :
    pieces (texts.map encodeChars) = (texts.flatMap (·.splitOn ';')).map encodeChars := by
  rw [pieces, List.flatMap_map, List.map_flatMap]
  apply List.flatMap_congr
  intro chars member
  have own := readable chars member
  have apart : ∀ char ∈ chars, UInt8.ofNat char.toNat = UInt8.ofNat ';'.toNat → char = ';' := by
    intro char member same
    have point : char.toNat = ';'.toNat := by
      rw [← Http.toNat_byteOf (own char member), same]
      rfl
    exact Char.toNat_inj.mp point
  have cut := Text.splitOn_map apart
  rw [Http.encodeChars_of_readable own]
  refine cut.trans (List.map_congr_left ?_)
  intro part among
  have readablePart : IsReadable part :=
    fun char member => own char (Text.mem_of_mem_splitOn among member)
  exact (Http.encodeChars_of_readable readablePart).symm

private theorem readable_of_mem_pieces (readable : ∀ chars ∈ texts, IsReadable chars) :
    ∀ piece ∈ texts.flatMap (·.splitOn ';'), IsReadable piece := by
  intro piece member
  obtain ⟨chars, among, cut⟩ := List.mem_flatMap.mp member
  exact fun char within => readable chars among char (Text.mem_of_mem_splitOn cut within)

end Values

section First

variable {name value : String} {parts : List (List Char)}

private theorem not_hasName_iff {piece : List Char} (named : IsName name)
    (readable : IsReadable piece) :
    ¬HasName name (encodeChars piece) ↔ valueOf? name.toList piece = none := by
  have noSign : '=' ∉ name.toList := fun member => (named.2 '=' member).2.1 rfl
  rw [hasName_encodeChars named readable, not_exists, Option.eq_none_iff_forall_ne_some]
  exact forall_congr' fun value => not_congr (valueOf?_eq_some noSign).symm

private theorem isFirst_iff (named : IsName name) (valued : IsValue value)
    (readable : ∀ piece ∈ parts, IsReadable piece) :
    (∃ before piece after, parts.map encodeChars = before ++ piece :: after ∧
      IsCookie name value piece ∧ ∀ other ∈ before, ¬HasName name other) ↔
    parts.findSome? (valueOf? name.toList) = some value.toList := by
  have noSign : '=' ∉ name.toList := fun member => (named.2 '=' member).2.1 rfl
  rw [List.findSome?_eq_some_iff]
  constructor
  · rintro ⟨before, piece, after, whole, own, first⟩
    obtain ⟨before, rest, rfl, rfl, restIs⟩ := List.map_eq_append_iff.mp whole
    obtain ⟨piece, after, rfl, rfl, rfl⟩ := List.map_eq_cons_iff.mp restIs
    obtain ⟨readableBefore, readableRest⟩ := List.forall_mem_append.mp readable
    obtain ⟨readablePiece, _readableAfter⟩ := List.forall_mem_cons.mp readableRest
    refine ⟨before, piece, after, rfl, (valueOf?_eq_some noSign).mpr
      ((isCookie_encodeChars named valued readablePiece).mp own), ?_⟩
    intro other among
    exact (not_hasName_iff named (readableBefore other among)).mp
      (first _ (List.mem_map_of_mem among))
  · rintro ⟨before, piece, after, rfl, own, first⟩
    obtain ⟨readableBefore, readableRest⟩ := List.forall_mem_append.mp readable
    obtain ⟨readablePiece, _readableAfter⟩ := List.forall_mem_cons.mp readableRest
    refine ⟨before.map encodeChars, encodeChars piece, after.map encodeChars, by simp,
      (isCookie_encodeChars named valued readablePiece).mpr ((valueOf?_eq_some noSign).mp own), ?_⟩
    rw [List.forall_mem_map]
    intro other among
    exact (not_hasName_iff named (readableBefore other among)).mpr (first other among)

private theorem unnamed_iff (named : IsName name) (readable : ∀ piece ∈ parts, IsReadable piece) :
    (∀ piece ∈ parts.map encodeChars, ¬HasName name piece) ↔
      parts.findSome? (valueOf? name.toList) = none := by
  rw [List.forall_mem_map, List.findSome?_eq_none_iff]
  exact forall₂_congr fun piece among => not_hasName_iff named (readable piece among)

end First

/-- In the Cookie headers of a request, whose values are legal, the value of the first cookie with a
name is found, whatever the others are; nothing is found only where no cookie has the name. The
values with a byte beyond ASCII do not count. -/
theorem find?_first {headers : Http.Headers} {name : String}
    (legal : ∀ value ∈ headers.valuesOf "cookie", Http.isLegalValue value = true)
    (named : IsName name) :
    (∀ value, IsValue value → (find? headers name = some value ↔
      IsFirst name value ((headers.valuesOf "cookie").filter (decide <| IsAscii ·)))) ∧
    (find? headers name = none ↔
      ∀ piece ∈ pieces ((headers.valuesOf "cookie").filter (decide <| IsAscii ·)),
        ¬HasName name piece) := by
  have readable : ∀ chars ∈ (headers.valuesOf "cookie").filterMap textOfValue?, IsReadable chars :=
    fun _chars => readable_of_mem_filterMap
  have readablePieces := readable_of_mem_pieces readable
  have cut := (congrArg pieces (filter_isAscii legal)).trans (pieces_map_encodeChars readable)
  constructor
  · intro value valued
    rw [IsFirst, cut, isFirst_iff named valued readablePieces, find?, Option.map_eq_some_iff]
    constructor
    · rintro ⟨chars, found, rfl⟩
      rw [found, String.toList_ofList]
    · intro found
      exact ⟨value.toList, found, String.ofList_toList⟩
  · rw [cut, unnamed_iff named readablePieces, find?, Option.map_eq_none_iff]

private theorem not_hasName_of_not_infix {name : String} {piece : List UInt8}
    (nowhere : ¬encode (name ++ "=") <:+: piece) : ¬HasName name piece :=
  fun ⟨before, rest, _isPad, whole⟩ => nowhere ⟨before, rest, whole.symm⟩

def crowded : Http.Headers := [
  ⟨"cookie", encode "oauth_state=é"⟩,
  ⟨"accept", encode "oauth_state=1"⟩,
  ⟨"Cookie", encode "theme=dark;oauth_state ;\toauth_state=a=b ; oauth_state=late"⟩]

theorem find?_first_crowded :
    find? crowded "oauth_state" = some "a=b" ∧ find? crowded "oauth" = none := by
  have legal : ∀ value ∈ crowded.valuesOf "cookie", Http.isLegalValue value = true := by
    decide +kernel
  have cut : pieces ((crowded.valuesOf "cookie").filter (decide <| IsAscii ·)) =
      [encode "theme=dark", encode "oauth_state "] ++
        encode "\toauth_state=a=b " :: [encode " oauth_state=late"] := by
    decide +kernel
  refine ⟨((find?_first legal (by decide +kernel)).1 "a=b" (by decide +kernel)).mpr
    ⟨_, _, _, cut, ⟨[0x09], [0x20], by decide, by decide, by decide +kernel⟩, ?_⟩,
    (find?_first legal (by decide +kernel)).2.mpr ?_⟩
  · have nowhere : ∀ other ∈ [encode "theme=dark", encode "oauth_state "],
        ¬encode ("oauth_state" ++ "=") <:+: other := by
      decide +kernel
    exact fun other among => not_hasName_of_not_infix (nowhere other among)
  · have nowhere : ∀ other ∈ [encode "theme=dark", encode "oauth_state "] ++
        encode "\toauth_state=a=b " :: [encode " oauth_state=late"],
        ¬encode ("oauth" ++ "=") <:+: other := by
      decide +kernel
    rw [cut]
    exact fun other among => not_hasName_of_not_infix (nowhere other among)

def beside : Http.Headers := [⟨"cookie", encode "theme=é; oauth_state=abc"⟩]

/-- Legal or not, what cannot be read hides the cookies beside it. -/
theorem find?_beside :
    (∀ value ∈ beside.valuesOf "cookie", Http.isLegalValue value = true) ∧
    IsName "oauth_state" ∧ IsValue "abc" ∧
    IsFirst "oauth_state" "abc" (beside.valuesOf "cookie") ∧
    find? beside "oauth_state" = none := by
  have cut : pieces (beside.valuesOf "cookie") =
      [encode "theme=é"] ++ encode " oauth_state=abc" :: [] := by
    decide +kernel
  have nowhere : ∀ other ∈ [encode "theme=é"], ¬encode ("oauth_state" ++ "=") <:+: other := by
    decide +kernel
  refine ⟨by decide +kernel, by decide +kernel, by decide +kernel,
    ⟨_, _, _, cut, ⟨[0x20], [], by decide, by decide, by decide +kernel⟩, ?_⟩, by decide +kernel⟩
  exact fun other among => not_hasName_of_not_infix (nowhere other among)

end Latchkey.Cookie
