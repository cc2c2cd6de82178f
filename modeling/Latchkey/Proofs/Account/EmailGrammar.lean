/-
What is an email. The grammar is stated of the normal form as a whole, without the cuts and
the order of the checks by which it is read; a text is an email exactly if its normal form is
of the grammar, and all spellings of an email, its JSON text among them, are read as that form.
-/

import Latchkey.Account.Email.Json
import Latchkey.Proofs.Account.NormalEmail
import Latchkey.Proofs.Json.Record
import Latchkey.Proofs.Text.AsciiCase

namespace Latchkey

namespace Email

structure IsDomainLabel (label : List Char) : Prop where
  nonempty : label ≠ []
  spelled : ∀ char ∈ label, char.isAlphanum = true ∨ char = '-'
  starts : label.head? ≠ some '-'
  ends : label.getLast? ≠ some '-'

structure IsMailbox (mailbox : List Char) : Prop where
  size : 1 ≤ (String.ofList mailbox).utf8ByteSize ∧ (String.ofList mailbox).utf8ByteSize ≤ 64
  visible : ∀ char ∈ mailbox, Text.isBlank char = false ∧ Text.isControl char = false

/-- The labels of a domain in their order, without the dots between them. -/
structure AreDomain (labels : List (List Char)) : Prop where
  several : 2 ≤ labels.length
  label : ∀ label ∈ labels, IsDomainLabel label

structure IsWellFormed (text : String) : Prop where
  size : 1 ≤ text.utf8ByteSize ∧ text.utf8ByteSize ≤ 254
  oneSign : text.toList.count '@' = 1
  parts : ∃ mailbox labels, text.toList = mailbox ++ '@' :: ['.'].intercalate labels ∧
    IsMailbox mailbox ∧ AreDomain labels

theorem byteLength_eq (chars : List Char) :
    byteLength chars = (String.ofList chars).utf8ByteSize := by
  induction chars with
  | nil => rfl
  | cons char rest ih =>
      rw [String.ofList_cons, String.utf8ByteSize_append, String.utf8ByteSize_singleton, ← ih]
      rfl

theorem isLabel_iff {label : List Char} : isLabel label = true ↔ IsDomainLabel label := by
  simp only [isLabel, Bool.and_eq_true, Bool.not_eq_true', List.isEmpty_eq_false_iff, bne_iff_ne,
    List.all_eq_true, Bool.or_eq_true, beq_iff_eq]
  constructor
  · rintro ⟨⟨⟨nonempty, starts⟩, ends⟩, spelled⟩
    exact ⟨nonempty, spelled, starts, ends⟩
  · intro label
    exact ⟨⟨⟨label.nonempty, label.starts⟩, label.ends⟩, label.spelled⟩

theorem isLocalPart_iff {mailbox : List Char} :
    isLocalPart mailbox = true ↔ IsMailbox mailbox := by
  have empty : (String.ofList mailbox).utf8ByteSize = 0 ↔ mailbox = [] := by
    rw [String.utf8ByteSize_eq_zero_iff, ← String.ofList_nil, String.ofList_inj]
  simp only [isLocalPart, Bool.and_eq_true, Bool.not_eq_true', List.isEmpty_eq_false_iff,
    decide_eq_true_eq, List.all_eq_true, byteLength_eq, maxLocalLength, ne_eq, ← empty]
  constructor
  · rintro ⟨⟨nonempty, short⟩, visible⟩
    exact ⟨⟨Nat.one_le_iff_ne_zero.mpr nonempty, short⟩, visible⟩
  · intro mailbox
    exact ⟨⟨Nat.one_le_iff_ne_zero.mp mailbox.size.1, mailbox.size.2⟩, mailbox.visible⟩

theorem IsDomainLabel.notMem {label : List Char} (isLabel : IsDomainLabel label) {mark : Char}
    (outside : mark.isAlphanum = false ∧ mark ≠ '-') : mark ∉ label := by
  intro member
  rcases isLabel.spelled mark member with alphanumeric | hyphen
  · rw [outside.1] at alphanumeric
    cases alphanumeric
  · exact outside.2 hyphen

theorem AreDomain.splitOn_intercalate {labels : List (List Char)} (domain : AreDomain labels) :
    (['.'].intercalate labels).splitOn '.' = labels := by
  have undotted : ∀ label ∈ labels, '.' ∉ label :=
    fun label member => (domain.label label member).notMem (by decide)
  have nonempty : labels ≠ [] := by
    rintro rfl
    exact absurd domain.several (by decide)
  exact List.splitOn_intercalate '.' undotted nonempty

theorem isDomain_iff {domain : List Char} :
    isDomain domain = true ↔ AreDomain (domain.splitOn '.') := by
  simp only [isDomain, Bool.and_eq_true, decide_eq_true_eq, List.all_eq_true]
  constructor
  · rintro ⟨several, label⟩
    exact ⟨several, fun part member => isLabel_iff.mp (label part member)⟩
  · intro labels
    exact ⟨labels.several, fun part member => isLabel_iff.mpr (labels.label part member)⟩

theorem AreDomain.sign_notMem {labels : List (List Char)} (domain : AreDomain labels) :
    '@' ∉ ['.'].intercalate labels := by
  intro member
  rcases Text.mem_part_of_mem '.' member with isDot | ⟨label, among, within⟩
  · exact absurd isDot (by decide)
  · rw [domain.splitOn_intercalate] at among
    exact (domain.label label among).notMem (by decide) within

/-- The first sign is the only one: no domain holds another. -/
theorem isAddress_iff {chars : List Char} :
    isAddress chars = true ↔ chars.count '@' = 1 ∧
      ∃ mailbox labels, chars = mailbox ++ '@' :: ['.'].intercalate labels ∧
        IsMailbox mailbox ∧ AreDomain labels := by
  constructor
  · intro address
    unfold isAddress at address
    cases cut : chars.span (· != '@') with
    | mk before found =>
        rw [cut] at address
        cases found with
        | nil => cases address
        | cons mark after =>
            obtain ⟨_isSign, absent, rfl⟩ := Text.span_ne_eq_cons cut
            obtain ⟨localPart, domain⟩ := Bool.and_eq_true_iff.mp address
            have labels := isDomain_iff.mp domain
            have joined : ['.'].intercalate (after.splitOn '.') = after :=
              List.intercalate_splitOn '.'
            have once := labels.sign_notMem
            rw [joined] at once
            refine ⟨?_, before, after.splitOn '.', ?_, isLocalPart_iff.mp localPart, labels⟩
            · rw [List.count_append, List.count_cons_self, List.count_eq_zero.mpr absent,
                List.count_eq_zero.mpr once]
            · rw [joined]
  · rintro ⟨oneSign, mailbox, labels, rfl, isMailbox, domain⟩
    have absent : '@' ∉ mailbox := by
      rw [List.count_append, List.count_cons_self] at oneSign
      exact List.count_eq_zero.mp (by omega)
    unfold isAddress
    rw [Text.span_ne_of_notMem absent]
    have labelled : isDomain (['.'].intercalate labels) = true := by
      rw [isDomain_iff, domain.splitOn_intercalate]
      exact domain
    exact Bool.and_eq_true_iff.mpr ⟨isLocalPart_iff.mpr isMailbox, labelled⟩

theorem isWellFormed_iff {text : String} :
    IsWellFormed text ↔
      text ≠ "" ∧ text.utf8ByteSize ≤ maxLength ∧ isAddress text.toList = true := by
  have nonempty : 1 ≤ text.utf8ByteSize ↔ text ≠ "" := by
    rw [Nat.one_le_iff_ne_zero, ne_eq, String.utf8ByteSize_eq_zero_iff]
  rw [← nonempty, isAddress_iff]
  constructor
  · intro wellFormed
    exact ⟨wellFormed.size.1, wellFormed.size.2, wellFormed.oneSign, wellFormed.parts⟩
  · rintro ⟨long, short, oneSign, parts⟩
    exact ⟨⟨long, short⟩, oneSign, parts⟩

theorem parse_normalize_iff (raw : String) :
    parse raw = .ok ⟨normalize raw⟩ ↔ IsWellFormed (normalize raw) := by
  rw [parse_eq_ok, isWellFormed_iff]
  exact and_iff_right rfl

theorem parse_congr {raw other : String} (same : normalize other = normalize raw) :
    parse other = parse raw := by
  unfold parse
  rw [same]

theorem normalize_of_sameLetters {raw other : String}
    (same : Text.toAsciiLowercase other = Text.toAsciiLowercase raw) :
    normalize other = normalize raw := by
  have small : other.toList.map Char.toLower = raw.toList.map Char.toLower :=
    String.ofList_injective same
  have trimmed := congrArg (fun chars => Text.lowerChars (Text.trimChars chars)) small
  simp only [Text.trimChars_map_toLower, Text.lowerChars_map_toLower] at trimmed
  simp only [normalize, Text.toLowercase, Text.trim, String.toList_ofList, trimmed]

theorem normalize_padded {before after : String} (raw : String)
    (blankBefore : Text.isBlankText before = true) (blankAfter : Text.isBlankText after = true) :
    normalize (before ++ raw ++ after) = normalize raw := by
  have trimmed := Text.trimChars_append_append raw.toList (List.all_eq_true.mp blankBefore)
    (List.all_eq_true.mp blankAfter)
  simp only [normalize, Text.trim, String.toList_append, trimmed]

theorem ofJson?_render (email : Email) :
    ofJson? (Text.Utf8.encode email.json.render) = (parse email.text).toOption := by
  have written : Text.Utf8.encode email.json.render =
      Text.Utf8.encodeChars (Json.quotedChars email.text) := by
    rw [json, Json.Value.render, Text.Utf8.encode, String.toList_ofList, Json.Value.chars]
  have read : Json.readAll Json.textField (Text.Utf8.encode email.json.render) =
      .ok (.text email.text) := by
    have taken := Json.textField_quotedChars email.text []
    rw [List.append_nil, ← written] at taken
    rw [Json.readAll, taken]
    rfl
  rw [ofJson?, read]
  simp only [Except.toOption, Json.Value.text?, Option.bind_eq_bind, Option.bind_some]

/-- A text is read as its normal form exactly if that is of the grammar. What was read is read
again from its own text and from its JSON text, and neither the case of the letters A to Z nor
blank characters around a text make a difference to what it is read as. -/
theorem parse_spellings (raw : String) :
    (parse raw = .ok ⟨normalize raw⟩ ↔ IsWellFormed (normalize raw)) ∧
      (∀ email, parse raw = .ok email →
        email.text = normalize raw ∧ parse email.text = .ok email ∧
          ofJson? (Text.Utf8.encode email.json.render) = some email) ∧
      (∀ other, Text.toAsciiLowercase other = Text.toAsciiLowercase raw →
        parse other = parse raw) ∧
      ∀ before after, Text.isBlankText before = true → Text.isBlankText after = true →
        parse (before ++ raw ++ after) = parse raw := by
  refine ⟨parse_normalize_iff raw, ?_, ?_, ?_⟩
  · intro email parsed
    have again := parse_text parsed
    refine ⟨(parse_eq_ok.mp parsed).1, again, ?_⟩
    rw [ofJson?_render, again]
    rfl
  · intro other sameLetters
    exact parse_congr (normalize_of_sameLetters sameLetters)
  · intro before after blankBefore blankAfter
    exact parse_congr (normalize_padded raw blankBefore blankAfter)

/-- A name that ends in a capital sigma: the last one becomes the final form. -/
theorem parse_spellings_odysseus :
    parse " ΟΔΥΣΣΕΥΣ@Ithaca.EXAMPLE" = .ok ⟨"οδυσσευς@ithaca.example"⟩ ∧
      parse "οδυσσευς@ithaca.example" = .ok ⟨"οδυσσευς@ithaca.example"⟩ ∧
      parse " ΟΔΥΣΣΕΥΣ@iTHACA.example" = .ok ⟨"οδυσσευς@ithaca.example"⟩ ∧
      parse "\u3000 ΟΔΥΣΣΕΥΣ@Ithaca.EXAMPLE\n" = .ok ⟨"οδυσσευς@ithaca.example"⟩ := by
  have normal : normalize " ΟΔΥΣΣΕΥΣ@Ithaca.EXAMPLE" = "οδυσσευς@ithaca.example" := by
    decide +kernel
  have wellFormed : IsWellFormed "οδυσσευς@ithaca.example" :=
    isWellFormed_iff.mpr ⟨by decide, by decide +kernel, by decide +kernel⟩
  obtain ⟨accepted, read, sameLetters, padded⟩ := parse_spellings " ΟΔΥΣΣΕΥΣ@Ithaca.EXAMPLE"
  rw [normal] at accepted
  have first := accepted.mpr wellFormed
  refine ⟨first, (read _ first).2.1, ?_, ?_⟩
  · rw [sameLetters _ (by decide +kernel), first]
  · exact (padded "\u3000" "\n" (by decide) (by decide)).trans first

end Email

end Latchkey
