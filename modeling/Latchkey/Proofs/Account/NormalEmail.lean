/-
Emails in their normal form. What is read as an email has no blank character, so that
nothing is left to trim, and it is in lower case; an email therefore reads back from its own
text, whatever spelling it was first read from.
-/

import Latchkey.Account.Email
import Latchkey.Proofs.Text.Cut
import Latchkey.Proofs.Text.Lowercase
import Latchkey.Proofs.Text.Trim

namespace Latchkey

namespace Email

theorem not_isBlank_of_isDomain {chars : List Char} (domain : isDomain chars = true) :
    ∀ char ∈ chars, Text.isBlank char = false := by
  intro char member
  simp only [isDomain, Bool.and_eq_true, decide_eq_true_eq, List.all_eq_true] at domain
  rcases Text.mem_part_of_mem '.' member with rfl | ⟨part, among, within⟩
  · decide
  · have label := domain.2 part among
    simp only [isLabel, Bool.and_eq_true, List.all_eq_true, Bool.or_eq_true, beq_iff_eq] at label
    rcases label.2 char within with alphanumeric | rfl
    · exact Text.not_isBlank_of_isAlphanum alphanumeric
    · decide

theorem not_isBlank_of_isAddress {chars : List Char} (address : isAddress chars = true) :
    ∀ char ∈ chars, Text.isBlank char = false := by
  unfold isAddress at address
  cases cut : chars.span (· != '@') with
  | mk before found =>
      rw [cut] at address
      cases found with
      | nil => cases address
      | cons mark after =>
          obtain ⟨_sign, _absent, rfl⟩ := Text.span_ne_eq_cons cut
          obtain ⟨localPart, domain⟩ := Bool.and_eq_true_iff.mp address
          simp only [isLocalPart, Bool.and_eq_true, List.all_eq_true, Bool.not_eq_true']
            at localPart
          intro char member
          rw [List.mem_append, List.mem_cons] at member
          rcases member with inLocal | rfl | inDomain
          · exact (localPart.2 char inLocal).1
          · decide
          · exact not_isBlank_of_isDomain domain char inDomain

theorem parse_eq_ok {raw : String} {email : Email} :
    parse raw = .ok email ↔
      email.text = normalize raw ∧ email.text ≠ "" ∧ email.text.utf8ByteSize ≤ maxLength ∧
        isAddress email.text.toList = true := by
  obtain ⟨text⟩ := email
  simp only [parse, String.isEmpty_iff]
  generalize normalize raw = normal
  constructor
  · intro parsed
    split_ifs at parsed with empty long address
    cases parsed
    exact ⟨rfl, empty, Nat.not_lt.mp long, address⟩
  · rintro ⟨rfl, nonempty, short, address⟩
    rw [if_neg nonempty, if_neg (Nat.not_lt.mpr short), if_pos address]

theorem normalize_text {raw : String} {email : Email} (parsed : parse raw = .ok email) :
    normalize email.text = email.text := by
  obtain ⟨normal, _nonempty, _short, address⟩ := parse_eq_ok.mp parsed
  unfold normalize Text.trim
  rw [Text.trimChars_of_not_isBlank (not_isBlank_of_isAddress address), String.ofList_toList,
    normal]
  exact Text.toLowercase_toLowercase _

theorem parse_text {raw : String} {email : Email} (parsed : parse raw = .ok email) :
    parse email.text = .ok email := by
  obtain ⟨_normal, accepted⟩ := parse_eq_ok.mp parsed
  exact parse_eq_ok.mpr ⟨(normalize_text parsed).symm, accepted⟩

end Email

end Latchkey
