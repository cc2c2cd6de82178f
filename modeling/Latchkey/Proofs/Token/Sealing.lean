/-
The three parts of a token. Cutting twice at the last dot finds the parts of a text that
has exactly two dots, and nothing else gets through: the alphabet of the parts has no dot,
so that what is cut off is decoded only if it holds none.
-/

import Latchkey.Proofs.Text.Cut
import Latchkey.Token.Issuer

namespace Latchkey.Token.Issuer

open Text.Utf8 (encodeChars)

theorem cutAtLastDot?_append (before : List Char) {after : List Char} (noDot : '.' ∉ after) :
    cutAtLastDot? (before ++ '.' :: after) = some (before, after) := by
  have reversed : (before ++ '.' :: after).reverse = after.reverse ++ '.' :: before.reverse := by
    simp
  have noDotReversed : '.' ∉ after.reverse := fun member => noDot (List.mem_reverse.mp member)
  rw [cutAtLastDot?, reversed, Text.span_ne_of_notMem noDotReversed]
  simp only [List.reverse_reverse]

theorem cutAtLastDot?_eq_some {chars before after : List Char} :
    cutAtLastDot? chars = some (before, after) ↔
      '.' ∉ after ∧ chars = before ++ '.' :: after := by
  constructor
  · intro found
    unfold cutAtLastDot? at found
    cases cut : chars.reverse.span (· != '.') with
    | mk last others =>
        rw [cut] at found
        cases others with
        | nil => cases found
        | cons mark first =>
            obtain ⟨_dot, noDot, whole⟩ := Text.span_ne_eq_cons cut
            cases found
            refine ⟨fun member => noDot (List.mem_reverse.mp member), ?_⟩
            rw [← List.reverse_reverse chars, whole]
            simp
  · rintro ⟨noDot, rfl⟩
    exact cutAtLastDot?_append before noDot

theorem dot_notMem_of_decodeChars? {chars : List Char} {bytes : List UInt8}
    (decoded : Base64.decodeChars? .urlSafe chars = some bytes) : '.' ∉ chars := by
  intro member
  have symbol := Base64.isSome_value?_of_decodeChars? decoded '.' member
  revert symbol
  decide

theorem dot_notMem_encodeChars (bytes : List UInt8) :
    '.' ∉ Base64.encodeChars .urlSafe bytes :=
  dot_notMem_of_decodeChars? (Base64.decodeChars?_encodeChars .urlSafe bytes)

theorem splitOn_dot_sealed {issuer : Issuer} {header payload : List Char}
    (headerNoDot : '.' ∉ header) (payloadNoDot : '.' ∉ payload) :
    (issuer.sealed (header ++ '.' :: payload)).splitOn '.' =
      [header, payload, issuer.signature (header ++ '.' :: payload)] := by
  have noDot : ∀ part ∈ [header, payload, issuer.signature (header ++ '.' :: payload)],
      '.' ∉ part := by
    simp only [List.forall_mem_cons]
    exact ⟨headerNoDot, payloadNoDot, dot_notMem_encodeChars _, by simp⟩
  rw [← List.splitOn_intercalate '.' noDot (List.cons_ne_nil _ _)]
  simp [sealed, List.intercalate_cons_cons]

theorem eq_sealed_of_splitOn {issuer : Issuer} {chars header payload : List Char}
    (parts : chars.splitOn '.' =
      [header, payload, issuer.signature (header ++ '.' :: payload)]) :
    chars = issuer.sealed (header ++ '.' :: payload) := by
  calc chars = ['.'].intercalate (chars.splitOn '.') := (List.intercalate_splitOn '.').symm
    _ = issuer.sealed (header ++ '.' :: payload) := by
      rw [parts]
      simp [sealed, List.intercalate_cons_cons]

/-- What a signed token is: three parts between dots, of which the last is the signature of the
first two as they stand, the first a header that names the algorithm and the second claims. -/
theorem verified?_eq_some {issuer : Issuer} {token : String} {claims : Claims} :
    issuer.verified? token = some claims ↔
      ∃ header payload headerBytes payloadBytes,
        token.toList.splitOn '.' =
          [header, payload, issuer.signature (header ++ '.' :: payload)] ∧
        Base64.decodeChars? .urlSafe header = some headerBytes ∧
        Header.isAccepted headerBytes = true ∧
        Base64.decodeChars? .urlSafe payload = some payloadBytes ∧
        Claims.parse? payloadBytes = some claims := by
  constructor
  · intro verified
    simp only [verified?, Option.bind_eq_bind, Option.bind_eq_some_iff] at verified
    obtain ⟨⟨message, signature⟩, outer, ⟨header, payload⟩, inner, headerBytes, headerRead,
      verified⟩ := verified
    split at verified
    case isFalse => cases verified
    case isTrue trusted =>
      obtain ⟨payloadBytes, payloadRead, parsed⟩ := Option.bind_eq_some_iff.mp verified
      obtain ⟨_signatureNoDot, whole⟩ := cutAtLastDot?_eq_some.mp outer
      obtain ⟨_payloadNoDot, rfl⟩ := cutAtLastDot?_eq_some.mp inner
      refine ⟨header, payload, headerBytes, payloadBytes, ?_, headerRead, trusted.1, payloadRead,
        parsed⟩
      have signed : signature = issuer.signature (header ++ '.' :: payload) := trusted.2
      rw [whole, signed]
      -- what can be decoded has no dot, so that there are no more parts than these
      exact splitOn_dot_sealed (dot_notMem_of_decodeChars? headerRead)
        (dot_notMem_of_decodeChars? payloadRead)
  · rintro ⟨header, payload, headerBytes, payloadBytes, parts, headerRead, accepted, payloadRead,
      parsed⟩
    have outer : cutAtLastDot? token.toList =
        some (header ++ '.' :: payload, issuer.signature (header ++ '.' :: payload)) := by
      rw [eq_sealed_of_splitOn parts]
      exact cutAtLastDot?_append _ (dot_notMem_encodeChars _)
    have inner := cutAtLastDot?_append header (dot_notMem_of_decodeChars? payloadRead)
    simp [verified?, outer, inner, headerRead, accepted, payloadRead, parsed]

end Latchkey.Token.Issuer
