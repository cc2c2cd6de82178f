/-
What the reader of tokens asks of verified claims, each condition on its own, and what it
answers: the identity that the claims name, or the rejection of the kind that was asked for.
-/

import Latchkey.Proofs.Result
import Latchkey.Token.Issuer

namespace Latchkey.Token

/-- Whether a claim is there and not empty. -/
def IsPresent (claim : Option String) (text : String) : Prop := claim = some text ∧ text ≠ ""

/-- The text that names the account: the subject or, where that is missing or empty, the user
id. -/
def Claims.HasSubject (claims : Claims) (text : String) : Prop :=
  IsPresent claims.subject text ∨
    (∀ other, ¬IsPresent claims.subject other) ∧ IsPresent claims.userId text

/-- Whether claims of a kind are complete and name an identity. -/
structure Claims.Names (claims : Claims) (kind : Kind) (identity : Identity) : Prop where
  tokenId : ∃ text, IsPresent claims.tokenId text
  kind : claims.kind = some kind.name
  subject : ∃ text, claims.HasSubject text ∧ AccountId.ofText? text = some identity.id
  email : ∃ text, IsPresent claims.email text ∧ Email.parse text = .ok identity.email
  role : identity.role = .admin ↔ claims.role = some "admin"

namespace Issuer

theorem nonempty?_eq_some {claim : Option String} {text : String} :
    nonempty? claim = some text ↔ IsPresent claim text := by
  cases claim with
  | none => simp [nonempty?, IsPresent]
  | some other =>
      simp only [nonempty?, IsPresent, Option.filter_eq_some_iff, Bool.not_eq_true',
        String.isEmpty_eq_false_iff]

theorem subject_eq_some {claims : Claims} {text : String} :
    (nonempty? claims.subject <|> nonempty? claims.userId) = some text ↔
      claims.HasSubject text := by
  unfold Claims.HasSubject
  cases first : nonempty? claims.subject with
  | none =>
      have absent : ∀ other, ¬IsPresent claims.subject other := by
        intro other present
        rw [nonempty?_eq_some.mpr present] at first
        cases first
      simp [absent, nonempty?_eq_some]
  | some subject =>
      have present := nonempty?_eq_some.mp first
      have chosen : (some subject <|> nonempty? claims.userId) = some subject := rfl
      rw [chosen, ← first, nonempty?_eq_some]
      constructor
      · exact Or.inl
      · rintro (found | ⟨absent, _userId⟩)
        · exact found
        · exact absurd present (absent subject)

theorem identity?_eq_some {kind : Kind} {claims : Claims} {identity : Identity} :
    identity? kind claims = some identity ↔ claims.Names kind identity := by
  constructor
  · intro read
    obtain ⟨tokenId, tokenIdPresent, read⟩ := Option.bind_eq_some_iff.mp read
    split at read
    case isFalse => cases read
    case isTrue kindIs =>
      simp only [Option.bind_eq_bind, Option.bind_eq_some_iff,
        Result.toOption_eq_some] at read
      obtain ⟨subject, hasSubject, id, idRead, text, textPresent, email, parsed, made⟩ := read
      cases made
      exact {
        tokenId := ⟨tokenId, nonempty?_eq_some.mp tokenIdPresent⟩
        kind := kindIs
        subject := ⟨subject, subject_eq_some.mp hasSubject, idRead⟩
        email := ⟨text, nonempty?_eq_some.mp textPresent, parsed⟩
        role := Role.ofClaim_eq_admin_iff }
  · intro names
    obtain ⟨tokenId, tokenIdPresent⟩ := names.tokenId
    obtain ⟨subject, hasSubject, idRead⟩ := names.subject
    obtain ⟨text, textPresent, parsed⟩ := names.email
    have role : Role.ofClaim claims.role = identity.role :=
      Role.eq_iff_admin_iff.mpr (Role.ofClaim_eq_admin_iff.trans names.role.symm)
    unfold identity?
    rw [nonempty?_eq_some.mpr tokenIdPresent, if_pos names.kind, subject_eq_some.mpr hasSubject,
      nonempty?_eq_some.mpr textPresent]
    simp [idRead, parsed, Except.toOption, role]

theorem admits_iff {issuer : Issuer} {claims : Claims} {second : Int} :
    issuer.admits claims second = true ↔
      issuer.name ∈ claims.issuers ∧ issuer.audience ∈ claims.audiences ∧
        second ≤ claims.expiresAt ∧ claims.validFrom ≤ second := by
  simp only [admits, Bool.and_eq_true, List.contains_iff_mem, decide_eq_true_eq, and_assoc]

theorem read_eq_ok {issuer : Issuer} {kind : Kind} {token : String} {second : Int}
    {identity : Identity} :
    issuer.read kind token second = .ok identity ↔
      ∃ claims, issuer.verified? token = some claims ∧ issuer.admits claims second = true ∧
        claims.Names kind identity := by
  have accepted : issuer.read kind token second = .ok identity ↔
      issuer.read? kind token second = some identity := by
    unfold read
    cases issuer.read? kind token second <;> simp
  rw [accepted]
  constructor
  · intro read
    obtain ⟨claims, verified, named⟩ := Option.bind_eq_some_iff.mp read
    split at named
    case isFalse => cases named
    case isTrue admitted => exact ⟨claims, verified, admitted, identity?_eq_some.mp named⟩
  · rintro ⟨claims, verified, admitted, names⟩
    simp [read?, verified, admitted, identity?_eq_some.mpr names]

theorem read_eq_rejection {issuer : Issuer} {kind : Kind} {token : String} {second : Int}
    (refused : ∀ identity, issuer.read kind token second ≠ .ok identity) :
    issuer.read kind token second = .error kind.rejection := by
  unfold read at refused ⊢
  cases found : issuer.read? kind token second with
  | none => rfl
  | some identity =>
      rw [found] at refused
      exact absurd rfl (refused identity)

end Issuer

end Latchkey.Token
