/-
Genuine tokens. What is accepted as a token is said here without the reader: the parts of the
text and their signature, the header, and each claim of the payload. The reader accepts exactly
the genuine tokens and answers everything else with one rejection.
-/

import Latchkey.Proofs.Decimal.Nearest
import Latchkey.Proofs.Json.Found
import Latchkey.Proofs.Token.Acceptance
import Latchkey.Proofs.Token.RoundTrip
import Latchkey.Proofs.Token.Sealing

namespace Latchkey.Token

open Decimal (Binary64)
open Json (Value)

theorem name?_eq_some {value : Value} {name : String} :
    value.name? = some name ↔ value = .text name ∨ value = .object [(name, .null)] := by
  unfold Value.name?
  split <;> simp_all

namespace Header

/-- Whether bytes are a header whose algorithm has a name, be it written as a text or as the
one field of an object that holds nothing. -/
def Names (name : String) (bytes : List UInt8) : Prop :=
  ∃ found value, Json.readAll (Json.readRecord fields []) bytes = .ok found ∧
    found.lookup "alg" = some value ∧ (value = .text name ∨ value = .object [(name, .null)])

private theorem shape_of_canRead {shape : Value → Bool} {value : Value}
    (canRead : Json.CanRead (shapedField shape) value) : shape value = true := by
  obtain ⟨bytes, rest, read⟩ := canRead
  obtain ⟨⟨other, after⟩, _found, read⟩ := Result.bind_eq_ok read
  dsimp only at read
  split at read
  case isTrue shaped =>
    cases read
    exact shaped
  case isFalse => cases read

theorem names_of_isAccepted {bytes : List UInt8} (accepted : isAccepted bytes = true) :
    Names "HS256" bytes := by
  unfold isAccepted at accepted
  dsimp only at accepted
  generalize required : (if (Json.skipBlanks bytes).head? = some 0x5B then fields.map (·.1)
    else ["alg"]) = names at accepted
  cases whole : Json.readAll (Json.readRecord fields names) bytes with
  | error fault =>
      rw [whole] at accepted
      cases accepted
  | ok found =>
      have distinct : (fields.map (·.1)).Nodup := by decide
      obtain ⟨areFound, all⟩ := Json.readRecord_areFound distinct whole
      have named : "alg" ∈ names := by
        rw [← required]
        split
        · decide
        · exact List.mem_singleton_self _
      obtain ⟨value, there⟩ := Option.isSome_iff_exists.mp (all "alg" named)
      have shaped := shape_of_canRead (areFound.canRead rfl there)
      have name : value.name? = some algorithm := by
        unfold isNameIn at shaped
        cases name : value.name? with
        | none =>
            rw [name] at shaped
            cases shaped
        | some other =>
            rw [name] at shaped
            exact congrArg some (by simpa using shaped)
      exact ⟨found, value, Json.readAll_unrequired whole, there, name?_eq_some.mp name⟩

end Header

/-- The second for which a number of a token stands. A number that is not whole stands for the
nearest second, or for the later one of two; no number stands for a second before the first. -/
inductive StandsFor : Value → Nat → Prop where
  | whole (second : Nat) : StandsFor (.number (.whole second)) second
  | float {negative : Bool} {magnitude : Binary64} {second : Nat}
      (notNegative : negative = true → magnitude.toRat = 0) (fits : second < 2 ^ 64)
      (near : magnitude.toRat - 1 / 2 < second ∧ (second : ℚ) ≤ magnitude.toRat + 1 / 2) :
      StandsFor (.number (.float negative magnitude)) second

theorem secondOf?_eq_some {value : Value} {second : Nat} :
    secondOf? value = some second ↔ StandsFor value second := by
  constructor
  · intro read
    unfold secondOf? at read
    split at read
    · split at read
      case isTrue bound =>
        cases read
        obtain ⟨second, rfl⟩ := Int.eq_ofNat_of_zero_le bound
        exact StandsFor.whole second
      case isFalse => cases read
    · split at read
      case isTrue => cases read
      case isFalse notNegative =>
        split at read
        case isTrue fits =>
          cases read
          refine StandsFor.float (fun negative => ?_) fits (Binary64.round_eq_iff.mp rfl)
          -- of the negative numbers, only zero gets through
          by_contra nonzero
          refine notNegative ⟨negative, ?_⟩
          rwa [Bool.not_eq_true', ← Bool.not_eq_true, Binary64.isZero_iff]
        case isFalse => cases read
    · cases read
  · intro stands
    cases stands with
    | whole second =>
        unfold secondOf?
        exact if_pos (Int.natCast_nonneg second)
    | @float negative magnitude second notNegative fits near =>
        have rounded := Binary64.round_eq_iff.mpr near
        have admitted : ¬(negative = true ∧ (!magnitude.isZero) = true) := by
          rintro ⟨isNegative, nonzero⟩
          rw [Binary64.isZero_iff.mpr (notNegative isNegative)] at nonzero
          cases nonzero
        unfold secondOf?
        dsimp only
        rw [if_neg admitted, rounded]
        exact if_pos fits

/-- Whether a value is a name, or a list of names with that one among them. -/
inductive NamesParty (name : String) : Value → Prop where
  | text : NamesParty name (.text name)
  | list {names : List String} (member : name ∈ names) : NamesParty name (.list (names.map .text))

private theorem mapM_text?_eq_some {items : List Value} {names : List String} :
    items.mapM Value.text? = some names ↔ items = names.map .text := by
  induction items generalizing names with
  | nil => cases names <;> simp
  | cons item items ih =>
      rw [List.mapM_cons]
      constructor
      · intro read
        simp only [Option.bind_eq_bind, Option.bind_eq_some_iff] at read
        obtain ⟨name, isText, later, laterRead, made⟩ := read
        cases made
        rw [Json.text?_eq_some.mp isText, ih.mp laterRead]
        rfl
      · intro same
        cases names with
        | nil => cases same
        | cons name later =>
            obtain ⟨rfl, sameLater⟩ := List.cons.inj same
            rw [ih.mpr sameLater]
            rfl

theorem namesOf?_iff {name : String} {value : Value} :
    (∃ names, namesOf? value = some names ∧ name ∈ names) ↔ NamesParty name value := by
  constructor
  · rintro ⟨names, read, member⟩
    unfold namesOf? at read
    split at read
    · cases read
      rw [List.mem_singleton] at member
      exact member ▸ NamesParty.text
    · next items =>
        rw [mapM_text?_eq_some.mp read]
        exact NamesParty.list member
    · cases read
  · intro party
    cases party with
    | text => exact ⟨[name], rfl, List.mem_singleton_self name⟩
    | @list names member => exact ⟨names, mapM_text?_eq_some.mpr rfl, member⟩

def HasText (found : List (String × Value)) (name text : String) : Prop :=
  found.lookup name = some (.text text) ∧ text ≠ ""

/-- Whether the fields of a payload, each of which is there once, make a complete set of claims
that an issuer accepts at a second from the holder of a token of some kind. -/
structure IsComplete (issuer : Issuer) (kind : Kind) (second : Int) (identity : Identity)
    (found : List (String × Value)) : Prop where
  issuedBy : ∃ value, found.lookup "iss" = some value ∧ NamesParty issuer.name value
  issuedFor : ∃ value, found.lookup "aud" = some value ∧ NamesParty issuer.audience value
  begun : ∃ value start, found.lookup "nbf" = some value ∧ StandsFor value start ∧
    start ≤ second
  unexpired : ∃ value expiry, found.lookup "exp" = some value ∧ StandsFor value expiry ∧
    second ≤ expiry
  ofKind : found.lookup "type" = some (.text kind.name)
  tokenId : ∃ text, HasText found "jti" text
  account : ∃ text, (HasText found "sub" text ∨
      (∀ other, ¬HasText found "sub" other) ∧ HasText found "user_id" text) ∧
    AccountId.ofText? text = some identity.id
  address : ∃ text, HasText found "email" text ∧ Email.parse text = .ok identity.email
  role : identity.role = .admin ↔ found.lookup "role" = some (.text "admin")

theorem isPresent_textOf? {found : List (String × Value)} {name text : String} :
    IsPresent (Json.textOf? found name) text ↔ HasText found name text := by
  rw [IsPresent, HasText, Json.textOf?_eq_some]

theorem ofFields?_eq_some {found : List (String × Value)} {claims : Claims} :
    Claims.ofFields? found = some claims ↔
      (found.lookup "iss").bind namesOf? = some claims.issuers ∧
        (found.lookup "aud").bind namesOf? = some claims.audiences ∧
        (found.lookup "nbf").bind secondOf? = some claims.validFrom ∧
        (found.lookup "exp").bind secondOf? = some claims.expiresAt ∧
        claims.kind = Json.textOf? found "type" ∧ claims.tokenId = Json.textOf? found "jti" ∧
        claims.subject = Json.textOf? found "sub" ∧ claims.userId = Json.textOf? found "user_id" ∧
        claims.email = Json.textOf? found "email" ∧ claims.role = Json.textOf? found "role" := by
  unfold Claims.ofFields?
  constructor
  · intro made
    simp only [Option.bind_eq_bind] at made
    obtain ⟨issuers, issuersRead, made⟩ := Option.bind_eq_some_iff.mp made
    obtain ⟨audiences, audiencesRead, made⟩ := Option.bind_eq_some_iff.mp made
    obtain ⟨validFrom, validFromRead, made⟩ := Option.bind_eq_some_iff.mp made
    obtain ⟨expiresAt, expiresAtRead, made⟩ := Option.bind_eq_some_iff.mp made
    cases made
    exact ⟨issuersRead, audiencesRead, validFromRead, expiresAtRead, rfl, rfl, rfl, rfl, rfl, rfl⟩
  · obtain ⟨issuers, audiences, validFrom, expiresAt, kind, tokenId, subject, userId, email,
      role⟩ := claims
    rintro ⟨issuersRead, audiencesRead, validFromRead, expiresAtRead, rfl, rfl, rfl, rfl, rfl, rfl⟩
    simp [issuersRead, audiencesRead, validFromRead, expiresAtRead]

theorem lookup_namesOf?_iff {found : List (String × Value)} {field name : String} :
    (∃ names, (found.lookup field).bind namesOf? = some names ∧ name ∈ names) ↔
      ∃ value, found.lookup field = some value ∧ NamesParty name value := by
  cases found.lookup field with
  | none => simp
  | some value => simp [namesOf?_iff]

theorem lookup_secondOf?_eq_some {found : List (String × Value)} {field : String} {second : Nat} :
    (found.lookup field).bind secondOf? = some second ↔
      ∃ value, found.lookup field = some value ∧ StandsFor value second := by
  cases found.lookup field with
  | none => simp
  | some value => simp [secondOf?_eq_some]

theorem hasSubject_iff {claims : Claims} {found : List (String × Value)} {text : String}
    (subject : claims.subject = Json.textOf? found "sub")
    (userId : claims.userId = Json.textOf? found "user_id") :
    claims.HasSubject text ↔
      HasText found "sub" text ∨
        (∀ other, ¬HasText found "sub" other) ∧ HasText found "user_id" text := by
  simp only [Claims.HasSubject, subject, userId, isPresent_textOf?]

theorem isComplete_iff {issuer : Issuer} {kind : Kind} {second : Int} {identity : Identity}
    {found : List (String × Value)} :
    (∃ claims, Claims.ofFields? found = some claims ∧ issuer.admits claims second = true ∧
      claims.Names kind identity) ↔ IsComplete issuer kind second identity found := by
  constructor
  · rintro ⟨claims, made, admitted, names⟩
    obtain ⟨issuers, audiences, validFrom, expiresAt, kindIs, tokenId, subject, userId, email,
      role⟩ := ofFields?_eq_some.mp made
    obtain ⟨byIssuer, forAudience, inTime, started⟩ := Issuer.admits_iff.mp admitted
    obtain ⟨start, startThere, startStands⟩ := lookup_secondOf?_eq_some.mp validFrom
    obtain ⟨expiry, expiryThere, expiryStands⟩ := lookup_secondOf?_eq_some.mp expiresAt
    obtain ⟨idText, idPresent, idRead⟩ := names.subject
    exact {
      issuedBy := lookup_namesOf?_iff.mp ⟨_, issuers, byIssuer⟩
      issuedFor := lookup_namesOf?_iff.mp ⟨_, audiences, forAudience⟩
      begun := ⟨start, _, startThere, startStands, started⟩
      unexpired := ⟨expiry, _, expiryThere, expiryStands, inTime⟩
      ofKind := Json.textOf?_eq_some.mp (kindIs ▸ names.kind)
      tokenId := by simpa only [tokenId, isPresent_textOf?] using names.tokenId
      account := ⟨idText, (hasSubject_iff subject userId).mp idPresent, idRead⟩
      address := by simpa only [email, isPresent_textOf?] using names.email
      role := by simpa only [role, Json.textOf?_eq_some] using names.role }
  · intro complete
    obtain ⟨issuers, issuersRead, byIssuer⟩ := lookup_namesOf?_iff.mpr complete.issuedBy
    obtain ⟨audiences, audiencesRead, forAudience⟩ := lookup_namesOf?_iff.mpr complete.issuedFor
    obtain ⟨startValue, start, startThere, startStands, started⟩ := complete.begun
    obtain ⟨expiryValue, expiry, expiryThere, expiryStands, inTime⟩ := complete.unexpired
    obtain ⟨idText, idPresent, idRead⟩ := complete.account
    let claims : Claims := {
      issuers, audiences
      validFrom := start
      expiresAt := expiry
      kind := Json.textOf? found "type"
      tokenId := Json.textOf? found "jti"
      subject := Json.textOf? found "sub"
      userId := Json.textOf? found "user_id"
      email := Json.textOf? found "email"
      role := Json.textOf? found "role" }
    have made : Claims.ofFields? found = some claims :=
      ofFields?_eq_some.mpr ⟨issuersRead, audiencesRead,
        lookup_secondOf?_eq_some.mpr ⟨startValue, startThere, startStands⟩,
        lookup_secondOf?_eq_some.mpr ⟨expiryValue, expiryThere, expiryStands⟩,
        rfl, rfl, rfl, rfl, rfl, rfl⟩
    refine ⟨claims, made, Issuer.admits_iff.mpr ⟨byIssuer, forAudience, inTime, started⟩, ?_⟩
    exact {
      tokenId := by simpa only [claims, isPresent_textOf?] using complete.tokenId
      kind := Json.textOf?_eq_some.mpr complete.ofKind
      subject := ⟨idText, (hasSubject_iff rfl rfl).mpr idPresent, idRead⟩
      email := by simpa only [claims, isPresent_textOf?] using complete.address
      role := by simpa only [claims, Json.textOf?_eq_some] using complete.role }

/-- The first two parts of a token, as they stand and decoded, and the claims that are found. -/
structure Evidence where
  headerText : List Char
  payloadText : List Char
  header : List UInt8
  payload : List UInt8
  found : List (String × Value)

/-- Whether the parts of a token support it: its third part is the signature of the first two,
its header names the algorithm, and its payload is an object with a complete set of claims, each
of which is there once. -/
structure Evidence.Supports (evidence : Evidence) (issuer : Issuer) (kind : Kind) (token : String)
    (second : Int) (identity : Identity) : Prop where
  parts : token.toList.splitOn '.' =
    [evidence.headerText, evidence.payloadText,
      Base64.encodeChars .urlSafe (Digest.Sha256.hmac issuer.secret
        (Text.Utf8.encodeChars (evidence.headerText ++ '.' :: evidence.payloadText)))]
  headerRead : Base64.decodeChars? .urlSafe evidence.headerText = some evidence.header
  algorithm : Header.Names "HS256" evidence.header
  wellShaped : Header.isAccepted evidence.header = true
  payloadRead : Base64.decodeChars? .urlSafe evidence.payloadText = some evidence.payload
  isObject : (Json.skipBlanks evidence.payload).head? = some 0x7B
  claimsRead : Json.readAll (Json.readRecord Claims.fields []) evidence.payload =
    .ok evidence.found
  distinct : (evidence.found.map (·.1)).Nodup
  complete : IsComplete issuer kind second identity evidence.found

def IsGenuine (issuer : Issuer) (kind : Kind) (token : String) (second : Int)
    (identity : Identity) : Prop :=
  ∃ evidence : Evidence, evidence.Supports issuer kind token second identity

theorem parse?_eq_some {bytes : List UInt8} {claims : Claims} :
    Claims.parse? bytes = some claims ↔
      (Json.skipBlanks bytes).head? = some 0x7B ∧
        ∃ found, Json.readAll (Json.readRecord Claims.fields []) bytes = .ok found ∧
          Claims.ofFields? found = some claims := by
  unfold Claims.parse?
  by_cases isObject : (Json.skipBlanks bytes).head? = some 0x7B
  · rw [if_pos isObject]
    cases Json.readAll (Json.readRecord Claims.fields []) bytes <;> simp [isObject]
  · simp [isObject]

theorem fields_distinct : (Claims.fields.map (·.1)).Nodup := by
  decide

theorem read_eq_ok_iff_isGenuine {issuer : Issuer} {kind : Kind} {token : String} {second : Int}
    {identity : Identity} :
    issuer.read kind token second = .ok identity ↔
      IsGenuine issuer kind token second identity := by
  rw [Issuer.read_eq_ok]
  constructor
  · rintro ⟨claims, verified, admitted, names⟩
    obtain ⟨headerText, payloadText, header, payload, parts, headerRead, accepted, payloadRead,
      parsed⟩ := Issuer.verified?_eq_some.mp verified
    obtain ⟨isObject, found, claimsRead, made⟩ := parse?_eq_some.mp parsed
    exact ⟨⟨headerText, payloadText, header, payload, found⟩, {
      parts, headerRead, payloadRead, isObject, claimsRead
      algorithm := Header.names_of_isAccepted accepted
      wellShaped := accepted
      distinct := (Json.readRecord_areFound fields_distinct claimsRead).1.distinct
      complete := isComplete_iff.mp ⟨claims, made, admitted, names⟩ }⟩
  · rintro ⟨⟨headerText, payloadText, header, payload, found⟩, supports⟩
    obtain ⟨claims, made, admitted, names⟩ := isComplete_iff.mpr supports.complete
    have parsed := parse?_eq_some.mpr ⟨supports.isObject, found, supports.claimsRead, made⟩
    have verified := Issuer.verified?_eq_some.mpr ⟨headerText, payloadText, header, payload,
      supports.parts, supports.headerRead, supports.wellShaped, supports.payloadRead, parsed⟩
    exact ⟨claims, verified, admitted, names⟩

theorem kind_eq_of_read {issuer : Issuer} {kind other : Kind} {token : String}
    {second check : Int} {identity stranger : Identity}
    (read : issuer.read kind token second = .ok identity)
    (reread : issuer.read other token check = .ok stranger) : other = kind := by
  obtain ⟨claims, verified, _admitted, names⟩ := Issuer.read_eq_ok.mp read
  obtain ⟨same, verifiedAgain, _admittedAgain, namesAgain⟩ := Issuer.read_eq_ok.mp reread
  rw [verified] at verifiedAgain
  cases verifiedAgain
  have kinds := names.kind
  rw [namesAgain.kind] at kinds
  exact Kind.name_injective (Option.some.inj kinds)

/-- Exactly the genuine tokens are accepted, with the identity that their claims name. Every
other text is answered with the rejection of the kind asked for, and no text is accepted as
tokens of two kinds, be it at different times. -/
theorem accepted_iff_genuine (issuer : Issuer) (kind : Kind) (token : String) (second : Int) :
    (∀ identity, issuer.read kind token second = .ok identity ↔
        IsGenuine issuer kind token second identity) ∧
      (issuer.read kind token second = .error kind.rejection ↔
        ∀ identity, ¬IsGenuine issuer kind token second identity) ∧
      (∀ identity other check, IsGenuine issuer kind token second identity → other ≠ kind →
        issuer.read other token check = .error other.rejection) := by
  refine ⟨fun identity => read_eq_ok_iff_isGenuine, ⟨fun refused identity genuine => ?_,
    fun none => ?_⟩, fun identity other check genuine different => ?_⟩
  · rw [read_eq_ok_iff_isGenuine.mpr genuine] at refused
    cases refused
  · exact Issuer.read_eq_rejection fun identity read =>
      none identity (read_eq_ok_iff_isGenuine.mp read)
  · exact Issuer.read_eq_rejection fun stranger reread =>
      different (kind_eq_of_read (read_eq_ok_iff_isGenuine.mpr genuine) reread)

/-- The last second of a refresh token that was issued with a span of a week. -/
theorem accepted_iff_genuine_issued :
    let token := Issuer.quotingIssuer.issue .refresh Issuer.quotedIdentity 1700000000
      (List.replicate 24 0xFB)
    IsGenuine Issuer.quotingIssuer .refresh token 1700604800 Issuer.quotedIdentity ∧
      Issuer.quotingIssuer.read .access token 1700604800 = .error .accessTokenRejected := by
  let claims := Issuer.quotingIssuer.claims .refresh Issuer.quotedIdentity 1700000000
    (List.replicate 24 0xFB)
  have inRange : claims.InRange :=
    Issuer.claims_inRange (by decide) _ (by decide) (by decide) _
  have parsed : Email.parse Issuer.quotedIdentity.email.text = .ok Issuer.quotedIdentity.email := by
    decide +kernel
  have names : claims.received.Names .refresh Issuer.quotedIdentity :=
    Issuer.names_received (by decide) parsed
  have read : Issuer.quotingIssuer.read .refresh (Issuer.quotingIssuer.encode claims) 1700604800 =
      .ok Issuer.quotedIdentity :=
    (Issuer.read_encode rfl inRange).mpr ⟨⟨rfl, rfl, by decide, by decide⟩, names⟩
  obtain ⟨accepted, _refused, exclusive⟩ := accepted_iff_genuine Issuer.quotingIssuer .refresh
    (Issuer.quotingIssuer.encode claims) 1700604800
  have genuine := (accepted _).mp read
  exact ⟨genuine, exclusive _ .access 1700604800 genuine (by decide)⟩

end Latchkey.Token
