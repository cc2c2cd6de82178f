/-
Issued tokens read back. The claims that are found are the ones that were written, so that a
token names the identity for which it was issued, to every reader with the same secret, issuer
and audience, from the second in which it was issued until it expires.
-/

import Latchkey.Proofs.Account.IdText
import Latchkey.Proofs.Account.NormalEmail
import Latchkey.Proofs.Json.Record
import Latchkey.Proofs.Token.Acceptance
import Latchkey.Proofs.Token.Sealing

namespace Latchkey.Token

open Json (Fits Reads Value)
open Text.Utf8 (encodeChars)

def IssuedClaims.received (claims : IssuedClaims) : Claims :=
  let id := claims.identity.id.text
  { issuers := [claims.issuer]
    audiences := [claims.audience]
    validFrom := claims.issuedAt.toNat
    expiresAt := claims.expiresAt.toNat
    kind := some claims.kind.name
    tokenId := some claims.tokenId
    subject := some id
    userId := some id
    email := some claims.identity.email.text
    role := some claims.identity.role.code }

/-- Whether the times of issued claims fit 64 bits. -/
structure IssuedClaims.InRange (claims : IssuedClaims) : Prop where
  issuedAt : 0 ≤ claims.issuedAt ∧ claims.issuedAt < Json.wordBound
  expiresAt : 0 ≤ claims.expiresAt ∧ claims.expiresAt < Json.wordBound

theorem fits_json {claims : IssuedClaims} (inRange : claims.InRange) :
    ∀ member ∈ claims.json.fields, Fits Claims.fields member := by
  obtain ⟨issuer, audience, identity, tokenId, issuedAt, expiresAt, kind⟩ := claims
  obtain ⟨⟨issuedBound, issuedSmall⟩, ⟨expiresBound, expiresSmall⟩⟩ := inRange
  obtain ⟨issued, rfl⟩ := Int.eq_ofNat_of_zero_le issuedBound
  obtain ⟨expires, rfl⟩ := Int.eq_ofNat_of_zero_le expiresBound
  have anyText (text : String) : Reads (Json.readValue (Json.maxDepth - 1)) (.text text) :=
    Json.reads_readValue_text 125 text
  have optionalText (text : String) : Reads (Json.optionalField Json.textField) (.text text) :=
    Json.reads_optionalField (Json.reads_textField text)
  simp only [IssuedClaims.json, Value.fields, List.forall_mem_cons]
  refine ⟨.declared rfl (anyText _), .declared rfl (anyText _), .declared rfl (optionalText _),
    .declared rfl (optionalText _), .undeclared rfl (Json.isSkipped_whole _),
    .declared rfl (Json.reads_readValue_whole 125 (Int.ofNat_lt.mp issuedSmall)),
    .declared rfl (Json.reads_readValue_whole 125 (Int.ofNat_lt.mp expiresSmall)),
    .declared rfl (optionalText _), .declared rfl (optionalText _), .declared rfl (optionalText _),
    .declared rfl (optionalText _), by simp⟩

theorem secondOf?_whole {second : Int} (bound : 0 ≤ second) :
    secondOf? (.number (.whole second)) = some second.toNat :=
  if_pos bound

private theorem ofFields?_known {claims : IssuedClaims} (inRange : claims.InRange) :
    Claims.ofFields? (Json.known Claims.fields claims.json.fields) = some claims.received := by
  have issuers : (Json.known Claims.fields claims.json.fields).lookup "iss" =
      some (.text claims.issuer) := rfl
  have audiences : (Json.known Claims.fields claims.json.fields).lookup "aud" =
      some (.text claims.audience) := rfl
  have validFrom : (Json.known Claims.fields claims.json.fields).lookup "nbf" =
      some (.number (.whole claims.issuedAt)) := rfl
  have expiresAt : (Json.known Claims.fields claims.json.fields).lookup "exp" =
      some (.number (.whole claims.expiresAt)) := rfl
  rw [Claims.ofFields?, issuers, audiences, validFrom, expiresAt]
  simp only [Option.bind_some, secondOf?_whole inRange.issuedAt.1,
    secondOf?_whole inRange.expiresAt.1]
  rfl

theorem parse?_json {claims : IssuedClaims} (inRange : claims.InRange) :
    Claims.parse? (encodeChars claims.json.chars) = some claims.received := by
  have distinct : (claims.json.fields.map (·.1)).Nodup := by
    rw [show claims.json.fields.map (·.1) = ["iss", "aud", "sub", "jti", "iat", "nbf", "exp",
      "type", "user_id", "email", "role"] from rfl]
    decide
  have read : Json.readAll (Json.readRecord Claims.fields []) (encodeChars claims.json.chars) =
      .ok (Json.known Claims.fields claims.json.fields) :=
    Json.readRecord_written (fits_json inRange) distinct (by simp)
  have opened : (Json.skipBlanks (encodeChars claims.json.chars)).head? = some 0x7B := rfl
  rw [Claims.parse?, if_pos opened, read]
  exact ofFields?_known inRange

theorem Header.isAccepted_issued :
    Header.isAccepted (encodeChars Header.issued.chars) = true := by
  decide +kernel

namespace Issuer

theorem verified?_encode (issuer : Issuer) {claims : IssuedClaims} (inRange : claims.InRange) :
    issuer.verified? (issuer.encode claims) = some claims.received := by
  have parts : (issuer.encode claims).toList.splitOn '.' =
      [segment Header.issued, segment claims.json,
        issuer.signature (segment Header.issued ++ '.' :: segment claims.json)] := by
    rw [encode, String.toList_ofList]
    exact splitOn_dot_sealed (dot_notMem_encodeChars _) (dot_notMem_encodeChars _)
  exact verified?_eq_some.mpr ⟨_, _, _, _, parts, Base64.decodeChars?_encodeChars _ _,
    Header.isAccepted_issued, Base64.decodeChars?_encodeChars _ _, parse?_json inRange⟩

theorem verified?_congr {reader issuer : Issuer} (secret : reader.secret = issuer.secret)
    (token : String) : reader.verified? token = issuer.verified? token := by
  have signature : reader.signature = issuer.signature := by
    funext message
    rw [Issuer.signature, Issuer.signature, secret]
  unfold verified?
  rw [signature]

theorem id_text_ne_empty (id : AccountId) : id.text ≠ "" := by
  intro empty
  have read := AccountId.ofText?_text id
  rw [empty] at read
  cases read

theorem names_received {claims : IssuedClaims} (tokenId : claims.tokenId ≠ "") {raw : String}
    (parsed : Email.parse raw = .ok claims.identity.email) :
    claims.received.Names claims.kind claims.identity where
  tokenId := ⟨claims.tokenId, rfl, tokenId⟩
  kind := rfl
  subject := ⟨_, .inl ⟨rfl, id_text_ne_empty _⟩, AccountId.ofText?_text _⟩
  email := ⟨_, ⟨rfl, (Email.parse_eq_ok.mp parsed).2.1⟩, Email.parse_text parsed⟩
  role := by
    rw [← Role.ofClaim_eq_admin_iff]
    exact iff_of_eq (congrArg (· = Role.admin) (Role.ofClaim_code claims.identity.role).symm)

/-- Who may read an issued token, and when. -/
theorem read_encode {reader issuer : Issuer} (secret : reader.secret = issuer.secret)
    {claims : IssuedClaims} (inRange : claims.InRange) {kind : Kind} {check : Int}
    {identity : Identity} :
    reader.read kind (issuer.encode claims) check = .ok identity ↔
      (reader.name = claims.issuer ∧ reader.audience = claims.audience ∧
        check ≤ claims.expiresAt ∧ claims.issuedAt ≤ check) ∧
      claims.received.Names kind identity := by
  have issued := Int.toNat_of_nonneg inRange.issuedAt.1
  have expires := Int.toNat_of_nonneg inRange.expiresAt.1
  rw [read_eq_ok]
  simp only [verified?_congr secret, verified?_encode issuer inRange, Option.some.injEq,
    exists_eq_left', admits_iff, IssuedClaims.received, List.mem_singleton, issued, expires]

theorem claims_inRange {issuer : Issuer} {kind : Kind} (lasting : 0 ≤ (issuer.span kind).nanos)
    (identity : Identity) {second : Int} (begun : 0 ≤ second) (fits : second ≤ lastSecond)
    (random : List UInt8) : (issuer.claims kind identity second random).InRange := by
  have whole : 0 ≤ (issuer.span kind).wholeSeconds := Int.tdiv_nonneg lasting (by decide)
  have bound : lastSecond < Json.wordBound := by decide
  refine ⟨⟨begun, ?_⟩, ?_, ?_⟩
  · change second < _
    omega
  · change 0 ≤ min (second + min (issuer.span kind).wholeSeconds lastSecond) lastSecond
    omega
  · change min (second + min (issuer.span kind).wholeSeconds lastSecond) lastSecond < _
    omega

theorem le_expiresAt {issuer : Issuer} {kind : Kind} (lasting : 0 ≤ (issuer.span kind).nanos)
    (identity : Identity) {second check : Int} (random : List UInt8) (begun : 0 ≤ second)
    (fits : check ≤ lastSecond)
    (early : check * Time.nanosPerSecond <
      second * Time.nanosPerSecond + (issuer.span kind).nanos) :
    check ≤ (issuer.claims kind identity second random).expiresAt := by
  have whole : (issuer.span kind).wholeSeconds = (issuer.span kind).nanos / 1000000000 :=
    Int.tdiv_eq_ediv_of_nonneg lasting
  have nanos : (Time.nanosPerSecond : Int) = 1000000000 := rfl
  rw [nanos] at early
  change check ≤ min (second + min (issuer.span kind).wholeSeconds lastSecond) lastSecond
  rw [whole]
  omega

/-- Whether a token that is issued in one second for a span is in its lifetime in another. -/
structure IsAlive (span : Time.Span) (issued check : Int) : Prop where
  begun : issued ≤ check
  notOver : check * Time.nanosPerSecond < issued * Time.nanosPerSecond + span.nanos
  fits : check ≤ lastSecond

section Issued

variable {issuer : Issuer} {kind : Kind} {identity : Identity} {second : Int} {random : List UInt8}

theorem IsAlive.lasting {span : Time.Span} {issued check : Int}
    (alive : IsAlive span issued check) : 0 ≤ span.nanos := by
  have begun := alive.begun
  have notOver := alive.notOver
  have nanos : (Time.nanosPerSecond : Int) = 1000000000 := rfl
  rw [nanos] at notOver
  omega

theorem read_issue_alive {raw : String} (parsed : Email.parse raw = .ok identity.email)
    (begun : 0 ≤ second) (drawn : random ≠ []) {check : Int}
    (alive : IsAlive (issuer.span kind) second check) :
    issuer.read kind (issuer.issue kind identity second random) check = .ok identity := by
  have inRange := claims_inRange alive.lasting identity begun
    (Int.le_trans alive.begun alive.fits) random
  have unexpired := le_expiresAt alive.lasting identity random begun alive.fits alive.notOver
  exact (read_encode rfl inRange).mpr ⟨⟨rfl, rfl, unexpired, alive.begun⟩,
    names_received (Base64.encode_ne_empty drawn) parsed⟩

theorem read_issue_other (lasting : 0 ≤ (issuer.span kind).nanos) (begun : 0 ≤ second)
    (fits : second ≤ lastSecond) {other : Kind} (different : other ≠ kind) (check : Int) :
    issuer.read other (issuer.issue kind identity second random) check =
      .error other.rejection := by
  have inRange := claims_inRange lasting identity begun fits random
  refine read_eq_rejection fun found accepted => different ?_
  have names := ((read_encode rfl inRange).mp accepted).2
  exact Kind.name_injective (Option.some.inj names.kind).symm

/-- A token that was issued names the same identity from its first second until its span is
over. It is of no use as a token of the other kind, for another issuer or audience, or past its
expiry. -/
theorem read_issue {raw : String} (parsed : Email.parse raw = .ok identity.email)
    (lasting : 0 ≤ (issuer.span kind).nanos) (begun : 0 ≤ second) (fits : second ≤ lastSecond)
    (drawn : random.length = tokenIdLength) :
    let token := issuer.issue kind identity second random
    (∀ check, second ≤ check → check ≤ lastSecond →
        check * Time.nanosPerSecond <
          second * Time.nanosPerSecond + (issuer.span kind).nanos →
        issuer.read kind token check = .ok identity) ∧
      (∀ other check, other ≠ kind → issuer.read other token check = .error other.rejection) ∧
      (∀ name check, name ≠ issuer.name →
        { issuer with name }.read kind token check = .error kind.rejection) ∧
      (∀ audience check, audience ≠ issuer.audience →
        { issuer with audience }.read kind token check = .error kind.rejection) ∧
      (∀ check, (issuer.claims kind identity second random).expiresAt < check →
        issuer.read kind token check = .error kind.rejection) := by
  have inRange := claims_inRange lasting identity begun fits random
  have nonempty : random ≠ [] := by
    rintro rfl
    cases drawn
  refine ⟨fun check since below early => ?_, fun other check different => ?_,
    fun name check different => ?_, fun audience check different => ?_, fun check late => ?_⟩
  · exact read_issue_alive parsed begun nonempty ⟨since, early, below⟩
  · exact read_issue_other lasting begun fits different check
  · refine read_eq_rejection fun found accepted => different ?_
    exact ((read_encode rfl inRange).mp accepted).1.1
  · refine read_eq_rejection fun found accepted => different ?_
    exact ((read_encode rfl inRange).mp accepted).1.2.1
  · refine read_eq_rejection fun found accepted => ?_
    have unexpired := ((read_encode rfl inRange).mp accepted).1.2.2.1
    omega

end Issued

/-- An issuer whose names need escapes. -/
def quotingIssuer : Issuer where
  secret := [0x6B, 0x65, 0x79]
  name := "the \"gate\""
  audience := "über\nall"
  accessSpan := .ofSeconds 900
  refreshSpan := .ofSeconds 604800

def quotedIdentity : Identity := ⟨⟨42⟩, ⟨"ä\"b@example.org"⟩, .admin⟩

theorem read_issue_lastSecond :
    Email.parse " Ä\"B@Example.ORG" = .ok quotedIdentity.email ∧
      quotingIssuer.read .access
        (quotingIssuer.issue .access quotedIdentity 1700000000 (List.replicate 24 0xFB))
        1700000899 = .ok quotedIdentity := by
  have parsed : Email.parse " Ä\"B@Example.ORG" = .ok quotedIdentity.email := by decide +kernel
  have accepted := (@read_issue quotingIssuer .access quotedIdentity 1700000000
    (List.replicate 24 0xFB) _ parsed (by decide) (by decide) (by decide) rfl).1
  exact ⟨parsed, accepted 1700000899 (by decide) (by decide) (by decide)⟩

end Issuer

end Latchkey.Token
