/-
Issuing tokens and reading them back. A token is three texts between dots: header,
claims and signature, the first two of them the URL-safe Base64 form of JSON. The
signature is the keyed hash of the other two as they stand. A token is accepted only
with that signature, from this issuer, for this audience, of the right kind, within
its time and with claims that name an account.
-/

import Latchkey.Digest.Sha256
import Latchkey.Secret
import Latchkey.Settings
import Latchkey.Token.Claims
import Latchkey.Token.Header

namespace Latchkey.Token

open Time (Instant Span)

structure Issuer where
  secret : List UInt8
  name : String
  audience : String
  accessSpan : Span
  refreshSpan : Span
  deriving DecidableEq

namespace Issuer

/-- The issuer of a configuration; it needs a secret. -/
def ofSettings (settings : Settings) : Except Failure Issuer :=
  if settings.tokenSecret.isEmpty then
    .error (.internal "JWT signing secret must not be empty")
  else
    .ok
      { secret := settings.tokenSecret
        name := settings.tokenIssuer
        audience := settings.tokenAudience
        accessSpan := settings.accessSpan
        refreshSpan := settings.refreshSpan }

def lastSecond : Int := 9223372036854775807

def tokenIdLength : Nat := 24

def span (issuer : Issuer) : Kind → Span
  | .access => issuer.accessSpan
  | .refresh => issuer.refreshSpan

def claims (issuer : Issuer) (kind : Kind) (identity : Identity) (second : Int)
    (random : List UInt8) : IssuedClaims :=
  { issuer := issuer.name
    audience := issuer.audience
    identity, kind
    tokenId := Secret.text random
    issuedAt := second
    expiresAt := min (second + min (issuer.span kind).wholeSeconds lastSecond) lastSecond }

def segment (value : Json.Value) : List Char :=
  Base64.encodeChars .urlSafe (Text.Utf8.encodeChars value.chars)

def signature (issuer : Issuer) (message : List Char) : List Char :=
  Base64.encodeChars .urlSafe (Digest.Sha256.hmac issuer.secret (Text.Utf8.encodeChars message))

def sealed (issuer : Issuer) (message : List Char) : List Char :=
  message ++ '.' :: issuer.signature message

def encode (issuer : Issuer) (claims : IssuedClaims) : String :=
  String.ofList (issuer.sealed (segment Header.issued ++ '.' :: segment claims.json))

def issue (issuer : Issuer) (kind : Kind) (identity : Identity) (second : Int)
    (random : List UInt8) : String :=
  issuer.encode (issuer.claims kind identity second random)

def cutAtLastDot? (chars : List Char) : Option (List Char × List Char) :=
  match chars.reverse.span (· != '.') with
  | (_, []) => none
  | (after, _ :: before) => some (before.reverse, after.reverse)

def verified? (issuer : Issuer) (token : String) : Option Claims := do
  let (message, signature) ← cutAtLastDot? token.toList
  let (header, payload) ← cutAtLastDot? message
  let header ← Base64.decodeChars? .urlSafe header
  if Header.isAccepted header ∧ signature = issuer.signature message then
    Claims.parse? (← Base64.decodeChars? .urlSafe payload)
  else none

/-- Whether claims are this issuer's, for its audience, and hold at a second. -/
def admits (issuer : Issuer) (claims : Claims) (second : Int) : Bool :=
  claims.issuers.contains issuer.name && claims.audiences.contains issuer.audience
    && decide (second ≤ claims.expiresAt) && decide (claims.validFrom ≤ second)

def nonempty? (claim : Option String) : Option String := claim.filter (!·.isEmpty)

/-- Whom claims of the right kind name: by subject or else by user id, and by email. -/
def identity? (kind : Kind) (claims : Claims) : Option Identity := do
  let _ ← nonempty? claims.tokenId
  if claims.kind = some kind.name then
    let subject ← nonempty? claims.subject <|> nonempty? claims.userId
    let id ← AccountId.ofText? subject
    let email ← (Email.parse (← nonempty? claims.email)).toOption
    pure { id, email, role := Role.ofClaim claims.role }
  else none

def read? (issuer : Issuer) (kind : Kind) (token : String) (second : Int) : Option Identity := do
  let claims ← issuer.verified? token
  if issuer.admits claims second then identity? kind claims else none

def read (issuer : Issuer) (kind : Kind) (token : String) (second : Int) :
    Except Failure Identity :=
  match issuer.read? kind token second with
  | some identity => .ok identity
  | none => .error kind.rejection

end Issuer

end Latchkey.Token
