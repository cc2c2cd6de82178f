/-
What a token says. Issued claims stand in a fixed order. Claims that are read must say
who issued them, for whom, from when and until when; whatever else is needed is looked
at by the reader of tokens. A known claim may be there once only.
-/

import Latchkey.Json.Printer
import Latchkey.Json.Record
import Latchkey.Token.Basic

namespace Latchkey.Token

open Json (Value)

/-- The claims of an issued token; times are seconds since the start of 1970. -/
structure IssuedClaims where
  issuer : String
  audience : String
  identity : Identity
  tokenId : String
  issuedAt : Int
  expiresAt : Int
  kind : Kind
  deriving DecidableEq, Repr

/-- The claims as written. The account is named twice, and a token is valid from the second
in which it was issued. -/
def IssuedClaims.json (claims : IssuedClaims) : Value :=
  let id := claims.identity.id.text
  .object [
    ("iss", .text claims.issuer),
    ("aud", .text claims.audience),
    ("sub", .text id),
    ("jti", .text claims.tokenId),
    ("iat", .number (.whole claims.issuedAt)),
    ("nbf", .number (.whole claims.issuedAt)),
    ("exp", .number (.whole claims.expiresAt)),
    ("type", .text claims.kind.name),
    ("user_id", .text id),
    ("email", .text claims.identity.email.text),
    ("role", .text claims.identity.role.code)]

structure Claims where
  issuers : List String
  audiences : List String
  validFrom : Nat
  expiresAt : Nat
  kind : Option String
  tokenId : Option String
  subject : Option String
  userId : Option String
  email : Option String
  role : Option String
  deriving DecidableEq, Repr

/-- The second that a number stands for, the nearest one for a fraction. Seconds fit 64
bits. -/
def secondOf? : Value → Option Nat
  | .number (.whole value) => if 0 ≤ value then some value.toNat else none
  | .number (.float negative magnitude) =>
      if negative ∧ !magnitude.isZero then none
      else if magnitude.round < Json.wordBound then some magnitude.round
      else none
  | _ => none

def namesOf? : Value → Option (List String)
  | .text name => some [name]
  | .list items => items.mapM Value.text?
  | _ => none

def Claims.fields : Json.Fields :=
  let optionalText := Json.optionalField Json.textField
  let anything := Json.readValue (Json.maxDepth - 1)
  [("iss", anything), ("aud", anything), ("nbf", anything), ("exp", anything),
    ("type", optionalText), ("jti", optionalText), ("sub", optionalText),
    ("user_id", optionalText), ("email", optionalText), ("role", optionalText)]

/-- The claims that are found, if those that must be there are. -/
def Claims.ofFields? (found : List (String × Value)) : Option Claims := do
  let issuers ← (found.lookup "iss").bind namesOf?
  let audiences ← (found.lookup "aud").bind namesOf?
  let validFrom ← (found.lookup "nbf").bind secondOf?
  let expiresAt ← (found.lookup "exp").bind secondOf?
  pure {
    issuers, audiences, validFrom, expiresAt
    kind := Json.textOf? found "type"
    tokenId := Json.textOf? found "jti"
    subject := Json.textOf? found "sub"
    userId := Json.textOf? found "user_id"
    email := Json.textOf? found "email"
    role := Json.textOf? found "role" }

def Claims.parse? (bytes : List UInt8) : Option Claims :=
  if (Json.skipBlanks bytes).head? = some 0x7B then
    match Json.readAll (Json.readRecord Claims.fields []) bytes with
    | .ok found => Claims.ofFields? found
    | .error _ => none
  else none

end Latchkey.Token
