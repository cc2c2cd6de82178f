/-
Trading the code that Google sends back for the user whom it stands for: first the code
for an access token, then the token for the user. A request that cannot be sent, an
answer that is no success and a body that cannot be read each end the trade with a
message on what happened.
-/

import Latchkey.Google.Credentials
import Latchkey.Google.LooseBool
import Latchkey.Http.Client
import Latchkey.Http.Header
import Latchkey.Http.Status
import Latchkey.Json.Record
import Latchkey.Service

namespace Latchkey.Google.Exchange

open Http (Client)
open Http.Client (Call Outcome)

def tokenUrl : String := "https://oauth2.googleapis.com/token"

def userUrl : String := "https://www.googleapis.com/oauth2/v2/userinfo"

def form (credentials : Credentials) (code : String) : List (String × String) :=
  [("code", code),
    ("client_id", credentials.clientId),
    ("client_secret", credentials.clientSecret),
    ("redirect_uri", credentials.redirectUrl),
    ("grant_type", "authorization_code")]

def tokenCall (credentials : Credentials) (code : String) : Call :=
  { method := .post
    url := tokenUrl
    contentType := some "application/x-www-form-urlencoded"
    body := Text.Percent.encodeForm (form credentials code) }

/-- The request for the user; a token that no header can hold gives none. -/
def userCall? (token : String) : Option Call :=
  let authorization := "Bearer " ++ token
  if Http.isLegalValue (Text.Utf8.encode authorization) then
    some { method := .get, url := userUrl, authorization := some authorization }
  else none

def unsent (url : String) : String := s!"error sending request for url ({url})"

def unreadable : String := "error decoding response body"

def tokenIn? (body : List UInt8) : Option String := do
  let fields : Json.Fields := [("access_token", Json.textField)]
  let found ← (Json.readAll (Json.readRecord fields ["access_token"]) body).toOption
  Json.textOf? found "access_token"

def looseBoolField : Json.Reader Json.Value := fun bytes => do
  let (value, rest) ← Json.readValue (Json.maxDepth - 1) bytes
  match LooseBool.ofValue value with
  | .ok value => pure (.bool value, rest)
  | .error _ => .error .mismatched

/-- The user in the body of an answer. What is missing is empty, absent or false. -/
def userIn? (body : List UInt8) : Option ProviderUser := do
  let fields : Json.Fields :=
    [("email", Json.textField), ("name", Json.optionalField Json.textField),
      ("verified_email", looseBoolField)]
  let found ← (Json.readAll (Json.readRecord fields []) body).toOption
  pure
    { email := (Json.textOf? found "email").getD ""
      name := Json.textOf? found "name"
      emailVerified := match found.lookup "verified_email" with
        | some (.bool value) => value
        | _ => false }

def tokenOf : Outcome → Except String String
  | .failed => .error ("token request failed: " ++ unsent tokenUrl)
  | .answered status body =>
      if Http.isSuccess status then
        match body.bind tokenIn? with
        | some token => .ok token
        | none => .error ("invalid token response: " ++ unreadable)
      else
        .error (s!"token endpoint returned {Http.statusText status}: "
          ++ Text.Utf8.decodeLossy (body.getD []))

def userOf : Outcome → Except String ProviderUser
  | .failed => .error ("userinfo request failed: " ++ unsent userUrl)
  | .answered status body =>
      if Http.isSuccess status then
        match body.bind userIn? with
        | some user => .ok user
        | none => .error ("invalid userinfo response: " ++ unreadable)
      else .error s!"userinfo endpoint returned {Http.statusText status}"

def userFor (token : String) : Dialogue Client (Except String ProviderUser) :=
  match userCall? token with
  | none => .done (.error "userinfo request failed: builder error")
  | some call => .ask call fun outcome => .done (userOf outcome)

def trade (credentials : Credentials) (code : String) :
    Dialogue Client (Except String ProviderUser) :=
  .ask (tokenCall credentials code) fun outcome =>
    match tokenOf outcome with
    | .error message => .done (.error message)
    | .ok token => userFor token

def exchange (credentials : Credentials) (code : String) :
    Dialogue Client (Except Failure ProviderUser) := do
  pure ((← trade credentials code).mapError Failure.providerFailed)

end Latchkey.Google.Exchange
