/-
What this service needs to sign people in with Google: the credentials of a client and
the URL to which people come back. Without all three of them there is no such sign-in.
-/

import Latchkey.Text.Blank
import Latchkey.Text.Percent
import Latchkey.Text.Quoted
import Latchkey.Time.Span

namespace Latchkey.Google

open Time (Span)

structure Credentials where
  clientId : String
  clientSecret : String
  redirectUrl : String
  timeout : Span := Span.ofSeconds 10
  deriving DecidableEq, Repr

namespace Credentials

def isComplete (credentials : Credentials) : Bool :=
  [credentials.clientId, credentials.clientSecret, credentials.redirectUrl].all
    fun part => !Text.isBlankText part

def incompleteMessage : String := "Google OAuth needs a client id, client secret and redirect URL"

def shown (credentials : Credentials) : String :=
  Text.shownRecord "GoogleOAuthConfig" [
    ("client_id", Text.quoted credentials.clientId),
    ("client_secret", Text.quoted "[REDACTED]"),
    ("redirect_url", Text.quoted credentials.redirectUrl),
    ("timeout", credentials.timeout.shown)]

def consentPage : String := "https://accounts.google.com/o/oauth2/auth"

def scopes : String := "openid email profile"

def consentParameters (credentials : Credentials) (state : String) : List (String × String) :=
  [("client_id", credentials.clientId),
    ("redirect_uri", credentials.redirectUrl),
    ("response_type", "code"),
    ("scope", scopes),
    ("state", state),
    ("access_type", "offline")]

def consentUrl (credentials : Credentials) (state : String) : String :=
  consentPage ++ "?" ++ "&".intercalate ((credentials.consentParameters state).map
    fun parameter => parameter.1 ++ "=" ++ Text.Percent.encodeComponent parameter.2)

end Credentials

end Latchkey.Google
