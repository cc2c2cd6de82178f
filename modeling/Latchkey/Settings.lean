/-
The settings of the service: the secret and the lifetimes of tokens, the lockout, the
pepper of passwords, and the cookie that pins the state of a sign-in with a provider.
-/

import Latchkey.Account
import Latchkey.Cookie

namespace Latchkey

open Time (Span)

structure Settings where
  tokenSecret : List UInt8 := []
  accessSpan : Span := Span.ofSeconds 900
  refreshSpan : Span := Span.ofSeconds 604800
  tokenIssuer : String := "hexagon-api"
  tokenAudience : String := "hexagon-clients"
  threshold : Nat := 5
  lockSpan : Span := Span.ofSeconds 900
  pepper : Option (List UInt8) := none
  stateCookieName : String := "oauth_state"
  stateSpan : Span := Span.ofSeconds 300
  cookieSecure : Bool := true
  cookieSameSite : Cookie.SameSite := .lax
  deriving DecidableEq, Repr

namespace Settings

def secretLength : Nat := 32

/-- The standard settings under a random secret, with a cookie that needs no encrypted
connection. -/
def development (secret : List UInt8) : Settings := { tokenSecret := secret, cookieSecure := false }

def withRandomSecret (secret : List UInt8) : Settings := { tokenSecret := secret }

/-- When accounts are locked: after one failure at least, and no longer than an instant can
be moved. -/
def lockoutPolicy (settings : Settings) : LockoutPolicy :=
  { threshold := max settings.threshold 1, lockSpan := settings.lockSpan.capped }

def stateCookie (settings : Settings) : Cookie :=
  { name := settings.stateCookieName
    secure := settings.cookieSecure
    sameSite := settings.cookieSameSite
    maxAge := some settings.stateSpan }

def shown (settings : Settings) : String :=
  let redacted := Text.quoted "[REDACTED]"
  Text.shownRecord "AuthConfig" [
    ("jwt_secret", redacted),
    ("access_token_ttl", settings.accessSpan.shown),
    ("refresh_token_ttl", settings.refreshSpan.shown),
    ("token_issuer", Text.quoted settings.tokenIssuer),
    ("token_audience", Text.quoted settings.tokenAudience),
    ("max_failed_attempts", toString settings.threshold),
    ("lock_duration", settings.lockSpan.shown),
    ("password_pepper", Text.shownOption (settings.pepper.map fun _ => redacted)),
    ("oauth_state_cookie_name", Text.quoted settings.stateCookieName),
    ("oauth_state_ttl", settings.stateSpan.shown),
    ("cookie_secure", toString settings.cookieSecure),
    ("cookie_same_site", settings.cookieSameSite.name)]

end Settings

end Latchkey
