/-
The configuration of a running service, read once from the variables of its
environment. A variable that is blank counts as missing. The variables are looked at in
a fixed order, and the first one that will not do is the one that is told.
-/

import Latchkey.Google.Credentials
import Latchkey.Settings

namespace Latchkey

open Time (Span)

inductive Deployment.Stage where
  | development
  | production
  deriving DecidableEq, Repr

inductive Deployment.StoreKind where
  | postgres
  | memory
  deriving DecidableEq, Repr

structure Deployment where
  stage : Deployment.Stage
  port : Nat
  store : Deployment.StoreKind
  databaseUrl : Option String
  origins : List String
  settings : Settings
  google : Option Google.Credentials
  deriving DecidableEq, Repr

namespace Deployment

abbrev Environment := String → Option String

def Environment.value? (environment : Environment) (name : String) : Option String :=
  (environment name).filter fun value => !Text.isBlankText value

def Stage.ofValue : Option String → Except String Stage
  | none => .ok development
  | some value =>
      let word := Text.trim value
      if word ∈ ["", "development", "dev"] then .ok development
      else if word ∈ ["production", "prod"] then .ok production
      else .error ("APP_ENV must be development or production, got " ++ Text.quoted word)

def StoreKind.ofValue : Option String → Except String StoreKind
  | none => .ok postgres
  | some value =>
      let word := Text.trim value
      if word ∈ ["", "postgres"] then .ok postgres
      else if word = "memory" then .ok memory
      else .error ("ACCOUNT_STORE must be postgres or memory, got " ++ Text.quoted word)

/-- A number below a bound, in decimal, between blanks; it may have a plus sign. -/
def number? (bound : Nat) (value : String) : Option Nat :=
  let chars := Text.trimChars value.toList
  let digits := if chars.head? = some '+' then chars.drop 1 else chars
  let number := digits.foldl (fun number char => number * 10 + (char.toNat - '0'.toNat)) 0
  if !digits.isEmpty ∧ digits.all Char.isDigit ∧ number < bound then some number else none

def defaultPort : Nat := 8088

def portOf : Option String → Except String Nat
  | none => .ok defaultPort
  | some value =>
      match number? 65536 value with
      | some port => .ok port
      | none => .error "PORT must be a port number"

def spanOf (name value : String) : Except String Span :=
  match number? 18446744073709551616 value with
  | none => .error (name ++ " must be a number of seconds")
  | some 0 => .error (name ++ " must be greater than zero")
  | some seconds => .ok (Span.ofSeconds seconds)

def spanOr (environment : Environment) (name : String) (default : Span) : Except String Span :=
  match environment.value? name with
  | none => .ok default
  | some value => spanOf name value

def thresholdOr (environment : Environment) (default : Nat) : Except String Nat :=
  match environment.value? "AUTH_MAX_FAILED_ATTEMPTS" with
  | none => .ok default
  | some value =>
      match number? 4294967296 value with
      | none | some 0 => .error "AUTH_MAX_FAILED_ATTEMPTS must be a positive number"
      | some threshold => .ok threshold

def databaseUrlOf (environment : Environment) (store : StoreKind) :
    Except String (Option String) :=
  let url := environment.value? "DATABASE_URL"
  if store = .postgres ∧ url.isNone then
    .error "DATABASE_URL must be set when ACCOUNT_STORE is postgres"
  else .ok url

def secretOf (environment : Environment) (stage : Stage) (random : List UInt8) :
    Except String (List UInt8) :=
  match environment.value? "AUTH_JWT_SECRET", stage with
  | some secret, _ => .ok (Text.Utf8.encode secret)
  | none, .development => .ok random
  | none, .production => .error "AUTH_JWT_SECRET must be set in production"

def googleOf (environment : Environment) : Option Google.Credentials :=
  let value := fun name => (environment.value? name).getD ""
  let credentials : Google.Credentials :=
    { clientId := value "AUTH_GOOGLE_CLIENT_ID"
      clientSecret := value "AUTH_GOOGLE_CLIENT_SECRET"
      redirectUrl := value "AUTH_GOOGLE_REDIRECT_URL" }
  if credentials.isComplete then some credentials else none

def defaultOrigins : String := "http://localhost:40922,http://127.0.0.1:40922"

def originsOf (value : Option String) : List String :=
  let pieces := (value.getD defaultOrigins).toList.splitOn ','
  ((pieces.map Text.trimChars).filter (!·.isEmpty)).map String.ofList

/-- The configuration of an environment, or what is wrong with it. `random` is the secret
of a service that was given none. -/
def ofEnvironment (environment : Environment) (random : List UInt8) :
    Except String Deployment := do
  let stage ← Stage.ofValue (environment.value? "APP_ENV")
  let store ← StoreKind.ofValue (environment.value? "ACCOUNT_STORE")
  let port ← portOf (environment.value? "PORT")
  let databaseUrl ← databaseUrlOf environment store
  let tokenSecret ← secretOf environment stage random
  let standard : Settings := {}
  let accessSpan ← spanOr environment "AUTH_TOKEN_TTL" standard.accessSpan
  let refreshSpan ← spanOr environment "AUTH_REFRESH_TTL" standard.refreshSpan
  let threshold ← thresholdOr environment standard.threshold
  let lockSpan ← spanOr environment "AUTH_LOCK_DURATION" standard.lockSpan
  pure
    { stage, port, store, databaseUrl
      origins := originsOf (environment.value? "FRONTEND_ORIGINS")
      settings :=
        { tokenSecret, accessSpan, refreshSpan, threshold, lockSpan
          pepper := (environment.value? "AUTH_PASSWORD_PEPPER").map Text.Utf8.encode
          cookieSecure := stage == .production }
      google := googleOf environment }

end Deployment

end Latchkey
