/-
The ways in which a request about accounts, sign-ins or tokens fails. Each has a
message for logs and a problem for the client. What happened inside the service, in
the database or at the identity provider is in the message and never in the problem.
-/

import Latchkey.Failure.Database
import Latchkey.Time.Text

namespace Latchkey

open Time (Instant)

inductive Failure where
  | wrongCredentials
  | locked (deadline : Instant)
  | refreshTokenRejected
  | accessTokenRejected
  | providerMissing
  | stateMissing
  | codeMissing
  | stateMismatch
  | providerEmailMissing
  | providerUserInvalid
  | providerEmailUnverified
  | emailTaken
  | accountMissing
  /-- A conditional write found a row that somebody else had written meanwhile. -/
  | staleWrite
  | invalidInput (message : String)
  | providerFailed (detail : String)
  | signingFailed (detail : String)
  | database (fault : DatabaseFault)
  | internal (detail : String)
  deriving DecidableEq, Repr

namespace Failure

def name : Failure → String
  | wrongCredentials => "InvalidCredentials"
  | locked _ => "AccountLocked"
  | refreshTokenRejected => "InvalidRefreshToken"
  | accessTokenRejected => "InvalidAccessToken"
  | providerMissing => "OAuthNotConfigured"
  | stateMissing => "MissingState"
  | codeMissing => "MissingCode"
  | stateMismatch => "StateMismatch"
  | providerEmailMissing => "MissingEmail"
  | providerUserInvalid => "InvalidOAuthUser"
  | providerEmailUnverified => "UnverifiedEmail"
  | emailTaken => "EmailTaken"
  | accountMissing => "AccountNotFound"
  | staleWrite => "StaleAccount"
  | invalidInput _ => "Validation"
  | providerFailed _ => "OAuthProvider"
  | signingFailed _ => "Token"
  | database _ => "Database"
  | internal _ => "Internal"

def message : Failure → String
  | wrongCredentials => "Invalid credentials"
  | locked _ => "Account is temporarily locked"
  | refreshTokenRejected => "Invalid refresh token"
  | accessTokenRejected => "Invalid access token"
  | providerMissing => "OAuth provider is not configured"
  | stateMissing => "OAuth state is required"
  | codeMissing => "OAuth code is required"
  | stateMismatch => "Invalid OAuth state"
  | providerEmailMissing => "OAuth provider did not return an email"
  | providerUserInvalid => "Invalid OAuth user"
  | providerEmailUnverified => "OAuth email is not verified"
  | emailTaken => "Email already exists"
  | accountMissing => "Account not found"
  | staleWrite => "Account was modified concurrently"
  | invalidInput message => message
  | providerFailed detail => "OAuth provider error: " ++ detail
  | signingFailed detail => "Token error: " ++ detail
  | database fault => "Database error: " ++ fault.message
  | internal detail => "Internal error: " ++ detail

def kind : Failure → Problem.Kind
  | wrongCredentials | refreshTokenRejected | accessTokenRejected | stateMismatch
  | providerEmailMissing | providerUserInvalid | providerEmailUnverified => .unauthorized
  | locked _ => .tooManyRequests
  | providerMissing => .notImplemented
  | stateMissing | codeMissing | invalidInput _ => .badRequest
  | emailTaken | staleWrite => .conflict
  | accountMissing => .notFound
  | providerFailed _ | signingFailed _ | database _ | internal _ => .internalServerError

/-- What a client may be told. A failure of this service or of one that it relies on is
told without its message. -/
def problem (failure : Failure) : Problem :=
  match failure with
  | locked deadline =>
      { kind := .tooManyRequests
        message := failure.message
        action := some ("Try again after " ++ deadline.text) }
  | providerFailed _ => { kind := .internalServerError, message := "OAuth login failed" }
  | _ =>
      if failure.kind = .internalServerError then
        { kind := .internalServerError, message := "Internal server error" }
      else { kind := failure.kind, message := failure.message }

/-- The answer to a request that fails. A database that is only unavailable is told apart
from other faults. -/
def response : Failure → Http.Response
  | database fault => fault.problem.response
  | failure => failure.problem.response

/-- A problem of the input stays one, with its bare message; any other is internal. -/
def ofProblem (problem : Problem) : Failure :=
  match problem.kind with
  | .badRequest | .unprocessableEntity => .invalidInput problem.message
  | _ => .internal problem.text

end Failure

end Latchkey
