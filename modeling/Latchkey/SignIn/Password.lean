/-
Signing in with email and password. A locked account is refused before the password is
looked at, and a wrong password is recorded before it is refused. An email without an
account takes the same course, down to the work of checking a password, and is refused
with the same answers.
-/

import Latchkey.Lockout

namespace Latchkey.SignIn

open Time (Instant)

/-- The hash of no password that anyone holds, with the costs of every new hash. -/
def dummyHash : String :=
  "$argon2id$v=19$m=19456,t=2,p=1$c29tZXNhbHRzb21lc2FsdA$"
    ++ "AAAAAAAAAAAAAAAAAAAAAAAAAAAAAAAAAAAAAAAAAAA"

def refuseUnknown (policy : LockoutPolicy) (email : Email) (password : Password) (now : Instant) :
    Procedure Token.Pair := do
  let attempt ← Lockout.gateUnknown email now
  let _ ← Procedure.verify dummyHash password
  let _ ← Lockout.recordUnknownFailure policy attempt now
  throw .wrongCredentials

def withAccount (policy : LockoutPolicy) (account : Account) (password : Password)
    (now : Instant) : Procedure Token.Pair := do
  let account ← Lockout.gate account now
  if ← Procedure.verify account.passwordHash password then
    let account ← Lockout.recordSuccess account now
    Procedure.issuePair account.identity
  else
    let _ ← Lockout.recordFailure policy account now
    throw .wrongCredentials

/-- Signs in as of `now`. What is no email belongs to no account. -/
def withPassword (policy : LockoutPolicy) (email password : String) (now : Instant) :
    Procedure Token.Pair := do
  match Email.parse email with
  | .error _ => throw .wrongCredentials
  | .ok email =>
      match ← Procedure.findAccount email with
      | none => refuseUnknown policy email (.typed password) now
      | some account => withAccount policy account (.typed password) now

end Latchkey.SignIn
