/-
Failed sign-ins with an email that has no account. They are counted and locked out on
the schedule of an account, so that the answers do not tell whether there is one. A
version of zero means that the record was never stored.
-/

import Latchkey.Account

namespace Latchkey

open Time (Instant)

structure AttemptRecord where
  email : Email
  failures : Nat
  lockedUntil : Option Instant
  lastFailure : Option Instant
  version : Int
  deriving DecidableEq, Repr

namespace AttemptRecord

def fresh (email : Email) : AttemptRecord :=
  { email, failures := 0, lockedUntil := none, lastFailure := none, version := 0 }

def lockState (attempt : AttemptRecord) (now : Instant) : LockState :=
  LockState.of attempt.lockedUntil now

def liftExpired (attempt : AttemptRecord) (now : Instant) : AttemptRecord :=
  if attempt.lockState now = .expired then { attempt with failures := 0, lockedUntil := none }
  else attempt

def countFailure (attempt : AttemptRecord) (now : Instant) : AttemptRecord :=
  { attempt with failures := attempt.failures + 1, lastFailure := some now }

def engageLock (attempt : AttemptRecord) (policy : LockoutPolicy) (now : Instant) :
    AttemptRecord :=
  { attempt with failures := 0, lockedUntil := some (now.deadline policy.lockSpan) }

/-- Counts a failed sign-in, which may lock the email out; a lock that has run out is
lifted first. -/
def registerFailure (attempt : AttemptRecord) (policy : LockoutPolicy) (now : Instant) :
    AttemptRecord :=
  let counted := (attempt.liftExpired now).countFailure now
  if counted.failures < policy.threshold then counted else counted.engageLock policy now

def failureLocks (attempt : AttemptRecord) (policy : LockoutPolicy) (now : Instant) : Bool :=
  policy.threshold ≤ (attempt.liftExpired now).failures + 1

end AttemptRecord

end Latchkey
