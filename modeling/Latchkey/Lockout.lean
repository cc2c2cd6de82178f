/-
Counting failed sign-ins in the store. A write is conditional on the row that was read;
one that comes too late is tried again on the row as it is now, three times in all.
The same steps are taken for an email without an account, on its attempt record.
-/

import Latchkey.Service

namespace Latchkey.Lockout

open Time (Instant)

def maxWrites : Nat := 3

/-- Makes a transition of an account and writes the outcome, unless there is nothing to
write; after a write that came too late both are done again on the row as it is now. -/
def apply (transition : Account → Except Failure (Option Account)) (now : Instant) :
    (writes : Nat) → Account → Procedure Account
  | 0, _ => throw .staleWrite
  | writes + 1, account => do
      match ← Procedure.ofExcept (transition account) with
      | none => pure account
      | some changed =>
          Procedure.ofExcept (changed.validate now)
          match ← Procedure.ask (.writeLock changed) .ok with
          | .ok stored => pure stored
          | .error .staleWrite =>
              if writes = 0 then throw .staleWrite
              else
                match ← Procedure.findAccount account.email with
                | none => throw .accountMissing
                | some current => apply transition now writes current
          | .error failure => throw failure

/-- Lifts a lock that has run out; a lock that holds refuses the sign-in. -/
def lifting (now : Instant) (account : Account) : Except Failure (Option Account) :=
  match account.lockState now with
  | .expired => .ok (some (account.liftLock now))
  | .lockedUntil deadline => .error (.locked deadline)
  | .unlocked => .ok none

/-- Counts a failure unless the account is locked meanwhile. -/
def counting (policy : LockoutPolicy) (now : Instant) (account : Account) :
    Except Failure (Option Account) :=
  match account.lockState now with
  | .lockedUntil _ => .ok none
  | _ => .ok (some (account.registerFailure policy now))

def forgetting (now : Instant) (account : Account) : Except Failure (Option Account) :=
  .ok (if account.hasFailures then some (account.forgetFailures now) else none)

/-- Admits a sign-in unless the account is locked. A lock that has run out is lifted in the
store first. -/
def gate (account : Account) (now : Instant) : Procedure Account :=
  match account.lockState now with
  | .unlocked => pure account
  | .lockedUntil deadline => throw (.locked deadline)
  | .expired => apply (lifting now) now maxWrites account

def recordFailure (policy : LockoutPolicy) (account : Account) (now : Instant) :
    Procedure Account :=
  apply (counting policy now) now maxWrites account

def recordSuccess (account : Account) (now : Instant) : Procedure Account :=
  apply (forgetting now) now maxWrites account

def loadAttempts (email : Email) : Procedure AttemptRecord := do
  pure ((← Procedure.findAttempts email).getD (.fresh email))

def gateUnknown (email : Email) (now : Instant) : Procedure AttemptRecord := do
  let attempt ← loadAttempts email
  match attempt.lockState now with
  | .lockedUntil deadline => throw (.locked deadline)
  | _ => pure attempt

/-- Counts a failure on a record in at most the given number of writes, unless the email is
locked out meanwhile. -/
def countUnknown (policy : LockoutPolicy) (now : Instant) :
    (writes : Nat) → AttemptRecord → Procedure AttemptRecord
  | 0, _ => throw .staleWrite
  | writes + 1, attempt => do
      match attempt.lockState now with
      | .lockedUntil _ => pure attempt
      | _ =>
          match ← Procedure.ask (.writeAttempts (attempt.registerFailure policy now)) .ok with
          | .ok stored => pure stored
          | .error .staleWrite =>
              if writes = 0 then throw .staleWrite
              else countUnknown policy now writes (← loadAttempts attempt.email)
          | .error failure => throw failure

def recordUnknownFailure (policy : LockoutPolicy) (attempt : AttemptRecord) (now : Instant) :
    Procedure AttemptRecord :=
  countUnknown policy now maxWrites attempt

end Latchkey.Lockout
