/-
Accounts and their locks. Failed sign-ins are counted; at a threshold the counter
starts again and the account is locked for a while. A lock that has run out stays on
the account until it is lifted. The level counts the locks ever engaged, in 32 bits, so
that it starts again at zero after 2^32 of them. The version counts every write of these
fields; its 64 bits hold more writes than a store ever takes, so that no bound is set to it
here. The failures stay below the threshold and need none.
-/

import Latchkey.Account.DisplayName
import Latchkey.Account.Email
import Latchkey.Account.Id
import Latchkey.Account.Role

namespace Latchkey

open Time (Instant Span)

structure LockoutPolicy where
  threshold : Nat
  lockSpan : Span
  deriving DecidableEq, Repr

def LockoutPolicy.standard : LockoutPolicy := ⟨5, Span.ofSeconds 900⟩

inductive LockState where
  | unlocked
  | lockedUntil (deadline : Instant)
  | expired
  deriving DecidableEq, Repr

def LockState.of (deadline : Option Instant) (now : Instant) : LockState :=
  match deadline with
  | none => .unlocked
  | some deadline => if now < deadline then .lockedUntil deadline else .expired

structure NewAccount where
  name : DisplayName
  email : Email
  passwordHash : String
  role : Role := .user
  status : Status := .active
  deriving DecidableEq, Repr

structure Account where
  id : AccountId
  name : DisplayName
  email : Email
  passwordHash : String
  role : Role
  status : Status
  failures : Nat
  lockedUntil : Option Instant
  lockLevel : UInt32
  lastFailure : Option Instant
  version : Int
  createdAt : Instant
  updatedAt : Instant
  deriving DecidableEq, Repr

namespace Account

def create (account : NewAccount) (id : AccountId) (now : Instant) : Account :=
  { id
    name := account.name
    email := account.email
    passwordHash := account.passwordHash
    role := account.role
    status := account.status
    failures := 0
    lockedUntil := none
    lockLevel := 0
    lastFailure := none
    version := 0
    createdAt := now
    updatedAt := now }

/-- The state of the lock. An account whose status is locked without an end of the lock
counts as one whose lock has run out. -/
def lockState (account : Account) (now : Instant) : LockState :=
  match LockState.of account.lockedUntil now with
  | .unlocked => if account.status = .locked then .expired else .unlocked
  | state => state

/-- Lifts a lock and forgets the failures; the level is history and stays. -/
def liftLock (account : Account) (now : Instant) : Account :=
  { account with
    failures := 0
    lockedUntil := none
    lastFailure := none
    status := if account.status = .locked then .active else account.status
    updatedAt := now }

/-- Counts a failure without looking at the threshold. -/
def countFailure (account : Account) (now : Instant) : Account :=
  { account with
    failures := account.failures + 1
    lastFailure := some now
    updatedAt := now }

def engageLock (account : Account) (policy : LockoutPolicy) (now : Instant) : Account :=
  { account with
    failures := 0
    lockedUntil := some (now.deadline policy.lockSpan)
    lockLevel := account.lockLevel + 1
    status := .locked }

def registerFailure (account : Account) (policy : LockoutPolicy) (now : Instant) : Account :=
  let counted := account.countFailure now
  if counted.failures < policy.threshold then counted else counted.engageLock policy now

def failureLocks (account : Account) (policy : LockoutPolicy) : Bool :=
  policy.threshold ≤ account.failures + 1

def hasFailures (account : Account) : Bool :=
  account.failures != 0 || account.lastFailure.isSome

def forgetFailures (account : Account) (now : Instant) : Account :=
  { account with failures := 0, lastFailure := none, updatedAt := now }

def lockAgrees (account : Account) (now : Instant) : Bool :=
  (account.status = .locked) == (match account.lockedUntil with
    | some deadline => decide (now < deadline)
    | none => false)

/-- Whether failures have a last one that does not lie ahead. -/
def failuresAgree (account : Account) (now : Instant) : Bool :=
  account.failures == 0 || (match account.lastFailure with
    | some last => decide (last ≤ now)
    | none => false)

/-- What is wrong with the lock fields of an account that is to be written, if anything. -/
def validate (account : Account) (now : Instant) : Except Failure Unit :=
  if !account.lockAgrees now then
    .error (.internal (s!"invalid lock state: status={account.status.code} lock_until="
      ++ Text.shownOption (account.lockedUntil.map Instant.shown)))
  else if !account.failuresAgree now then
    .error (.internal (s!"invalid failed login state: attempts={account.failures} "
      ++ "last_failed_login_at=" ++ Text.shownOption (account.lastFailure.map Instant.shown)))
  else .ok ()

end Account

end Latchkey
