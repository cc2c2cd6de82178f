/-
The store of one process: accounts and attempt records, each under its email. An
operation either fails and changes nothing or answers together with the store after
it. The one that has others do their part in between undoes what it did where they fail.
Writes of lock fields and of records are conditional on the version that was read and
raise it by one.
-/

import Latchkey.Dialogue
import Latchkey.Account.AttemptRecord
import Latchkey.Store.ByEmail

namespace Latchkey.Store

open Time (Instant)

structure Memory where
  accounts : ByEmail Account := .empty
  attempts : ByEmail AttemptRecord := .empty
  deriving DecidableEq, Repr

namespace Memory

def empty : Memory := {}

def size (store : Memory) : Nat := store.accounts.size

def isEmpty (store : Memory) : Bool := store.size == 0

def findAccount (store : Memory) (email : Email) : Option Account := store.accounts.find? email

def findAttempts (store : Memory) (email : Email) : Option AttemptRecord :=
  store.attempts.find? email

def withAccount (store : Memory) (account : Account) : Memory :=
  { store with accounts := store.accounts.put account.email account }

def withoutAccount (store : Memory) (email : Email) : Memory :=
  { store with accounts := store.accounts.remove email }

def createAccount (store : Memory) (account : NewAccount) (id : AccountId) (now : Instant) :
    Except Failure (Account × Memory) :=
  match store.findAccount account.email with
  | some _ => .error .emailTaken
  | none =>
      let created := Account.create account id now
      .ok (created, store.withAccount created)

/-- Creates an account and runs a dialogue on it, as one unit: where that fails, the account
is taken away again before anybody has seen it. -/
def createAccountWith {interface : Interface} {α : Type} (store : Memory) (account : NewAccount)
    (id : AccountId) (now : Instant)
    (issue : Account → Dialogue interface (Except Failure α)) :
    Dialogue interface (Except Failure (Account × α) × Memory) :=
  match store.createAccount account id now with
  | .error failure => .done (.error failure, store)
  | .ok (created, after) => do
      match ← issue created with
      | .error failure => pure (.error failure, after.withoutAccount created.email)
      | .ok value => pure (.ok (created, value), after)

/-- The stored account with the lock fields of another and the next version. -/
def relocked (stored account : Account) : Account :=
  { stored with
    status := account.status
    failures := account.failures
    lockedUntil := account.lockedUntil
    lockLevel := account.lockLevel
    lastFailure := account.lastFailure
    updatedAt := account.updatedAt
    version := stored.version + 1 }

def writeLock (store : Memory) (account : Account) : Except Failure (Account × Memory) :=
  match store.findAccount account.email with
  | none => .error .accountMissing
  | some stored =>
      if stored.id = account.id then
        if stored.version = account.version then
          let written := relocked stored account
          .ok (written, { store with accounts := store.accounts.put account.email written })
        else .error .staleWrite
      else .error .accountMissing

/-- The version of the stored record, zero where there is none. -/
def attemptVersion (store : Memory) (email : Email) : Int :=
  ((store.findAttempts email).map (·.version)).getD 0

def writeAttempts (store : Memory) (attempt : AttemptRecord) :
    Except Failure (AttemptRecord × Memory) :=
  if store.attemptVersion attempt.email = attempt.version then
    let written := { attempt with version := attempt.version + 1 }
    .ok (written, { store with attempts := store.attempts.put attempt.email written })
  else .error .staleWrite

end Memory

end Latchkey.Store
