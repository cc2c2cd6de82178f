/-
Rows of the two database tables and what they say. The columns of an account and of an
attempt record are bound to statements and read from replies in one order. The columns of
counters hold 32 bits with a sign: a greater counter is stored as the greatest that they
hold, and a negative one is no counter. Roles and states are stored by their codes.
-/

import Latchkey.Account.AttemptRecord
import Latchkey.Failure

namespace Latchkey.Store.Postgres

open Time (Instant)

inductive Cell where
  | null
  | id (value : AccountId)
  | text (value : String)
  | number (value : Int)
  | instant (value : Instant)
  deriving DecidableEq, Repr

def Cell.ofInstant? : Option Instant → Cell
  | none => null
  | some value => instant value

abbrev Cells := List (String × Cell)

def maxCount : Nat := 2147483647

def storedCount (count : Nat) : Int32 := .ofInt (min count maxCount : Nat)

def readCount (column : String) (value : Int32) : Except Failure UInt32 :=
  if 0 ≤ value then .ok value.toUInt32
  else .error (.internal s!"Negative {column}: {value.toInt}")

structure AccountRow where
  id : AccountId
  name : String
  email : String
  passwordHash : String
  role : String
  status : String
  failures : Int32
  lockedUntil : Option Instant
  lockLevel : Int32
  lastFailure : Option Instant
  version : Int
  createdAt : Instant
  updatedAt : Instant
  deriving DecidableEq, Repr

def AccountRow.ofAccount (account : Account) : AccountRow :=
  { id := account.id
    name := account.name.text
    email := account.email.text
    passwordHash := account.passwordHash
    role := account.role.code
    status := account.status.code
    failures := storedCount account.failures
    lockedUntil := account.lockedUntil
    lockLevel := storedCount account.lockLevel.toNat
    lastFailure := account.lastFailure
    version := account.version
    createdAt := account.createdAt
    updatedAt := account.updatedAt }

/-- The account that a row holds; a row with an unknown code or a negative counter holds
none. -/
def AccountRow.account (row : AccountRow) : Except Failure Account := do
  let role ←
    match Role.ofCode? row.role with
    | some role => pure role
    | none => throw (.internal s!"Invalid role: {row.role}")
  let status ←
    match Status.ofCode? row.status with
    | some status => pure status
    | none => throw (.internal s!"Invalid status: {row.status}")
  let failures ← readCount "failed_login_attempts" row.failures
  let lockLevel ← readCount "lock_escalation_level" row.lockLevel
  pure
    { id := row.id
      name := ⟨row.name⟩
      email := ⟨row.email⟩
      passwordHash := row.passwordHash
      role, status
      failures := failures.toNat
      lockedUntil := row.lockedUntil
      lockLevel
      lastFailure := row.lastFailure
      version := row.version
      createdAt := row.createdAt
      updatedAt := row.updatedAt }

structure AttemptRow where
  email : String
  failures : Int32
  lockedUntil : Option Instant
  lastFailure : Option Instant
  version : Int
  deriving DecidableEq, Repr

def AttemptRow.ofRecord (attempt : AttemptRecord) : AttemptRow :=
  { email := attempt.email.text
    failures := storedCount attempt.failures
    lockedUntil := attempt.lockedUntil
    lastFailure := attempt.lastFailure
    version := attempt.version }

def AttemptRow.record (row : AttemptRow) : Except Failure AttemptRecord := do
  let failures ← readCount "failed_login_attempts" row.failures
  pure
    { email := ⟨row.email⟩
      failures := failures.toNat
      lockedUntil := row.lockedUntil
      lastFailure := row.lastFailure
      version := row.version }

def accountColumns : List String :=
  ["id", "name", "email", "password_hash", "role", "status", "failed_login_attempts", "lock_until",
    "lock_escalation_level", "last_failed_login_at", "version", "created_at", "updated_at"]

def attemptColumns : List String :=
  ["email", "failed_login_attempts", "lock_until", "last_failed_login_at", "version"]

/-- What is bound for the columns of an account, in order. -/
def AccountRow.values (row : AccountRow) : List Cell :=
  [.id row.id, .text row.name, .text row.email, .text row.passwordHash, .text row.role,
    .text row.status, .number row.failures.toInt, .ofInstant? row.lockedUntil,
    .number row.lockLevel.toInt, .ofInstant? row.lastFailure, .number row.version,
    .instant row.createdAt, .instant row.updatedAt]

/-- What is bound for the columns of an attempt record before its version. -/
def AttemptRow.values (row : AttemptRow) : List Cell :=
  [.text row.email, .number row.failures.toInt, .ofInstant? row.lockedUntil,
    .ofInstant? row.lastFailure]

def AccountRow.cells (row : AccountRow) : Cells := accountColumns.zip row.values

def AttemptRow.cells (row : AttemptRow) : Cells :=
  attemptColumns.zip (row.values ++ [.number row.version])

def cell (cells : Cells) (column : String) : Except DatabaseFault Cell :=
  match cells.lookup column with
  | some cell => .ok cell
  | none => .error (.columnMissing column)

def unreadable (column : String) : Cell → DatabaseFault
  | .null => .columnUnreadable column "unexpected null; try decoding as an `Option`"
  | _ => .columnUnreadable column "mismatched types"

def idIn (cells : Cells) (column : String) : Except DatabaseFault AccountId := do
  match ← cell cells column with
  | .id value => pure value
  | other => throw (unreadable column other)

def textIn (cells : Cells) (column : String) : Except DatabaseFault String := do
  match ← cell cells column with
  | .text value => pure value
  | other => throw (unreadable column other)

def numberIn (cells : Cells) (column : String) : Except DatabaseFault Int := do
  match ← cell cells column with
  | .number value => pure value
  | other => throw (unreadable column other)

/-- A counter in a column of 32 bits, in which no greater number can stand. -/
def countIn (cells : Cells) (column : String) : Except DatabaseFault Int32 := do
  let value ← numberIn cells column
  if (Int32.ofInt value).toInt = value then pure (.ofInt value)
  else throw (unreadable column (.number value))

def instantIn (cells : Cells) (column : String) : Except DatabaseFault Instant := do
  match ← cell cells column with
  | .instant value => pure value
  | other => throw (unreadable column other)

def instantIn? (cells : Cells) (column : String) : Except DatabaseFault (Option Instant) := do
  match ← cell cells column with
  | .null => pure none
  | .instant value => pure (some value)
  | other => throw (unreadable column other)

def AccountRow.ofCells (cells : Cells) : Except DatabaseFault AccountRow := do
  let id ← idIn cells "id"
  let name ← textIn cells "name"
  let email ← textIn cells "email"
  let passwordHash ← textIn cells "password_hash"
  let role ← textIn cells "role"
  let status ← textIn cells "status"
  let failures ← countIn cells "failed_login_attempts"
  let lockedUntil ← instantIn? cells "lock_until"
  let lockLevel ← countIn cells "lock_escalation_level"
  let lastFailure ← instantIn? cells "last_failed_login_at"
  let version ← numberIn cells "version"
  let createdAt ← instantIn cells "created_at"
  let updatedAt ← instantIn cells "updated_at"
  pure
    { id, name, email, passwordHash, role, status, failures, lockedUntil, lockLevel,
      lastFailure, version, createdAt, updatedAt }

def AttemptRow.ofCells (cells : Cells) : Except DatabaseFault AttemptRow := do
  let email ← textIn cells "email"
  let failures ← countIn cells "failed_login_attempts"
  let lockedUntil ← instantIn? cells "lock_until"
  let lastFailure ← instantIn? cells "last_failed_login_at"
  let version ← numberIn cells "version"
  pure { email, failures, lockedUntil, lastFailure, version }

def accountOfCells (cells : Cells) : Except Failure Account := do
  let row ← (AccountRow.ofCells cells).mapError Failure.database
  row.account

def recordOfCells (cells : Cells) : Except Failure AttemptRecord := do
  let row ← (AttemptRow.ofCells cells).mapError Failure.database
  row.record

end Latchkey.Store.Postgres
