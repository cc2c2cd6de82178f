/-
The store in a database. Each operation is one statement, and a creation with a
callback one transaction: it is committed when the callback has succeeded on the stored
account, and in any other case rolled back once it has begun. A conditional write that
gets no row back came too late.
-/

import Latchkey.Dialogue
import Latchkey.Store.Postgres.Row

namespace Latchkey.Store.Postgres

open Time (Instant)

inductive Statement where
  | selectAccount (email : Email)
  | insertAccount (row : AccountRow)
  | updateLock (row : AccountRow)
  | selectAttempts (email : Email)
  /-- Inserts a first record, unless there is one by then. -/
  | insertAttempts (row : AttemptRow)
  | updateAttempts (row : AttemptRow)
  deriving DecidableEq, Repr

def Statement.label : Statement → String
  | selectAccount _ => "SELECT accounts"
  | insertAccount _ => "INSERT accounts"
  | updateLock _ => "UPDATE accounts"
  | selectAttempts _ => "SELECT login_attempts"
  | insertAttempts _ => "INSERT login_attempts"
  | updateAttempts _ => "UPDATE login_attempts"

/-- The parameters of a statement, in the order of their numbers. -/
def Statement.parameters : Statement → List Cell
  | selectAccount email | selectAttempts email => [.text email.text]
  | insertAccount row => row.values
  | updateLock row =>
      [.id row.id, .number row.version, .text row.status, .number row.failures.toInt,
        .ofInstant? row.lockedUntil, .number row.lockLevel.toInt, .ofInstant? row.lastFailure,
        .instant row.updatedAt]
  | insertAttempts row => row.values
  | updateAttempts row => row.values ++ [.number row.version]

/-- What is asked of a connection and, within a creation, of whoever waits for it. -/
inductive Request where
  | run (statement : Statement)
  | begin
  | commit
  | rollback
  | callback (account : Account)
  deriving DecidableEq, Repr

abbrev Reply (α : Type) : Request → Type
  | .run _ => Except DatabaseFault (Option Cells)
  | .begin => Except DatabaseFault Unit
  | .commit => Except DatabaseFault Unit
  | .rollback => Unit
  | .callback _ => Except Failure α

/-- A connection, with a callback that answers with values of type `α`. -/
def Connection (α : Type) : Interface := ⟨Request, Reply α⟩

variable {α : Type}

def written {β : Type} (read : Cells → Except Failure β) (reply : Except DatabaseFault (Option Cells)) :
    Except Failure β :=
  match reply with
  | .error fault => .error (.database fault)
  | .ok none => .error .staleWrite
  | .ok (some cells) => read cells

def found {β : Type} (read : Cells → Except Failure β) (reply : Except DatabaseFault (Option Cells)) :
    Except Failure (Option β) :=
  match reply with
  | .error fault => .error (.database fault)
  | .ok none => .ok none
  | .ok (some cells) => (read cells).map some

/-- The index that keeps two accounts from having one email. -/
def emailIndex : String := "accounts_email_key"

/-- How an insertion fails: by a taken email only if the server names the index of emails. -/
def insertFailure : DatabaseFault → Failure
  | .refused message code constraint =>
      if code = some DatabaseFault.uniqueViolation ∧ constraint = some emailIndex then .emailTaken
      else .database (.refused message code constraint)
  | fault => .database fault

def inserted (reply : Except DatabaseFault (Option Cells)) : Except Failure Account :=
  match reply with
  | .error fault => .error (insertFailure fault)
  | .ok none => .error (insertFailure .rowMissing)
  | .ok (some cells) => accountOfCells cells

def findAccount (email : Email) : Dialogue (Connection α) (Except Failure (Option Account)) :=
  .ask (.run (.selectAccount email)) fun reply => .done (found accountOfCells reply)

def findAttempts (email : Email) : Dialogue (Connection α) (Except Failure (Option AttemptRecord)) :=
  .ask (.run (.selectAttempts email)) fun reply => .done (found recordOfCells reply)

def inserting (account : Account) : Statement := .insertAccount (.ofAccount account)

def insertion (account : NewAccount) (id : AccountId) (now : Instant) : Statement :=
  inserting (.create account id now)

def createAccount (account : NewAccount) (id : AccountId) (now : Instant) :
    Dialogue (Connection α) (Except Failure Account) :=
  .ask (.run (insertion account id now)) fun reply => .done (inserted reply)

def abandon {β : Type} (failure : Failure) : Dialogue (Connection α) (Except Failure β) :=
  .ask .rollback fun _ => .done (.error failure)

def conclude {β : Type} (value : β) : Dialogue (Connection α) (Except Failure β) :=
  .ask .commit fun
    | .error fault => abandon (.database fault)
    | .ok () => .done (.ok value)

def createAccountWith (account : NewAccount) (id : AccountId) (now : Instant) :
    Dialogue (Connection α) (Except Failure (Account × α)) :=
  .ask .begin fun
    | .error fault => .done (.error (.database fault))
    | .ok () =>
        .ask (.run (insertion account id now)) fun reply =>
          match inserted reply with
          | .error failure => abandon failure
          | .ok stored =>
              .ask (.callback stored) fun
                | .error failure => abandon failure
                | .ok value => conclude (stored, value)

def writeLock (account : Account) : Dialogue (Connection α) (Except Failure Account) :=
  .ask (.run (.updateLock (.ofAccount account))) fun reply => .done (written accountOfCells reply)

/-- The statement that writes an attempt record: a first one is inserted, a later one replaces
the row with the version that was read. -/
def saving (attempt : AttemptRecord) : Statement :=
  let row := AttemptRow.ofRecord attempt
  if attempt.version = 0 then .insertAttempts row else .updateAttempts row

def writeAttempts (attempt : AttemptRecord) :
    Dialogue (Connection α) (Except Failure AttemptRecord) :=
  .ask (.run (saving attempt)) fun reply => .done (written recordOfCells reply)

end Latchkey.Store.Postgres
