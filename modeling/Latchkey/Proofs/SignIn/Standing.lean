/-
Where a sign-in stands, as far as it was told: the row that it goes by, the verdict on the
password, and the failures that the store took from it. The standing is read off what was
said; which step of the lockout a write belongs to follows from the verdict.
-/

import Latchkey.Proofs.Lockout.Consistency
import Latchkey.Proofs.Lockout.Exchanges
import Latchkey.SignIn.Password

namespace Latchkey.SignIn

open Lockout (Step)
open Time (Instant)

/-- The failures that the store took from a sign-in: writes of a row as a count, and writes
of a record. -/
structure Tally where
  rows : Nat := 0
  records : Nat := 0
  deriving DecidableEq, Repr

structure Standing where
  row : Option Account := none
  /-- The row that was read last since the verdict. -/
  reread : Option Account := none
  verdict : Option Bool := none
  record : Option AttemptRecord := none
  failures : Tally := {}
  faulty : Bool := false

/-- Before the verdict a sign-in lifts locks that have run out; after it, it counts or
forgets. -/
def stepAfter : Option Bool → Step
  | none => .lift
  | some false => .count
  | some true => .forget

namespace Standing

def step (standing : Standing) : Step := stepAfter standing.verdict

def hear (standing : Standing) (exchange : Exchange Service) : Standing :=
  match exchange with
  | ⟨.findAccount _, .ok found⟩ => { standing with row := found, reread := found }
  | ⟨.writeLock _, .ok written⟩ =>
      { standing with
        row := some written
        failures :=
          { standing.failures with rows := standing.failures.rows + standing.step.added } }
  | ⟨.verify _ _, .ok right⟩ => { standing with verdict := some right, reread := none }
  | ⟨.verify _ _, .error _⟩ => { standing with faulty := true }
  | ⟨.sign _, .error _⟩ => { standing with faulty := true }
  | ⟨.findAttempts email, .ok found⟩ => { standing with record := some (found.getD (.fresh email)) }
  | ⟨.writeAttempts _, .ok written⟩ =>
      { standing with
        record := some written
        failures := { standing.failures with records := standing.failures.records + 1 } }
  | _ => standing

end Standing

def standing : List (Exchange Service) → Standing
  | [] => {}
  | exchange :: earlier => (standing earlier).hear exchange

/-- A sign-in goes by the row and the record that any caller of the lockout would hold. -/
theorem standing_held (past : List (Exchange Service)) :
    (standing past).row = Lockout.heldRow past ∧
      (standing past).record = Lockout.heldRecord past := by
  induction past with
  | nil => exact ⟨rfl, rfl⟩
  | cons exchange earlier ih =>
      obtain ⟨row, record⟩ := ih
      obtain ⟨request, reply⟩ := exchange
      cases request with
      | findAccount | writeLock =>
          cases reply with
          | error failure => exact ⟨row, record⟩
          | ok held => exact ⟨rfl, record⟩
      | findAttempts | writeAttempts =>
          cases reply with
          | error failure => exact ⟨row, record⟩
          | ok held => exact ⟨row, rfl⟩
      | verify | sign => cases reply <;> exact ⟨row, record⟩
      | createAccount | createAccountWith | hash | readToken | exchange | random | clock =>
          exact ⟨row, record⟩

end Latchkey.SignIn
