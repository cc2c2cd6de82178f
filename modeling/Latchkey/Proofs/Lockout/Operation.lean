/-
The operations of the lockout, one at a time: looking at a lock, and recording a failure or
a success, for an account or for the record of an email that has none. Each of them reads
what it goes by first. Anything may be written between this and its own writes, so that it
may come with whatever was stored at some time, however stale. It writes nothing but what a
step makes of what it read or wrote last, and only after the check.
-/

import Latchkey.Proofs.Lockout.Exchanges
import Latchkey.Proofs.Lockout.Rounds

namespace Latchkey.Lockout

open Dialogue (Contract Obeys)
open Time (Instant)

inductive Task where
  | onRow (step : Step)
  | gateUnknown
  | countUnknown

structure Operation where
  task : Task
  email : Email
  now : Instant

/-- The operation whose step it is: lifting belongs to the look at the lock, counting to a
failure and forgetting to a success. -/
def Step.perform (policy : LockoutPolicy) (now : Instant) : Step → Account → Procedure Account
  | lift, row => gate row now
  | count, row => recordFailure policy row now
  | forget, row => recordSuccess row now

def Operation.procedure (policy : LockoutPolicy) (operation : Operation) : Procedure Unit := do
  match operation.task with
  | .onRow step =>
      match ← Procedure.findAccount operation.email with
      | none => pure ()
      | some row =>
          let _ ← step.perform policy operation.now row
  | .gateUnknown =>
      let _ ← gateUnknown operation.email operation.now
  | .countUnknown =>
      let attempt ← loadAttempts operation.email
      let _ ← recordUnknownFailure policy attempt operation.now

def Operation.dialogue (policy : LockoutPolicy) (operation : Operation) :
    Dialogue Service (Except Failure Unit) :=
  (operation.procedure policy).run

variable {policy : LockoutPolicy} {now : Instant} {row : Account} {past : List (Exchange Service)}

/-- A look at the lock is a step like the others. -/
theorem gate_eq_apply (row : Account) (now : Instant) :
    gate row now = apply (lifting now) now maxWrites row := by
  unfold gate
  cases state : row.lockState now with
  | unlocked =>
      have idle : lifting now row = .ok none := by rw [lifting, state]
      exact (apply_idle 2 idle).symm
  | lockedUntil deadline =>
      have refused : lifting now row = .error (.locked deadline) := by rw [lifting, state]
      exact (apply_refused 2 refused).symm
  | expired => rfl

theorem Step.perform_eq_apply (step : Step) (policy : LockoutPolicy) (now : Instant) (row : Account) :
    step.perform policy now row = apply (step.transition policy now) now maxWrites row := by
  cases step with
  | lift => exact gate_eq_apply row now
  | count => rfl
  | forget => rfl

/-- An operation may look everywhere, and may write what it read or wrote last. -/
def leave (past : List (Exchange Service)) : Leave where
  finds := fun _email => True
  writes := fun _step row => heldRow past = some row
  findsAttempts := fun _email => True
  counts := fun record => heldRecord past = some record

theorem leave_goesBy (past : List (Exchange Service)) : (leave past).GoesBy past where
  row := fun _step _row held => held
  record := fun _record held => held

def rules (policy : LockoutPolicy) (now : Instant) : Contract Service where
  asks := fun past => (leave past).Allows policy now
  hears := fun _past _request _reply => True

abbrev Abides {α : Type} (policy : LockoutPolicy) (now : Instant) (past : List (Exchange Service))
    (dialogue : Dialogue Service α) : Prop :=
  Obeys (rules policy now) (fun _past _value => True) past dialogue

/-- A write that comes too late is followed by a look at the row and starts over. -/
private theorem retry_abides {step : Step} {writes : Nat} {email : Email}
    (again : ∀ past row, heldRow past = some row →
      Abides policy now past (apply (step.transition policy now) now writes row).run) :
    Abides policy now past (retry (step.transition policy now) now writes email).run := by
  by_cases last : writes = 0
  · rw [retry, if_pos last]
    trivial
  · rw [retry, if_neg last, Abides, Procedure.obeys_bind]
    refine ⟨trivial, ?_⟩
    rintro (failure | found) _heard
    · trivial
    · cases found with
      | none => trivial
      | some current => exact again _ current rfl

private theorem apply_abides (step : Step) (writes : Nat) (held : heldRow past = some row) :
    Abides policy now past (apply (step.transition policy now) now writes row).run := by
  induction writes generalizing past row with
  | zero => trivial
  | succ writes ih =>
      cases step.round policy now writes row with
      | refused _lifting _locked ends =>
          rw [ends]
          trivial
      | idle _unapplied _unlocked ends =>
          rw [ends]
          trivial
      | invalid _applies _fault ends =>
          rw [ends]
          trivial
      | written applies changes valid =>
          rw [apply_valid writes changes valid, Abides, Procedure.obeys_bind,
            Procedure.obeys_asking]
          refine ⟨⟨step, row, held, applies, rfl, valid⟩, ?_⟩
          rintro (failure | stored) _heard
          · cases failure with
            | staleWrite =>
                -- the row is read again before the loop starts over
                exact retry_abides fun _past _row held => ih held
            | _ => trivial
          · trivial

private theorem loadAttempts_abides (email : Email) :
    Obeys (rules policy now)
      (fun past outcome => ∀ record, outcome = .ok record → heldRecord past = some record) past
      (loadAttempts email).run := by
  refine ⟨trivial, ?_⟩
  rintro (failure | found) _heard
  · intro record none
    cases none
  · rintro record ⟨⟩
    rfl

private theorem countUnknown_abides {record : AttemptRecord} (writes : Nat)
    (held : heldRecord past = some record) :
    Abides policy now past (countUnknown policy now writes record).run := by
  induction writes generalizing past record with
  | zero => trivial
  | succ writes ih =>
      rcases (record.lockState now).holds_or_open with ⟨deadline, locked⟩ | notLocked
      · rw [countUnknown_locked writes locked]
        trivial
      · rw [countUnknown_open writes notLocked, Abides, Procedure.obeys_bind,
          Procedure.obeys_asking]
        refine ⟨⟨record, held, notLocked, rfl⟩, ?_⟩
        rintro (failure | stored) _heard
        · cases failure with
          | staleWrite =>
              change Abides policy now _ (retryUnknown policy now writes record.email).run
              by_cases last : writes = 0
              · rw [retryUnknown, if_pos last]
                trivial
              · rw [retryUnknown, if_neg last, Abides, Procedure.obeys_bind]
                apply (loadAttempts_abides record.email).mono
                rintro past (failure | current) held
                · trivial
                · exact ih (held current rfl)
          | _ => trivial
        · trivial

private theorem gateUnknown_abides (email : Email) :
    Abides policy now past (gateUnknown email now).run := by
  unfold gateUnknown
  rw [Abides, Procedure.obeys_bind]
  apply (loadAttempts_abides email).mono
  rintro past (failure | record) _held
  · trivial
  · rw [Procedure.Continues]
    cases record.lockState now <;> trivial

/-- Every operation keeps to the rules. -/
theorem Operation.abides (policy : LockoutPolicy) (operation : Operation) :
    Abides policy operation.now [] (operation.dialogue policy) := by
  obtain ⟨task, email, now⟩ := operation
  unfold dialogue procedure
  cases task with
  | onRow step =>
      dsimp only
      rw [Abides, Procedure.obeys_bind]
      refine ⟨trivial, ?_⟩
      rintro (failure | found) _heard
      · trivial
      · cases found with
        | none => trivial
        | some row =>
            change Abides policy now _ (step.perform policy now row >>= _ : Procedure Unit).run
            rw [Abides, Procedure.obeys_bind, step.perform_eq_apply]
            apply (apply_abides step maxWrites rfl).mono
            intro past outcome _abided
            cases outcome <;> trivial
  | gateUnknown =>
      dsimp only
      rw [Abides, Procedure.obeys_bind]
      apply (gateUnknown_abides email).mono
      intro past outcome _abided
      cases outcome <;> trivial
  | countUnknown =>
      dsimp only
      rw [Abides, Procedure.obeys_bind]
      apply (loadAttempts_abides email).mono
      rintro past (failure | record) held
      · trivial
      · change Abides policy now past
          (recordUnknownFailure policy record now >>= _ : Procedure Unit).run
        rw [Abides, Procedure.obeys_bind]
        apply (countUnknown_abides maxWrites (held record rfl)).mono
        intro past outcome _abided
        cases outcome <;> trivial

end Latchkey.Lockout
