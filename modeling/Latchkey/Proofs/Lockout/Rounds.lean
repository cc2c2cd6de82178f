/-
The rounds of a conditional write, one equation for each way in which a round goes. Only
a round that has something valid to write asks the store for anything.
-/

import Latchkey.Proofs.Lockout.Step

namespace Latchkey.Lockout

open Time (Instant)

/-- What follows a write that came too late: the same on the row as it is now, if writes are
left. -/
def retry (transition : Account → Except Failure (Option Account)) (now : Instant) (writes : Nat)
    (email : Email) : Procedure Account :=
  if writes = 0 then throw .staleWrite
  else do
    match ← Procedure.findAccount email with
    | none => throw .accountMissing
    | some current => apply transition now writes current

def retryUnknown (policy : LockoutPolicy) (now : Instant) (writes : Nat) (email : Email) :
    Procedure AttemptRecord :=
  if writes = 0 then throw .staleWrite
  else loadAttempts email >>= countUnknown policy now writes

section Account

variable {transition : Account → Except Failure (Option Account)} {now : Instant}
  {row changed : Account} {failure : Failure}

theorem apply_refused (writes : Nat) (refused : transition row = .error failure) :
    apply transition now (writes + 1) row = throw failure := by
  unfold apply
  rw [refused]
  rfl

theorem apply_idle (writes : Nat) (idle : transition row = .ok none) :
    apply transition now (writes + 1) row = pure row := by
  unfold apply
  rw [idle]
  rfl

theorem apply_invalid (writes : Nat) (changes : transition row = .ok (some changed))
    (invalid : changed.validate now = .error failure) :
    apply transition now (writes + 1) row = throw failure := by
  unfold apply
  rw [changes]
  change (Procedure.ofExcept (changed.validate now) >>= _) = _
  rw [invalid]
  rfl

theorem apply_valid (writes : Nat) (changes : transition row = .ok (some changed))
    (valid : changed.validate now = .ok ()) :
    apply transition now (writes + 1) row = (do
      match ← Procedure.ask (.writeLock changed) .ok with
      | .ok stored => pure stored
      | .error .staleWrite => retry transition now writes row.email
      | .error failure => throw failure : Procedure Account) := by
  rw [apply, changes]
  change (Procedure.ofExcept (changed.validate now) >>= _) = _
  rw [valid]
  rfl

end Account

section Step

/-- How a round goes that begins with a step on a row, with so many writes left after it. -/
inductive Step.Round (policy : LockoutPolicy) (now : Instant) (step : Step) (writes : Nat)
    (row : Account) : Prop
  | refused {deadline : Instant} (lifting : step = .lift)
      (locked : row.lockState now = .lockedUntil deadline)
      (ends : apply (step.transition policy now) now (writes + 1) row = throw (.locked deadline))
  | idle (unapplied : ¬step.Applies now row) (unlocked : step = .lift → row.lockState now = .unlocked)
      (ends : apply (step.transition policy now) now (writes + 1) row = pure row)
  | invalid {failure : Failure} (applies : step.Applies now row)
      (fault : (step.change policy now row).validate now = .error failure)
      (ends : apply (step.transition policy now) now (writes + 1) row = throw failure)
  | written (applies : step.Applies now row)
      (changes : step.transition policy now row = .ok (some (step.change policy now row)))
      (valid : (step.change policy now row).validate now = .ok ())

theorem Step.round (policy : LockoutPolicy) (now : Instant) (step : Step) (writes : Nat)
    (row : Account) : step.Round policy now writes row := by
  cases transitionAt : step.transition policy now row with
  | error failure =>
      obtain ⟨lifting, deadline, locked, rfl⟩ := Step.transition_eq_error.mp transitionAt
      exact .refused lifting locked (apply_refused writes transitionAt)
  | ok outcome =>
      cases outcome with
      | none =>
          obtain ⟨unapplied, unlocked⟩ := Step.transition_eq_none.mp transitionAt
          exact .idle unapplied unlocked (apply_idle writes transitionAt)
      | some changed =>
          obtain ⟨applies, rfl⟩ := Step.transition_eq_some.mp transitionAt
          cases checked : (step.change policy now row).validate now with
          | error failure =>
              exact .invalid applies checked (apply_invalid writes transitionAt checked)
          | ok _checked => exact .written applies transitionAt checked

end Step

section AttemptRecord

variable {policy : LockoutPolicy} {now : Instant} {attempt : AttemptRecord}

theorem countUnknown_locked {deadline : Instant} (writes : Nat)
    (locked : attempt.lockState now = .lockedUntil deadline) :
    countUnknown policy now (writes + 1) attempt = pure attempt := by
  unfold countUnknown
  rw [locked]

theorem countUnknown_open (writes : Nat)
    (notLocked : ∀ deadline, attempt.lockState now ≠ .lockedUntil deadline) :
    countUnknown policy now (writes + 1) attempt = (do
      match ← Procedure.ask (.writeAttempts (attempt.registerFailure policy now)) .ok with
      | .ok stored => pure stored
      | .error .staleWrite => retryUnknown policy now writes attempt.email
      | .error failure => throw failure : Procedure AttemptRecord) := by
  rw [countUnknown]
  cases state : attempt.lockState now with
  | lockedUntil deadline => exact absurd state (notLocked deadline)
  | unlocked => rfl
  | expired => rfl

end AttemptRecord

end Latchkey.Lockout
