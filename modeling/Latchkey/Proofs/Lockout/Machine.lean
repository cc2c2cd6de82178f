/-
The lockout as a machine: a count, the end of a lock and a level, and nothing else. It is
what the lock fields of an account amount to, and those of a record without the level;
each step on a row is a step of the machine.
-/

import Latchkey.Proofs.Lockout.Attempts
import Latchkey.Proofs.Lockout.Consistency

namespace Latchkey

open Time (Instant)

namespace Lockout

structure Machine where
  count : Nat := 0
  deadline : Option Instant := none
  level : Nat := 0
  deriving DecidableEq, Repr

namespace Machine

inductive Answer where
  | locked (deadline : Instant)
  | refused
  | admitted
  deriving DecidableEq, Repr

def Answer.to (state : LockState) (right : Bool) : Answer :=
  match state with
  | .lockedUntil deadline => locked deadline
  | _ => if right then admitted else refused

theorem Answer.to_open {state : LockState} {right : Bool}
    (notLocked : ∀ deadline, state ≠ .lockedUntil deadline) :
    Answer.to state right = if right then admitted else refused := by
  cases state with
  | lockedUntil deadline => exact absurd rfl (notLocked deadline)
  | unlocked => rfl
  | expired => rfl

def Answer.verifications : Answer → Nat
  | locked _ => 0
  | refused => 1
  | admitted => 1

theorem Answer.verifications_le_one (answer : Answer) : answer.verifications ≤ 1 := by
  cases answer with
  | locked deadline => exact Nat.zero_le 1
  | refused => exact Nat.le_refl 1
  | admitted => exact Nat.le_refl 1

def lift (machine : Machine) : Machine :=
  if machine.deadline = none then machine else { machine with count := 0, deadline := none }

def fail (policy : LockoutPolicy) (now : Instant) (machine : Machine) : Machine :=
  if machine.count + 1 < policy.threshold then { machine with count := machine.count + 1 }
  else
    { count := 0
      deadline := some (now.deadline policy.lockSpan)
      level := machine.level + 1 }

def forget (machine : Machine) : Machine := { machine with count := 0 }

/-- One sign-in: refused without a look at the password while the lock holds. -/
def step (policy : LockoutPolicy) (right : Bool) (now : Instant) (machine : Machine) :
    Answer × Machine :=
  match LockState.of machine.deadline now with
  | .lockedUntil deadline => (.locked deadline, machine)
  | _ => if right then (.admitted, machine.lift.forget) else (.refused, machine.lift.fail policy now)

def run (policy : LockoutPolicy) : List (Bool × Instant) → Machine → List Answer × Machine
  | [], machine => ([], machine)
  | input :: inputs, machine =>
      let stepped := machine.step policy input.1 input.2
      let rest := run policy inputs stepped.2
      (stepped.1 :: rest.1, rest.2)

theorem lift_deadline (machine : Machine) : machine.lift.deadline = none := by
  unfold lift
  by_cases unlocked : machine.deadline = none
  · rw [if_pos unlocked]
    exact unlocked
  · rw [if_neg unlocked]

theorem step_locked {policy : LockoutPolicy} {right : Bool} {now deadline : Instant}
    {machine : Machine} (held : machine.deadline = some deadline) (ahead : now < deadline) :
    machine.step policy right now = (.locked deadline, machine) := by
  unfold step
  rw [LockState.of_eq_lockedUntil.mpr ⟨held, ahead⟩]

theorem step_open {policy : LockoutPolicy} {right : Bool} {now : Instant} {machine : Machine}
    (notLocked : ∀ deadline, LockState.of machine.deadline now ≠ .lockedUntil deadline) :
    machine.step policy right now
      = if right then (.admitted, machine.lift.forget)
        else (.refused, machine.lift.fail policy now) := by
  unfold step
  cases state : LockState.of machine.deadline now with
  | lockedUntil deadline => exact absurd state (notLocked deadline)
  | unlocked => rfl
  | expired => rfl

theorem step_answer (policy : LockoutPolicy) (right : Bool) (now : Instant) (machine : Machine) :
    (machine.step policy right now).1 = .to (LockState.of machine.deadline now) right := by
  unfold step
  cases LockState.of machine.deadline now with
  | lockedUntil deadline => rfl
  | unlocked => cases right <;> rfl
  | expired => cases right <;> rfl

theorem step_wrong (policy : LockoutPolicy) (now : Instant) (machine : Machine) :
    (∃ deadline, (machine.step policy false now).1 = .locked deadline) ∨
      (machine.step policy false now).1 = .refused := by
  unfold step
  cases LockState.of machine.deadline now with
  | lockedUntil deadline => exact Or.inl ⟨deadline, rfl⟩
  | unlocked => exact Or.inr rfl
  | expired => exact Or.inr rfl

end Machine

end Lockout

open Lockout (Machine Step)

namespace Account

/-- Whether the lock fields of a row fit together and amount to a state of the machine. -/
structure Follows (policy : LockoutPolicy) (machine : Machine) (row : Account) : Prop where
  consistent : row.LockConsistent policy
  failures : row.failures = machine.count
  lockedUntil : row.lockedUntil = machine.deadline
  lockLevel : row.lockLevel = .ofNat machine.level
  status : row.status = if machine.deadline = none then .active else .locked

variable {policy : LockoutPolicy} {machine : Machine} {row : Account} {now : Instant}

theorem follows_create {account : NewAccount} (id : AccountId) (positive : 1 ≤ policy.threshold)
    (active : account.status = .active) : (create account id now).Follows policy {} where
  consistent := lockConsistent_create id now positive active
  failures := rfl
  lockedUntil := rfl
  lockLevel := rfl
  status := active

theorem Follows.version (follows : row.Follows policy machine) (version : Int) :
    { row with version }.Follows policy machine where
  consistent := follows.consistent.version version
  failures := follows.failures
  lockedUntil := follows.lockedUntil
  lockLevel := follows.lockLevel
  status := follows.status

theorem Follows.lockState (follows : row.Follows policy machine) :
    row.lockState now = LockState.of machine.deadline now := by
  rw [← follows.lockedUntil]
  cases held : row.lockedUntil with
  | some deadline => rw [lockState_of_some held, held]
  | none =>
      have active := follows.status
      rw [← follows.lockedUntil, held, if_pos rfl] at active
      rw [lockState_of_none held, active]
      rfl

theorem Follows.deadline_of_unlocked (follows : row.Follows policy machine)
    (unlocked : row.lockState now = .unlocked) : machine.deadline = none := by
  rw [← follows.lockedUntil]
  exact (lockState_eq_unlocked.mp unlocked).1

theorem Follows.lift_of_unlocked (follows : row.Follows policy machine)
    (unlocked : row.lockState now = .unlocked) : machine.lift = machine :=
  if_pos (follows.deadline_of_unlocked unlocked)

theorem Follows.liftLock (follows : row.Follows policy machine)
    (expired : row.lockState now = .expired) : (row.liftLock now).Follows policy machine.lift := by
  obtain ⟨deadline, held, _past⟩ := follows.consistent.expired_iff.mp expired
  have locked := (follows.consistent.locked_of_some held).1
  have set : machine.deadline ≠ none := by
    rw [← follows.lockedUntil, held]
    exact Option.some_ne_none deadline
  have lifted : machine.lift = { machine with count := 0, deadline := none } := if_neg set
  have consistent : (Step.lift.change policy now row).LockConsistent policy :=
    Step.consistent_change follows.consistent expired (validate_liftLock row now)
  rw [lifted]
  refine ⟨consistent, rfl, rfl, follows.lockLevel, ?_⟩
  simp only [Account.liftLock, locked, if_true]

theorem Follows.registerFailure (follows : row.Follows policy machine)
    (unlocked : row.lockState now = .unlocked) (before : now < .latest)
    (lasting : 0 < policy.lockSpan.nanos) :
    (row.registerFailure policy now).Follows policy (machine.fail policy now) := by
  have valid : (row.registerFailure policy now).validate now = .ok () :=
    Step.validate_change_of_unlocked .count unlocked before lasting
  have applies : Step.count.Applies now row := by
    intro deadline locked
    rw [unlocked] at locked
    cases locked
  have consistent : (row.registerFailure policy now).LockConsistent policy :=
    Step.consistent_change follows.consistent applies valid
  unfold Machine.fail
  rw [← follows.failures]
  by_cases below : row.failures + 1 < policy.threshold
  · rw [registerFailure_below below] at consistent ⊢
    rw [if_pos below]
    exact ⟨consistent, rfl, follows.lockedUntil, follows.lockLevel, follows.status⟩
  · rw [registerFailure_reaching below] at consistent ⊢
    rw [if_neg below]
    refine ⟨consistent, rfl, rfl, ?_, rfl⟩
    change row.lockLevel + 1 = .ofNat (machine.level + 1)
    rw [follows.lockLevel, UInt32.ofNat_add]
    rfl

theorem Follows.forgetFailures (follows : row.Follows policy machine)
    (unlocked : row.lockState now = .unlocked) (before : now < .latest)
    (lasting : 0 < policy.lockSpan.nanos) (counted : row.hasFailures = true) :
    (row.forgetFailures now).Follows policy machine.forget where
  consistent := by
    have applies : Step.forget.Applies now row := counted
    exact Step.consistent_change follows.consistent applies
      (Step.validate_change_of_unlocked .forget unlocked before lasting)
  failures := rfl
  lockedUntil := follows.lockedUntil
  lockLevel := follows.lockLevel
  status := follows.status

theorem Follows.forget_of_none (follows : row.Follows policy machine)
    (none : row.hasFailures ≠ true) : machine.forget = machine := by
  unfold Machine.forget
  have zero : row.failures = 0 := by
    simp only [hasFailures, Bool.or_eq_true, not_or, bne_iff_ne, ne_eq, Decidable.not_not] at none
    exact none.1
  rw [follows.failures] at zero
  rw [← zero]

end Account

namespace AttemptRecord

structure Follows (policy : LockoutPolicy) (machine : Machine) (attempt : AttemptRecord) :
    Prop where
  consistent : attempt.LockConsistent policy
  failures : attempt.failures = machine.count
  lockedUntil : attempt.lockedUntil = machine.deadline

variable {policy : LockoutPolicy} {machine : Machine} {attempt : AttemptRecord} {now : Instant}

theorem follows_fresh (email : Email) (positive : 1 ≤ policy.threshold) :
    (fresh email).Follows policy {} := ⟨lockConsistent_fresh email positive, rfl, rfl⟩

theorem Follows.version (follows : attempt.Follows policy machine) (version : Int) :
    { attempt with version }.Follows policy machine :=
  ⟨follows.consistent.version version, follows.failures, follows.lockedUntil⟩

theorem Follows.lockState (follows : attempt.Follows policy machine) :
    attempt.lockState now = LockState.of machine.deadline now := by
  unfold AttemptRecord.lockState
  rw [follows.lockedUntil]

/-- A record lifts its lock and counts at once. -/
theorem Follows.registerFailure (follows : attempt.Follows policy machine)
    (notLocked : ∀ deadline, attempt.lockState now ≠ .lockedUntil deadline) :
    (attempt.registerFailure policy now).Follows policy (machine.lift.fail policy now) := by
  have lifted : machine.lift.count = machine.count := by
    unfold Machine.lift
    by_cases unlocked : machine.deadline = none
    · rw [if_pos unlocked]
    · rw [if_neg unlocked, ← follows.failures]
      rw [← follows.lockedUntil] at unlocked
      exact (follows.consistent.cleared unlocked).symm
  obtain ⟨failures, lockedUntil⟩ := follows.consistent.registerFailure_fields notLocked
  refine ⟨follows.consistent.registerFailure notLocked, ?_, ?_⟩
  · rw [failures, follows.failures]
    unfold Machine.fail
    rw [lifted]
    split <;> rfl
  · rw [lockedUntil, follows.failures]
    unfold Machine.fail
    rw [lifted]
    split
    · exact machine.lift_deadline.symm
    · rfl

end AttemptRecord

end Latchkey
