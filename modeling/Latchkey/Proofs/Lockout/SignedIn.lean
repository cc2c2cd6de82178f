/-
What a sign-in by itself makes of a row: nothing while a lock holds, and otherwise what the
verdict on the password makes of the row once a lock that has run out is lifted. This is
told for every row; where the row is in step with the lockout machine before, it is after.
-/

import Latchkey.Proofs.Lockout.Machine

namespace Latchkey

open Lockout (Machine Step)
open Time (Instant)

namespace Account

/-- The row on which the password is looked at, unless a lock holds. -/
def opened (row : Account) (now : Instant) : Account :=
  if row.lockState now = .expired then (row.liftLock now).next else row

def settled (policy : LockoutPolicy) (right : Bool) (now : Instant) (row : Account) : Account :=
  if right then if row.hasFailures then (row.forgetFailures now).next else row
  else (row.registerFailure policy now).next

def signedIn (policy : LockoutPolicy) (right : Bool) (now : Instant) (row : Account) : Account :=
  match row.lockState now with
  | .lockedUntil _ => row
  | _ => (row.opened now).settled policy right now

variable {policy : LockoutPolicy} {machine : Machine} {row : Account} {right : Bool} {now : Instant}

theorem settled_right_of_failures (counted : row.hasFailures = true) :
    row.settled policy true now = (row.forgetFailures now).next := by
  unfold settled
  rw [if_pos rfl, if_pos counted]

theorem settled_right_of_none (uncounted : row.hasFailures ≠ true) :
    row.settled policy true now = row := by
  unfold settled
  rw [if_pos rfl, if_neg uncounted]

theorem signedIn_locked {deadline : Instant} (locked : row.lockState now = .lockedUntil deadline) :
    row.signedIn policy right now = row := by
  unfold signedIn
  rw [locked]

theorem signedIn_open (notLocked : ∀ deadline, row.lockState now ≠ .lockedUntil deadline) :
    row.signedIn policy right now = (row.opened now).settled policy right now := by
  unfold signedIn
  cases state : row.lockState now with
  | lockedUntil deadline => exact absurd state (notLocked deadline)
  | unlocked => rfl
  | expired => rfl

theorem opened_of_unlocked (unlocked : row.lockState now = .unlocked) : row.opened now = row := by
  apply if_neg
  rw [unlocked]
  exact fun expired => nomatch expired

theorem opened_of_expired (expired : row.lockState now = .expired) :
    row.opened now = (row.liftLock now).next := if_pos expired

theorem lockState_opened (notLocked : ∀ deadline, row.lockState now ≠ .lockedUntil deadline) :
    (row.opened now).lockState now = .unlocked := by
  cases state : row.lockState now with
  | lockedUntil deadline => exact absurd state (notLocked deadline)
  | unlocked =>
      rw [opened_of_unlocked state]
      exact state
  | expired =>
      rw [opened_of_expired state]
      exact lockState_liftLock row now

structure SameUser (row other : Account) : Prop where
  email : other.email = row.email
  passwordHash : other.passwordHash = row.passwordHash

theorem SameUser.trans {first second third : Account} (left : first.SameUser second)
    (right : second.SameUser third) : first.SameUser third :=
  ⟨right.email.trans left.email, right.passwordHash.trans left.passwordHash⟩

theorem OnlyRelocks.sameUser {row changed : Account} (relocks : row.OnlyRelocks changed) :
    row.SameUser changed.next := by
  constructor <;> rw [relocks] <;> rfl

theorem sameUser_opened (row : Account) (now : Instant) : row.SameUser (row.opened now) := by
  unfold opened
  split
  · exact ⟨rfl, rfl⟩
  · exact ⟨rfl, rfl⟩

theorem sameUser_settled (policy : LockoutPolicy) (right : Bool) (now : Instant) (row : Account) :
    row.SameUser (row.settled policy right now) := by
  unfold settled
  split
  · split
    · exact ⟨rfl, rfl⟩
    · exact ⟨rfl, rfl⟩
  · exact (Step.count.change_onlyRelocks policy now row).sameUser

theorem sameUser_signedIn (policy : LockoutPolicy) (right : Bool) (now : Instant) (row : Account) :
    row.SameUser (row.signedIn policy right now) := by
  unfold signedIn
  split
  · exact ⟨rfl, rfl⟩
  · exact (row.sameUser_opened now).trans (sameUser_settled policy right now _)

theorem Follows.opened (follows : row.Follows policy machine)
    (notLocked : ∀ deadline, row.lockState now ≠ .lockedUntil deadline) :
    (row.opened now).Follows policy machine.lift := by
  cases state : row.lockState now with
  | lockedUntil deadline => exact absurd state (notLocked deadline)
  | unlocked =>
      rw [opened_of_unlocked state, follows.lift_of_unlocked state]
      exact follows
  | expired =>
      rw [opened_of_expired state]
      exact (follows.liftLock state).version _

theorem Follows.settled (follows : row.Follows policy machine)
    (unlocked : row.lockState now = .unlocked) (before : now < .latest)
    (lasting : 0 < policy.lockSpan.nanos) :
    (row.settled policy right now).Follows policy
      (if right then machine.forget else machine.fail policy now) := by
  cases right with
  | true =>
      rw [if_pos rfl]
      by_cases counted : row.hasFailures = true
      · rw [settled_right_of_failures counted]
        exact (follows.forgetFailures unlocked before lasting counted).version _
      · rw [settled_right_of_none counted, follows.forget_of_none counted]
        exact follows
  | false => exact (follows.registerFailure unlocked before lasting).version _

theorem Follows.signedIn (follows : row.Follows policy machine) (before : now < .latest)
    (lasting : 0 < policy.lockSpan.nanos) :
    (row.signedIn policy right now).Follows policy (machine.step policy right now).2 := by
  rcases (row.lockState now).holds_or_open with ⟨deadline, locked⟩ | notLocked
  · rw [signedIn_locked locked]
    rw [follows.lockState] at locked
    obtain ⟨held, ahead⟩ := LockState.of_eq_lockedUntil.mp locked
    rw [Machine.step_locked held ahead]
    exact follows
  · have settled : ((row.opened now).settled policy right now).Follows policy
        (if right then machine.lift.forget else machine.lift.fail policy now) :=
      (follows.opened notLocked).settled (lockState_opened notLocked) before lasting
    rw [signedIn_open notLocked]
    rw [follows.lockState] at notLocked
    rw [Machine.step_open notLocked]
    cases right <;> exact settled

/-- Whether the counter of a row and the end of its lock, whatever else is in it, are those
of a state of the machine. -/
structure Counts (machine : Machine) (row : Account) : Prop where
  failures : row.failures = machine.count
  lockedUntil : row.lockedUntil = machine.deadline
  cleared : row.status = .locked → row.lockedUntil = none → row.failures = 0

theorem Counts.opened (counts : row.Counts machine)
    (notLocked : ∀ deadline, row.lockState now ≠ .lockedUntil deadline) :
    (row.opened now).Counts machine.lift := by
  cases state : row.lockState now with
  | lockedUntil deadline => exact absurd state (notLocked deadline)
  | unlocked =>
      have missing := (lockState_eq_unlocked.mp state).1
      rw [counts.lockedUntil] at missing
      rw [opened_of_unlocked state, Machine.lift, if_pos missing]
      exact counts
  | expired =>
      have cleared : machine.lift.count = 0 := by
        unfold Machine.lift
        by_cases missing : machine.deadline = none
        · rw [if_pos missing, ← counts.failures]
          rw [← counts.lockedUntil] at missing
          rcases lockState_eq_expired.mp state with ⟨deadline, held, _past⟩ | ⟨_missing, locked⟩
          · rw [missing] at held
            cases held
          · exact counts.cleared locked missing
        · rw [if_neg missing]
      rw [opened_of_expired state]
      exact ⟨cleared.symm, machine.lift_deadline.symm, fun _locked _missing => rfl⟩

theorem Counts.registerFailure (counts : row.Counts machine)
    (unlocked : row.lockState now = .unlocked) :
    (row.registerFailure policy now).next.Counts (machine.fail policy now) := by
  obtain ⟨_missing, active⟩ := lockState_eq_unlocked.mp unlocked
  unfold Machine.fail
  rw [← counts.failures]
  by_cases below : row.failures + 1 < policy.threshold
  · rw [registerFailure_below below, if_pos below]
    exact ⟨rfl, counts.lockedUntil, fun locked => absurd locked active⟩
  · rw [registerFailure_reaching below, if_neg below]
    exact ⟨rfl, rfl, fun _locked missing => nomatch missing⟩

theorem Counts.signedIn_wrong (counts : row.Counts machine) (policy : LockoutPolicy)
    (now : Instant) :
    (row.signedIn policy false now).Counts (machine.step policy false now).2 ∧
      Machine.Answer.to (row.lockState now) false = (machine.step policy false now).1 := by
  rw [Machine.step_answer, ← counts.lockedUntil]
  rcases (row.lockState now).holds_or_open with ⟨deadline, locked⟩ | notLocked
  · have held := lockState_eq_lockedUntil.mp locked
    rw [signedIn_locked locked, locked, LockState.of_eq_lockedUntil.mpr held]
    rw [counts.lockedUntil] at held
    rw [Machine.step_locked held.1 held.2]
    exact ⟨counts, rfl⟩
  · have open' : ∀ deadline, LockState.of row.lockedUntil now ≠ .lockedUntil deadline := by
      intro deadline locked
      exact notLocked deadline (lockState_eq_lockedUntil.mpr (LockState.of_eq_lockedUntil.mp locked))
    rw [signedIn_open notLocked, Machine.Answer.to_open notLocked, Machine.Answer.to_open open']
    rw [counts.lockedUntil] at open'
    rw [Machine.step_open open']
    exact ⟨(counts.opened notLocked).registerFailure (lockState_opened notLocked), rfl⟩

end Account

end Latchkey
