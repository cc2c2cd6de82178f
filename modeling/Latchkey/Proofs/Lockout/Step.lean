/-
The steps that sign-ins take on a row: lifting a lock that has run out, counting a failure
and forgetting failures. What each step does and when it applies is said here once, and
what the lock fields of a row have in common is shown to survive every step that may be
written.
-/

import Latchkey.Lockout
import Latchkey.Proofs.Lockout.LockState
import Latchkey.Proofs.Store.Rows
import Latchkey.Proofs.Time.Deadline

namespace Latchkey

open Time (Instant)

namespace Account

theorem registerFailure_below {account : Account} {policy : LockoutPolicy} {now : Instant}
    (below : account.failures + 1 < policy.threshold) :
    account.registerFailure policy now = account.countFailure now := if_pos below

theorem registerFailure_reaching {account : Account} {policy : LockoutPolicy} {now : Instant}
    (reaching : ¬account.failures + 1 < policy.threshold) :
    account.registerFailure policy now = (account.countFailure now).engageLock policy now :=
  if_neg reaching

/-- The lock fields of a row that sign-ins keep: the status is locked exactly while a lock
has an end, no failures are counted beside a lock, the counter stays below the threshold,
and counted failures have a last one. -/
structure LockConsistent (policy : LockoutPolicy) (account : Account) : Prop where
  locked_iff : account.status = .locked ↔ account.lockedUntil ≠ none
  cleared : account.lockedUntil ≠ none → account.failures = 0
  bounded : account.failures < policy.threshold
  dated : account.failures ≠ 0 → account.lastFailure ≠ none

theorem lockConsistent_create {policy : LockoutPolicy} {account : NewAccount} (id : AccountId)
    (now : Instant) (positive : 1 ≤ policy.threshold) (active : account.status = .active) :
    (create account id now).LockConsistent policy where
  locked_iff := by simp [create, active]
  cleared := fun _locked => rfl
  bounded := positive
  dated := fun counted => absurd rfl counted

theorem LockConsistent.version {policy : LockoutPolicy} {account : Account}
    (consistent : account.LockConsistent policy) (version : Int) :
    { account with version }.LockConsistent policy :=
  ⟨consistent.locked_iff, consistent.cleared, consistent.bounded, consistent.dated⟩

theorem LockConsistent.expired_iff {policy : LockoutPolicy} {account : Account} {now : Instant}
    (consistent : account.LockConsistent policy) :
    account.lockState now = .expired ↔
      ∃ deadline, account.lockedUntil = some deadline ∧ ¬now < deadline := by
  rw [lockState_eq_expired]
  constructor
  · rintro (ended | ⟨missing, locked⟩)
    · exact ended
    · exact absurd missing (consistent.locked_iff.mp locked)
  · exact Or.inl

theorem LockConsistent.locked_of_some {policy : LockoutPolicy} {account : Account}
    {deadline : Instant} (consistent : account.LockConsistent policy)
    (held : account.lockedUntil = some deadline) :
    account.status = .locked ∧ account.failures = 0 := by
  have present : account.lockedUntil ≠ none := by rw [held]; exact Option.some_ne_none deadline
  exact ⟨consistent.locked_iff.mpr present, consistent.cleared present⟩

theorem validate_eq_ok {account : Account} {now : Instant} :
    account.validate now = .ok () ↔
      account.lockAgrees now = true ∧ account.failuresAgree now = true := by
  unfold validate
  cases account.lockAgrees now <;> cases account.failuresAgree now <;> simp

theorem validate_eq_error {account : Account} {now : Instant} {failure : Failure}
    (refused : account.validate now = .error failure) : ∃ detail, failure = .internal detail := by
  unfold validate at refused
  split at refused
  · cases refused
    exact ⟨_, rfl⟩
  · split at refused
    · cases refused
      exact ⟨_, rfl⟩
    · cases refused

end Account

namespace Lockout

inductive Step where
  | lift
  | count
  | forget
  deriving DecidableEq, Repr

namespace Step

variable {policy : LockoutPolicy} {now : Instant} {row changed : Account}

def transition (policy : LockoutPolicy) (now : Instant) :
    Step → Account → Except Failure (Option Account)
  | lift => lifting now
  | count => counting policy now
  | forget => forgetting now

def change (policy : LockoutPolicy) (now : Instant) : Step → Account → Account
  | lift, row => row.liftLock now
  | count, row => row.registerFailure policy now
  | forget, row => row.forgetFailures now

/-- When there is something to write for a step. -/
def Applies (now : Instant) : Step → Account → Prop
  | lift, row => row.lockState now = .expired
  | count, row => ∀ deadline, row.lockState now ≠ .lockedUntil deadline
  | forget, row => row.hasFailures = true

theorem transition_eq_some {step : Step} :
    step.transition policy now row = .ok (some changed) ↔
      step.Applies now row ∧ step.change policy now row = changed := by
  cases step with
  | lift =>
      change lifting now row = .ok (some changed) ↔ row.lockState now = .expired ∧ _
      unfold lifting
      cases row.lockState now <;> simp [change]
  | count =>
      change counting policy now row = .ok (some changed) ↔
        (∀ deadline, row.lockState now ≠ .lockedUntil deadline) ∧ _
      unfold counting
      cases row.lockState now <;> simp [change]
  | forget =>
      change forgetting now row = .ok (some changed) ↔ row.hasFailures = true ∧ _
      unfold forgetting
      cases row.hasFailures <;> simp [change]

/-- Nothing is written only where a step does not apply; of the steps, only lifting is
refused, by a lock that holds. -/
theorem transition_eq_none {step : Step} :
    step.transition policy now row = .ok none ↔
      ¬step.Applies now row ∧ (step = .lift → row.lockState now = .unlocked) := by
  cases step with
  | lift =>
      change lifting now row = .ok none ↔ ¬row.lockState now = .expired ∧ _
      unfold lifting
      cases row.lockState now <;> simp
  | count =>
      change counting policy now row = .ok none ↔
        (¬∀ deadline, row.lockState now ≠ .lockedUntil deadline) ∧ _
      unfold counting
      cases row.lockState now <;> simp
  | forget =>
      change forgetting now row = .ok none ↔ ¬row.hasFailures = true ∧ _
      unfold forgetting
      cases row.hasFailures <;> simp

theorem transition_eq_error {step : Step} {failure : Failure} :
    step.transition policy now row = .error failure ↔
      step = .lift ∧ ∃ deadline, row.lockState now = .lockedUntil deadline ∧
        failure = .locked deadline := by
  cases step with
  | lift =>
      change lifting now row = .error failure ↔ _
      unfold lifting
      cases row.lockState now <;> simp [eq_comm]
  | count =>
      change counting policy now row = .error failure ↔ _
      unfold counting
      cases row.lockState now <;> simp
  | forget =>
      change forgetting now row = .error failure ↔ _
      unfold forgetting
      simp

theorem change_onlyRelocks (step : Step) (policy : LockoutPolicy) (now : Instant)
    (row : Account) : row.OnlyRelocks (step.change policy now row) := by
  cases step with
  | lift => rfl
  | count =>
      change row.OnlyRelocks (row.registerFailure policy now)
      by_cases below : row.failures + 1 < policy.threshold
      · rw [Account.registerFailure_below below]
        rfl
      · rw [Account.registerFailure_reaching below]
        rfl
  | forget => rfl

theorem next_change_email (step : Step) (policy : LockoutPolicy) (now : Instant) (row : Account) :
    (step.change policy now row).next.email = row.email :=
  (step.change_onlyRelocks policy now row).email

end Step

end Lockout

end Latchkey
