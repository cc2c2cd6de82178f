/-
Steps on a row whose lock fields fit together. A step that passes the check before the
write keeps them so. The check is passed whenever the row has no lock or a lock that holds;
a lock that has run out and was not lifted first makes it fail.
-/

import Latchkey.Proofs.Lockout.Step

namespace Latchkey

open Time (Instant)

namespace Account

theorem lockAgrees_iff {account : Account} {now : Instant} :
    account.lockAgrees now = true ↔
      (account.status = .locked ↔
        ∃ deadline, account.lockedUntil = some deadline ∧ now < deadline) := by
  unfold lockAgrees
  cases account.lockedUntil with
  | none => by_cases locked : account.status = .locked <;> simp [locked]
  | some deadline =>
      by_cases locked : account.status = .locked <;> by_cases ahead : now < deadline <;>
        simp [locked, ahead]

theorem failuresAgree_of_none {account : Account} {now : Instant} (none : account.failures = 0) :
    account.failuresAgree now = true := by
  unfold failuresAgree
  simp [none]

theorem failuresAgree_of_last {account : Account} {now : Instant}
    (last : account.lastFailure = some now) : account.failuresAgree now = true := by
  have own : now ≤ now := Time.Instant.le_iff.mpr (Int.le_refl _)
  unfold failuresAgree
  simp [last, own]

theorem validate_liftLock (row : Account) (now : Instant) :
    (row.liftLock now).validate now = .ok () := by
  rw [validate_eq_ok]
  refine ⟨?_, failuresAgree_of_none rfl⟩
  rw [lockAgrees_iff]
  by_cases locked : row.status = .locked <;> simp [liftLock, locked]

theorem validate_engageLock {policy : LockoutPolicy} {row : Account} {now : Instant}
    (before : now < .latest) (lasting : 0 < policy.lockSpan.nanos) :
    (row.engageLock policy now).validate now = .ok () := by
  rw [validate_eq_ok]
  refine ⟨?_, failuresAgree_of_none rfl⟩
  rw [lockAgrees_iff]
  simp [engageLock, Time.Instant.lt_deadline before lasting]

theorem validate_countFailure {row : Account} {now : Instant} :
    (row.countFailure now).validate now = .ok () ↔
      (row.status = .locked ↔ ∃ deadline, row.lockedUntil = some deadline ∧ now < deadline) := by
  rw [validate_eq_ok, lockAgrees_iff, and_iff_left (failuresAgree_of_last rfl)]
  exact Iff.rfl

theorem validate_forgetFailures {row : Account} {now : Instant} :
    (row.forgetFailures now).validate now = .ok () ↔
      (row.status = .locked ↔ ∃ deadline, row.lockedUntil = some deadline ∧ now < deadline) := by
  rw [validate_eq_ok, lockAgrees_iff, and_iff_left (failuresAgree_of_none rfl)]
  exact Iff.rfl

theorem LockConsistent.agrees_iff {policy : LockoutPolicy} {row : Account} {now : Instant}
    (consistent : row.LockConsistent policy) :
    (row.status = .locked ↔ ∃ deadline, row.lockedUntil = some deadline ∧ now < deadline) ↔
      row.lockState now ≠ .expired := by
  rw [Ne, consistent.expired_iff, consistent.locked_iff]
  cases row.lockedUntil with
  | none => simp
  | some deadline => simp

end Account

namespace Lockout.Step

variable {policy : LockoutPolicy} {now : Instant} {row : Account}

theorem validate_change {step : Step} (consistent : row.LockConsistent policy)
    (before : now < .latest) (lasting : 0 < policy.lockSpan.nanos) :
    (step.change policy now row).validate now = .ok () ↔
      (row.lockState now = .expired → step = .lift ∨ step = .count ∧ policy.threshold = 1) := by
  cases step with
  | lift => simp [change, Account.validate_liftLock]
  | count =>
      change (row.registerFailure policy now).validate now = .ok () ↔ _
      have bounded := consistent.bounded
      by_cases below : row.failures + 1 < policy.threshold
      · rw [Account.registerFailure_below below, Account.validate_countFailure,
          consistent.agrees_iff]
        have several : policy.threshold ≠ 1 := by omega
        simp [several]
      · rw [Account.registerFailure_reaching below]
        refine ⟨?_, fun _rule => Account.validate_engageLock before lasting⟩
        intro _valid expired
        obtain ⟨deadline, held, _past⟩ := consistent.expired_iff.mp expired
        have cleared := (consistent.locked_of_some held).2
        right
        exact ⟨rfl, by omega⟩
  | forget =>
      change (row.forgetFailures now).validate now = .ok () ↔ _
      rw [Account.validate_forgetFailures, consistent.agrees_iff]
      simp

theorem validate_change_of_unlocked (step : Step) (unlocked : row.lockState now = .unlocked)
    (before : now < .latest) (lasting : 0 < policy.lockSpan.nanos) :
    (step.change policy now row).validate now = .ok () := by
  obtain ⟨missing, notLocked⟩ := Account.lockState_eq_unlocked.mp unlocked
  have agrees : row.status = .locked ↔ ∃ deadline, row.lockedUntil = some deadline ∧ now < deadline := by
    simp [missing, notLocked]
  cases step with
  | lift => exact Account.validate_liftLock row now
  | count =>
      change (row.registerFailure policy now).validate now = .ok ()
      by_cases below : row.failures + 1 < policy.threshold
      · rw [Account.registerFailure_below below]
        exact Account.validate_countFailure.mpr agrees
      · rw [Account.registerFailure_reaching below]
        exact Account.validate_engageLock before lasting
  | forget => exact Account.validate_forgetFailures.mpr agrees

theorem consistent_change {step : Step} (consistent : row.LockConsistent policy)
    (applies : step.Applies now row)
    (valid : (step.change policy now row).validate now = .ok ()) :
    (step.change policy now row).LockConsistent policy := by
  have bounded := consistent.bounded
  cases step with
  | lift =>
      refine ⟨?_, fun _locked => rfl, Nat.lt_of_le_of_lt (Nat.zero_le _) bounded,
        fun counted => absurd rfl counted⟩
      by_cases locked : row.status = .locked <;> simp [change, Account.liftLock, locked]
  | count =>
      change (row.registerFailure policy now).validate now = .ok () at valid
      change (row.registerFailure policy now).LockConsistent policy
      by_cases below : row.failures + 1 < policy.threshold
      · rw [Account.registerFailure_below below] at valid ⊢
        rw [Account.validate_countFailure, consistent.agrees_iff] at valid
        refine ⟨consistent.locked_iff, ?_, below, fun _counted => Option.some_ne_none now⟩
        intro held
        -- A row with a lock either refuses the count or has run out, which the check finds.
        obtain ⟨deadline, same⟩ := Option.ne_none_iff_exists'.mp held
        by_cases ahead : now < deadline
        · exact absurd (Account.lockState_eq_lockedUntil.mpr ⟨same, ahead⟩) (applies deadline)
        · exact absurd (consistent.expired_iff.mpr ⟨deadline, same, ahead⟩) valid
      · rw [Account.registerFailure_reaching below]
        refine ⟨?_, fun _locked => rfl, Nat.lt_of_le_of_lt (Nat.zero_le _) bounded,
          fun counted => absurd rfl counted⟩
        simp [Account.engageLock]
  | forget =>
      exact ⟨consistent.locked_iff, fun _locked => rfl,
        Nat.lt_of_le_of_lt (Nat.zero_le _) bounded, fun counted => absurd rfl counted⟩

/-- The failures that a step adds to those that a row stands for. -/
def added : Step → Nat
  | lift => 0
  | count => 1
  | forget => 0

/-- The failures that a step takes from those that a row stands for. -/
def forgotten : Step → Account → Nat
  | lift, _ => 0
  | count, _ => 0
  | forget, row => row.failures

end Lockout.Step

end Latchkey
