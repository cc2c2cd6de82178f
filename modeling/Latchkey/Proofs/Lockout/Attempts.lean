/-
The record of an email that has no account. A failure lifts a lock that has run out and is
counted in the same step; the lock fields of a record fit together as those of an account
do, without a status and without a level.
-/

import Latchkey.Proofs.Lockout.LockState

namespace Latchkey.AttemptRecord

open Time (Instant)

variable {attempt : AttemptRecord} {policy : LockoutPolicy} {now : Instant}

/-- What an attempt on a record with no lock that holds starts from: lifting leaves the
counter alone, since there are no failures beside a lock. -/
theorem liftExpired_eq (cleared : attempt.lockedUntil ≠ none → attempt.failures = 0)
    (notLocked : ∀ deadline, attempt.lockState now ≠ .lockedUntil deadline) :
    attempt.liftExpired now = { attempt with lockedUntil := none } := by
  unfold liftExpired
  by_cases expired : attempt.lockState now = .expired
  · rw [if_pos expired]
    obtain ⟨deadline, held, _past⟩ := lockState_eq_expired.mp expired
    have none := cleared (by rw [held]; exact Option.some_ne_none deadline)
    rw [none]
  · rw [if_neg expired]
    have missing : attempt.lockedUntil = none := by
      cases held : attempt.lockedUntil with
      | none => rfl
      | some deadline =>
          by_cases ahead : now < deadline
          · exact absurd (lockState_eq_lockedUntil.mpr ⟨held, ahead⟩) (notLocked deadline)
          · exact absurd (lockState_eq_expired.mpr ⟨deadline, held, ahead⟩) expired
    rw [← missing]

theorem registerFailure_email : (attempt.registerFailure policy now).email = attempt.email := by
  unfold registerFailure liftExpired
  dsimp only
  split <;> split <;> rfl

theorem registerFailure_version :
    (attempt.registerFailure policy now).version = attempt.version := by
  unfold registerFailure liftExpired
  dsimp only
  split <;> split <;> rfl

structure LockConsistent (policy : LockoutPolicy) (attempt : AttemptRecord) : Prop where
  cleared : attempt.lockedUntil ≠ none → attempt.failures = 0
  bounded : attempt.failures < policy.threshold

theorem lockConsistent_fresh (email : Email) (positive : 1 ≤ policy.threshold) :
    (fresh email).LockConsistent policy := ⟨fun _locked => rfl, positive⟩

theorem LockConsistent.version (consistent : attempt.LockConsistent policy) (version : Int) :
    { attempt with version }.LockConsistent policy := ⟨consistent.cleared, consistent.bounded⟩

theorem LockConsistent.failureLocks_iff (consistent : attempt.LockConsistent policy)
    (notLocked : ∀ deadline, attempt.lockState now ≠ .lockedUntil deadline) :
    attempt.failureLocks policy now = true ↔ policy.threshold = attempt.failures + 1 := by
  have bounded := consistent.bounded
  unfold failureLocks
  rw [liftExpired_eq consistent.cleared notLocked, decide_eq_true_iff]
  dsimp only
  omega

theorem LockConsistent.registerFailure_fields (consistent : attempt.LockConsistent policy)
    (notLocked : ∀ deadline, attempt.lockState now ≠ .lockedUntil deadline) :
    (attempt.registerFailure policy now).failures
        = (if attempt.failures + 1 < policy.threshold then attempt.failures + 1 else 0) ∧
      (attempt.registerFailure policy now).lockedUntil
        = (if attempt.failures + 1 < policy.threshold then none
          else some (now.deadline policy.lockSpan)) := by
  unfold registerFailure
  rw [liftExpired_eq consistent.cleared notLocked]
  by_cases below : attempt.failures + 1 < policy.threshold
  · simp [countFailure, below]
  · simp [countFailure, engageLock, below]

theorem LockConsistent.registerFailure (consistent : attempt.LockConsistent policy)
    (notLocked : ∀ deadline, attempt.lockState now ≠ .lockedUntil deadline) :
    (attempt.registerFailure policy now).LockConsistent policy := by
  have bounded := consistent.bounded
  obtain ⟨failures, lockedUntil⟩ := consistent.registerFailure_fields notLocked
  constructor
  · intro locked
    rw [lockedUntil] at locked
    rw [failures]
    by_cases below : attempt.failures + 1 < policy.threshold
    · rw [if_pos below] at locked
      exact absurd rfl locked
    · exact if_neg below
  · rw [failures]
    split <;> omega

/-- The failures that a record and a number of earlier locks stand for grow by one. -/
theorem LockConsistent.counted (consistent : attempt.LockConsistent policy)
    (notLocked : ∀ deadline, attempt.lockState now ≠ .lockedUntil deadline) (locks : Nat) :
    policy.threshold * (locks + if attempt.failureLocks policy now then 1 else 0)
        + (attempt.registerFailure policy now).failures
      = policy.threshold * locks + attempt.failures + 1 := by
  have bounded := consistent.bounded
  rw [(consistent.registerFailure_fields notLocked).1]
  by_cases reached : policy.threshold = attempt.failures + 1
  · rw [if_pos ((consistent.failureLocks_iff notLocked).mpr reached), if_neg (by omega),
      Nat.mul_succ]
    omega
  · rw [if_neg (fun locks => reached ((consistent.failureLocks_iff notLocked).mp locks)),
      if_pos (by omega), Nat.add_zero]
    omega

end Latchkey.AttemptRecord
