/-
The state of a lock at an instant, for accounts and for the records of emails that have
none: what each of the three states says about the fields.
-/

import Latchkey.Account.AttemptRecord

namespace Latchkey

open Time (Instant)

namespace LockState

theorem holds_or_open (state : LockState) :
    (∃ deadline, state = .lockedUntil deadline) ∨ ∀ deadline, state ≠ .lockedUntil deadline := by
  cases state with
  | lockedUntil deadline => exact Or.inl ⟨deadline, rfl⟩
  | unlocked => exact Or.inr fun _deadline locked => nomatch locked
  | expired => exact Or.inr fun _deadline locked => nomatch locked

theorem of_eq_lockedUntil {held : Option Instant} {now deadline : Instant} :
    LockState.of held now = .lockedUntil deadline ↔ held = some deadline ∧ now < deadline := by
  unfold LockState.of
  cases held with
  | none => simp
  | some held =>
      by_cases ahead : now < held
      · simp only [if_pos ahead, LockState.lockedUntil.injEq, Option.some.injEq]
        constructor
        · intro same
          exact ⟨same, same ▸ ahead⟩
        · intro both
          exact both.1
      · simp only [if_neg ahead, reduceCtorEq, Option.some.injEq, false_iff, not_and]
        intro same later
        exact ahead (same ▸ later)

theorem of_eq_unlocked {held : Option Instant} {now : Instant} :
    LockState.of held now = .unlocked ↔ held = none := by
  unfold LockState.of
  cases held with
  | none => simp
  | some held => by_cases ahead : now < held <;> simp [ahead]

theorem of_eq_expired {held : Option Instant} {now : Instant} :
    LockState.of held now = .expired ↔ ∃ deadline, held = some deadline ∧ ¬now < deadline := by
  unfold LockState.of
  cases held with
  | none => simp
  | some held => by_cases ahead : now < held <;> simp [ahead]

end LockState

namespace Account

variable {account : Account} {now : Instant}

theorem lockState_of_some {deadline : Instant} (held : account.lockedUntil = some deadline) :
    account.lockState now = LockState.of account.lockedUntil now := by
  unfold lockState LockState.of
  rw [held]
  by_cases ahead : now < deadline <;> simp [ahead]

theorem lockState_of_none (missing : account.lockedUntil = none) :
    account.lockState now = if account.status = .locked then .expired else .unlocked := by
  unfold lockState LockState.of
  rw [missing]

theorem lockState_eq_lockedUntil {deadline : Instant} :
    account.lockState now = .lockedUntil deadline ↔
      account.lockedUntil = some deadline ∧ now < deadline := by
  cases held : account.lockedUntil with
  | none =>
      rw [lockState_of_none held]
      by_cases locked : account.status = .locked <;> simp [locked]
  | some other => rw [lockState_of_some held, LockState.of_eq_lockedUntil, held]

theorem lockState_eq_unlocked :
    account.lockState now = .unlocked ↔ account.lockedUntil = none ∧ account.status ≠ .locked := by
  cases held : account.lockedUntil with
  | none =>
      rw [lockState_of_none held]
      by_cases locked : account.status = .locked <;> simp [locked]
  | some other =>
      rw [lockState_of_some held, LockState.of_eq_unlocked, held]
      simp

theorem lockState_eq_expired :
    account.lockState now = .expired ↔
      (∃ deadline, account.lockedUntil = some deadline ∧ ¬now < deadline) ∨
        account.lockedUntil = none ∧ account.status = .locked := by
  cases held : account.lockedUntil with
  | none =>
      rw [lockState_of_none held]
      by_cases locked : account.status = .locked <;> simp [locked]
  | some other =>
      rw [lockState_of_some held, LockState.of_eq_expired, held]
      simp

theorem lockState_liftLock (row : Account) (now : Instant) :
    (row.liftLock now).lockState now = .unlocked := by
  rw [lockState_eq_unlocked]
  refine ⟨rfl, ?_⟩
  by_cases locked : row.status = .locked <;> simp [liftLock, locked]

theorem lockState_congr {other : Account} (sameLock : account.lockedUntil = other.lockedUntil)
    (sameStatus : account.status = other.status) : account.lockState now = other.lockState now := by
  unfold lockState
  rw [sameLock, sameStatus]

end Account

namespace AttemptRecord

variable {attempt : AttemptRecord} {now : Instant}

theorem lockState_eq_lockedUntil {deadline : Instant} :
    attempt.lockState now = .lockedUntil deadline ↔
      attempt.lockedUntil = some deadline ∧ now < deadline := LockState.of_eq_lockedUntil

theorem lockState_eq_expired :
    attempt.lockState now = .expired ↔
      ∃ deadline, attempt.lockedUntil = some deadline ∧ ¬now < deadline := LockState.of_eq_expired

end AttemptRecord

end Latchkey
