/-
Locks that are engaged while somebody signs in. The lock is looked at before the password;
after it, a success forgets the failures of whatever row it comes upon. So a right password
is admitted on a row whose lock holds exactly when the write of the success came too late
and the row was locked when it was read again.
-/

import Latchkey.Proofs.SignIn.Schedule

namespace Latchkey.SignIn

open Session (Run)
open Store (Memory)
open Time (Instant)

def LockHolds (now : Instant) (held : Option Account) : Prop :=
  ∃ row deadline, held = some row ∧ row.lockedUntil = some deadline ∧ now < deadline

theorem lockHolds_iff {now : Instant} {held : Option Account} :
    LockHolds now held ↔
      (held.bind (·.lockedUntil)).any (fun deadline => decide (now < deadline)) = true := by
  unfold LockHolds
  cases held with
  | none => simp
  | some row => cases locked : row.lockedUntil <;> simp [locked]

instance (now : Instant) (held : Option Account) : Decidable (LockHolds now held) :=
  decidable_of_iff _ lockHolds_iff.symm

theorem lockHolds_some {now : Instant} {row : Account} :
    LockHolds now (some row) ↔ ∃ deadline, row.lockState now = .lockedUntil deadline := by
  unfold LockHolds
  constructor
  · rintro ⟨_, deadline, ⟨⟩, locked⟩
    exact ⟨deadline, Account.lockState_eq_lockedUntil.mpr locked⟩
  · rintro ⟨deadline, locked⟩
    exact ⟨row, deadline, rfl, Account.lockState_eq_lockedUntil.mp locked⟩

theorem Ending.admitted_iff {policy : LockoutPolicy} {now : Instant} {reached : Standing}
    {pair : Token.Pair} (ending : Ending policy now reached (.ok pair)) :
    LockHolds now reached.row ↔ LockHolds now reached.reread := by
  cases ending with
  | @admitted row last _pair held sameLock settles _failures _valid =>
      rw [held, lockHolds_some, sameLock]
      rcases settles.unlocked_or_reread with ⟨unread, unlocked⟩ | reread
      · rw [unread, unlocked]
        constructor
        · rintro ⟨deadline, ⟨⟩⟩
        · rintro ⟨_, _, ⟨⟩, _⟩
      · rw [reread, lockHolds_some]

variable {Call : Type} [DecidableEq Call] {policy : LockoutPolicy} {store : Memory}
  {logins : Call → Login} {session : SignIns Call}

/-- Among sign-ins side by side, one is admitted on a row whose lock holds exactly when the
row that it read again after the verdict was locked. -/
theorem admitted_locked_iff (users : store.OfNewUsers) (positive : 1 ≤ policy.threshold)
    (run : Run Memory.Answers (begun policy store logins) session) {call : Call}
    {pair : Token.Pair} (ended : session.calls call = .done (.ok pair)) :
    LockHolds (logins call).now (standing (session.heard call)).row ↔
      LockHolds (logins call).now (standing (session.heard call)).reread :=
  ((sound_of_run users positive run).obedient.ended ended).admitted_iff

/-- A right password, looked at before the second of two wrong ones locks the account and
told to the store after it. -/
def lateLock : SignIns Racer :=
  follow (fun call => call = .late)
    (begun ⟨2, .ofSeconds 10⟩ oneAccount fun _ => ⟨"ada@b.org", "password", .epoch⟩)
    [.first, .first, .first, .late, .late, .second, .second, .second, .late, .late, .late, .late,
      .late]

theorem lateLock_admits : ∃ pair, lateLock.calls .late = .done (.ok pair) := by
  have ended : endedWith Except.isOk lateLock .late = true := by decide +kernel
  obtain ⟨outcome, reached, admitted⟩ := exists_of_endedWith ended
  cases outcome with
  | ok pair => exact ⟨pair, reached⟩
  | error failure => cases admitted

theorem admitted_locked_lateLock :
    ∃ pair, lateLock.calls .late = .done (.ok pair) ∧
      (LockHolds .epoch (standing (lateLock.heard .late)).row ↔
        LockHolds .epoch (standing (lateLock.heard .late)).reread) := by
  obtain ⟨pair, ended⟩ := lateLock_admits
  exact ⟨pair, ended,
    admitted_locked_iff oneAccount_ofNewUsers (by decide) (run_follow .start _) ended⟩

/-- A lock that holds does not stop every sign-in that raced with it. -/
theorem not_locks_stop_admissions :
    ¬∀ (policy : LockoutPolicy) (store : Memory) (logins : Racer → Login)
        (session : SignIns Racer),
      1 ≤ policy.threshold → 0 < policy.lockSpan.nanos → (∀ call, (logins call).now < .latest) →
      store.OfNewUsers → Run Memory.Answers (begun policy store logins) session →
      ∀ call pair, session.calls call = .done (.ok pair) →
        ¬LockHolds (logins call).now (standing (session.heard call)).row := by
  intro claim
  obtain ⟨pair, ended⟩ := lateLock_admits
  have stopped := claim _ oneAccount _ lateLock (by decide) (by decide) (fun _call => by decide)
    oneAccount_ofNewUsers (run_follow .start _) .late pair ended
  have locked : LockHolds .epoch (standing (lateLock.heard .late)).row := by decide +kernel
  exact stopped locked

end Latchkey.SignIn
