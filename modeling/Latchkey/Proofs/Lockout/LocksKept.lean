/-
No race lifts a lock early. Whatever is written over a row or a record, a lock on it that
lies ahead of the writer ends just when it did: of the steps on a row only forgetting
applies to it, and a record with one is not written at all.
-/

import Latchkey.Proofs.Lockout.StoredRows

namespace Latchkey.Lockout

open Session (Move Run)
open Store (Memory)
open Time (Instant)

section Turns

variable {policy : LockoutPolicy} {now deadline : Instant} {row : Account} {store after : Memory}

theorem Step.lockedUntil_change {step : Step} (applies : step.Applies now row)
    (held : row.lockedUntil = some deadline) (ahead : now < deadline) :
    (step.change policy now row).lockedUntil = some deadline := by
  have locked : row.lockState now = .lockedUntil deadline :=
    Account.lockState_eq_lockedUntil.mpr ⟨held, ahead⟩
  -- A lock that holds is not expired and does not let a failure count.
  cases step with
  | lift =>
      have expired : row.lockState now = .expired := applies
      rw [locked] at expired
      cases expired
  | count => exact absurd locked (applies deadline)
  | forget => exact held

/-- A lock on the row of an email that lies ahead of a turn is there after it. -/
theorem Exchanged.keeps_account {leave : Leave} {exchange : Exchange Service}
    (exchanged : Exchanged policy now store leave exchange after) {email : Email}
    (found : store.findAccount email = some row) (held : row.lockedUntil = some deadline)
    (ahead : now < deadline) :
    ∃ kept, after.findAccount email = some kept ∧ kept.lockedUntil = some deadline := by
  cases exchanged with
  | @wrote step given _given current applies _valid =>
      rw [Memory.findAccount_withAccount, step.next_change_email]
      by_cases own : email = given.email
      · rw [own, current] at found
        cases found
        exact ⟨_, if_pos own, Step.lockedUntil_change applies held ahead⟩
      · exact ⟨row, (if_neg own).trans found, held⟩
  | wroteAttempts _given _current _notLocked => exact ⟨row, found, held⟩
  | found | late | foundAttempts | lateAttempts => exact ⟨row, found, held⟩

theorem Exchanged.keeps_record {leave : Leave} {exchange : Exchange Service}
    (exchanged : Exchanged policy now store leave exchange after) {email : Email} {record : AttemptRecord}
    (found : store.findAttempts email = some record) (held : record.lockedUntil = some deadline)
    (ahead : now < deadline) :
    ∃ kept, after.findAttempts email = some kept ∧ kept.lockedUntil = some deadline := by
  cases exchanged with
  | @wroteAttempts given _given current notLocked =>
      have sameEmail : (given.registerFailure policy now).next.email = given.email :=
        AttemptRecord.registerFailure_email
      rw [Memory.findAttempts_withAttempts, sameEmail]
      by_cases own : email = given.email
      · have stored : store.attemptsOf given.email = record := by
          rw [← own, Memory.attemptsOf, found]
          rfl
        rw [← current, stored] at notLocked
        exact absurd (AttemptRecord.lockState_eq_lockedUntil.mpr ⟨held, ahead⟩) (notLocked deadline)
      · exact ⟨record, (if_neg own).trans found, held⟩
  | wrote _given _current _applies _valid => exact ⟨record, found, held⟩
  | found | late | foundAttempts | lateAttempts => exact ⟨record, found, held⟩

end Turns

variable {Call : Type} [DecidableEq Call] {policy : LockoutPolicy} {store : Memory}
  {operations : Call → Operation} {session : Operations Call}

theorem exchanged_of_run (keyed : store.Keyed)
    (run : Run Memory.Answers (begun policy store operations) session)
    {turn : Turn Memory Call Service} (member : turn ∈ session.history) :
    ∃ leave,
      Exchanged policy (operations turn.call).now turn.before leave turn.exchange turn.after := by
  induction run with
  | start => cases member
  | move run move ih =>
      rcases List.mem_cons.mp member with rfl | earlier
      · exact ⟨_, (sound_of_run keyed run).exchanged move⟩
      · exact ih earlier

/-- Whatever operations run side by side, and on whatever the store holds, no turn of theirs
changes the end of a lock that lies ahead of the operation whose turn it is. -/
theorem locks_kept (keyed : store.Keyed)
    (run : Run Memory.Answers (begun policy store operations) session)
    {turn : Turn Memory Call Service} (member : turn ∈ session.history) {deadline : Instant}
    (ahead : (operations turn.call).now < deadline) (email : Email) :
    (∀ row, turn.before.findAccount email = some row → row.lockedUntil = some deadline →
      ∃ kept, turn.after.findAccount email = some kept ∧ kept.lockedUntil = some deadline) ∧
    ∀ record, turn.before.findAttempts email = some record → record.lockedUntil = some deadline →
      ∃ kept, turn.after.findAttempts email = some kept ∧ kept.lockedUntil = some deadline := by
  obtain ⟨leave, exchanged⟩ := exchanged_of_run keyed run member
  constructor
  · intro row found held
    exact exchanged.keeps_account found held ahead
  · intro record found held
    exact exchanged.keeps_record found held ahead

/-- Whether a turn is a write over a lock that lies ahead of its operation. -/
def Overtaken (turn : Turn Memory (Fin 4) Service) : Prop :=
  writes ⟨"ada@b.org"⟩ turn = true ∧
    lockEnd turn.before ⟨"ada@b.org"⟩ = some (.deadline .epoch (.ofSeconds 10)) ∧
    (race turn.call).now < .deadline .epoch (.ofSeconds 10)

instance (turn : Turn Memory (Fin 4) Service) : Decidable (Overtaken turn) :=
  inferInstanceAs (Decidable (_ ∧ _ ∧ _))

/-- The success that the lock overtook wipes the failures of the row and leaves the lock. -/
theorem locks_kept_raced :
    ∃ turn ∈ raced.history, Overtaken turn ∧
      ∃ kept, turn.after.findAccount ⟨"ada@b.org"⟩ = some kept ∧
        kept.lockedUntil = some ⟨10, 0, by decide, by decide⟩ := by
  have happened : raced.history.any (fun turn => Overtaken turn) = true := by decide +kernel
  obtain ⟨turn, member, decided⟩ := List.any_eq_true.mp happened
  have overtaken : Overtaken turn := of_decide_eq_true decided
  obtain ⟨row, found, held⟩ := Option.bind_eq_some_iff.mp overtaken.2.1
  have kept := locks_kept SignIn.oneAccount_ofNewUsers.keyed
    (Session.Run.start.follow answering _) member overtaken.2.2 ⟨"ada@b.org"⟩
  exact ⟨turn, member, overtaken, kept.1 row found held⟩

end Latchkey.Lockout
