/-
The failures of sign-ins that run side by side. The history tells which writes the store
took, of whom and over what; each is a step on exactly the row that stood there before.
So the failures that were written are those that the locks and the counter of the row stand
for together with those that a success wiped, in whichever order the sign-ins ran.
-/

import Latchkey.Proofs.Lockout.Tallies
import Latchkey.Proofs.SignIn.Schedule

namespace Latchkey.SignIn

open Lockout (Step Tallied engages)
open Session (Move Run)
open Store (Memory)
open Time (Instant)

structure RowWrite (Call : Type) where
  call : Call
  step : Step
  written : Account
  before : Memory
  after : Memory

structure RecordWrite (Call : Type) where
  call : Call
  written : AttemptRecord
  before : Memory
  after : Memory

variable {Call : Type} [DecidableEq Call]

/-- The rows that were written, the latest first. What a call was told before a write says
as which step it wrote. -/
def rowWrites : List (Turn Memory Call Service) → List (RowWrite Call)
  | [] => []
  | turn :: earlier =>
      match turn.exchange with
      | ⟨.writeLock _, .ok written⟩ =>
          ⟨turn.call, (standing (conversation turn.call earlier)).step, written, turn.before,
            turn.after⟩ :: rowWrites earlier
      | _ => rowWrites earlier

def recordWrites : List (Turn Memory Call Service) → List (RecordWrite Call)
  | [] => []
  | turn :: earlier =>
      match turn.exchange with
      | ⟨.writeAttempts _, .ok written⟩ =>
          ⟨turn.call, written, turn.before, turn.after⟩ :: recordWrites earlier
      | _ => recordWrites earlier

def failuresBy (call : Call) (history : List (Turn Memory Call Service)) : Nat :=
  (rowWrites history).countP fun write => write.call = call ∧ write.step = .count

def failuresOn (email : Email) (history : List (Turn Memory Call Service)) : Nat :=
  (rowWrites history).countP fun write => write.written.email = email ∧ write.step = .count

def RowWrite.forgotten (write : RowWrite Call) : Nat :=
  match write.before.findAccount write.written.email with
  | none => 0
  | some row => write.step.forgotten row

def forgottenOn (email : Email) (history : List (Turn Memory Call Service)) : Nat :=
  ((rowWrites history).filter fun write => write.written.email = email).foldr
    (fun write total => write.forgotten + total) 0

def recordFailuresBy (call : Call) (history : List (Turn Memory Call Service)) : Nat :=
  (recordWrites history).countP fun write => write.call = call

def recordFailuresOn (email : Email) (history : List (Turn Memory Call Service)) : Nat :=
  (recordWrites history).countP fun write => write.written.email = email

def recordLocksOn (policy : LockoutPolicy) (logins : Call → Login) (email : Email)
    (history : List (Turn Memory Call Service)) : Nat :=
  (recordWrites history).countP fun write =>
    write.written.email = email ∧
      (write.before.attemptsOf email).failureLocks policy (logins write.call).now = true

/-- Whether a write is a step on exactly the row that stood under the email of its sign-in. -/
def RowWrite.Transforms (policy : LockoutPolicy) (login : Login) (write : RowWrite Call) : Prop :=
  ∃ row, login.Owns row.email ∧ write.before.findAccount row.email = some row ∧
    write.step.Applies login.now row ∧
    write.written = (write.step.change policy login.now row).next ∧
    write.after = write.before.withAccount write.written

def RecordWrite.Transforms (policy : LockoutPolicy) (login : Login) (write : RecordWrite Call) :
    Prop :=
  ∃ record, login.Owns record.email ∧ write.before.attemptsOf record.email = record ∧
    (∀ deadline, record.lockState login.now ≠ .lockedUntil deadline) ∧
    write.written = (record.registerFailure policy login.now).next ∧
    write.after = write.before.withAttempts write.written

section Write

variable {call : Call} {changed written : Account} {before after : Memory}
  {history : List (Turn Memory Call Service)} {policy : LockoutPolicy} {logins : Call → Login}

theorem failuresBy_written :
    failuresBy call (⟨call, ⟨.writeLock changed, .ok written⟩, before, after⟩ :: history)
      = failuresBy call history + (standing (conversation call history)).step.added := by
  unfold failuresBy
  rw [rowWrites, List.countP_cons]
  cases (standing (conversation call history)).step <;> simp [Step.added]

theorem failuresBy_other {turn : Turn Memory Call Service} (other : turn.call ≠ call) :
    failuresBy call (turn :: history) = failuresBy call history := by
  unfold failuresBy
  rw [rowWrites]
  split
  · rw [List.countP_cons]
    simp [other]
  · rfl

theorem failuresOn_written (email : Email) :
    failuresOn email (⟨call, ⟨.writeLock changed, .ok written⟩, before, after⟩ :: history)
      = failuresOn email history
        + if written.email = email then (standing (conversation call history)).step.added else 0 := by
  unfold failuresOn
  rw [rowWrites, List.countP_cons]
  by_cases same : written.email = email
  · cases (standing (conversation call history)).step <;> simp [same, Step.added]
  · simp [same]

theorem forgottenOn_written (email : Email) {row : Account}
    (found : before.findAccount written.email = some row) :
    forgottenOn email (⟨call, ⟨.writeLock changed, .ok written⟩, before, after⟩ :: history)
      = forgottenOn email history
        + if written.email = email then
            (standing (conversation call history)).step.forgotten row
          else 0 := by
  unfold forgottenOn
  rw [rowWrites]
  by_cases same : written.email = email
  · rw [List.filter_cons_of_pos (by simpa using same), List.foldr_cons, if_pos same, Nat.add_comm]
    unfold RowWrite.forgotten
    rw [found]
  · rw [List.filter_cons_of_neg (by simpa using same), if_neg same, Nat.add_zero]

variable {counted recorded : AttemptRecord}

theorem recordFailuresBy_written :
    recordFailuresBy call
        (⟨call, ⟨.writeAttempts counted, .ok recorded⟩, before, after⟩ :: history)
      = recordFailuresBy call history + 1 := by
  unfold recordFailuresBy
  rw [recordWrites, List.countP_cons]
  simp

theorem recordFailuresBy_other {turn : Turn Memory Call Service} (other : turn.call ≠ call) :
    recordFailuresBy call (turn :: history) = recordFailuresBy call history := by
  unfold recordFailuresBy
  rw [recordWrites]
  split
  · rw [List.countP_cons]
    simp [other]
  · rfl

omit [DecidableEq Call] in
theorem recordFailuresOn_written (email : Email) :
    recordFailuresOn email (⟨call, ⟨.writeAttempts counted, .ok recorded⟩, before, after⟩ :: history)
      = recordFailuresOn email history + if recorded.email = email then 1 else 0 := by
  unfold recordFailuresOn
  rw [recordWrites, List.countP_cons]
  simp

omit [DecidableEq Call] in
theorem recordLocksOn_written (email : Email) :
    recordLocksOn policy logins email
        (⟨call, ⟨.writeAttempts counted, .ok recorded⟩, before, after⟩ :: history)
      = recordLocksOn policy logins email history
        + if recorded.email = email ∧
            (before.attemptsOf email).failureLocks policy (logins call).now = true
          then 1 else 0 := by
  unfold recordLocksOn
  rw [recordWrites, List.countP_cons]
  simp

end Write

theorem standing_failures (call : Call) (history : List (Turn Memory Call Service)) :
    (standing (conversation call history)).failures
      = ⟨failuresBy call history, recordFailuresBy call history⟩ := by
  induction history with
  | nil => rfl
  | cons turn earlier ih =>
      by_cases mine : turn.call = call
      · obtain ⟨caller, ⟨request, reply⟩, before, after⟩ := turn
        cases mine
        rw [conversation, if_pos rfl]
        -- Only what the store took is noted among the failures.
        cases request with
        | writeLock changed =>
            cases reply with
            | error failure => exact ih
            | ok written =>
                rw [failuresBy_written]
                change Tally.mk ((standing (conversation caller earlier)).failures.rows + _)
                  (standing (conversation caller earlier)).failures.records = _
                rw [ih]
                rfl
        | writeAttempts changed =>
            cases reply with
            | error failure => exact ih
            | ok written =>
                rw [recordFailuresBy_written]
                change Tally.mk (standing (conversation caller earlier)).failures.rows
                  ((standing (conversation caller earlier)).failures.records + 1) = _
                rw [ih]
                rfl
        | findAccount email => cases reply <;> exact ih
        | findAttempts email => cases reply <;> exact ih
        | verify hash password => cases reply <;> exact ih
        | sign request => cases reply <;> exact ih
        | createAccount | createAccountWith | hash | readToken | exchange | random | clock =>
            exact ih
      · rw [conversation, if_neg mine, ih, failuresBy_other mine, recordFailuresBy_other mine]

/-- The books of a store and the history that led to it: each write is a step on what stood
there, and the failures written are those stood for together with those wiped. -/
structure Balanced (policy : LockoutPolicy) (logins : Call → Login) (store : Memory)
    (history : List (Turn Memory Call Service)) : Prop where
  rows : ∀ write ∈ rowWrites history, write.Transforms policy (logins write.call)
  records : ∀ write ∈ recordWrites history, write.Transforms policy (logins write.call)
  onRow : ∀ email row, store.findAccount email = some row →
    failuresOn email history
      = policy.threshold * history.countP (engages email) + row.failures
        + forgottenOn email history
  onRecord : ∀ email,
    recordFailuresOn email history
      = policy.threshold * recordLocksOn policy logins email history
        + (store.attemptsOf email).failures

variable {policy : LockoutPolicy} {logins : Call → Login} {store after : Memory}
  {history : List (Turn Memory Call Service)}

theorem balanced_newUsers (users : store.OfNewUsers) :
    Balanced policy logins store ([] : List (Turn Memory Call Service)) where
  rows := fun _write written => nomatch written
  records := fun _write written => nomatch written
  onRow := by
    intro email row found
    obtain ⟨account, id, now, _active, rfl⟩ := users.exists_create found
    rfl
  onRecord := by
    intro email
    rw [users.attemptsOf]
    rfl

private theorem Balanced.rowWritten {call : Call} {row : Account} {step : Step}
    (balanced : Balanced policy logins store history)
    (taken : (standing (conversation call history)).step = step)
    (consistent : row.LockConsistent policy) (mine : (logins call).Owns row.email)
    (current : store.findAccount row.email = some row)
    (applies : step.Applies (logins call).now row)
    (valid : (step.change policy (logins call).now row).validate (logins call).now = .ok ()) :
    let written := (step.change policy (logins call).now row).next
    Balanced policy logins (store.withAccount written)
      (⟨call, ⟨.writeLock (step.change policy (logins call).now row), .ok written⟩, store,
        store.withAccount written⟩ :: history) := by
  subst taken
  have relocks := (standing (conversation call history)).step.change_onlyRelocks policy
    (logins call).now row
  refine ⟨?_, balanced.records, ?_, balanced.onRecord⟩
  · intro write member
    rw [rowWrites] at member
    rcases List.mem_cons.mp member with rfl | earlier
    · exact ⟨row, mine, current, applies, rfl, rfl⟩
    · exact balanced.rows write earlier
  · intro email other found
    have sameEmail := (standing (conversation call history)).step.next_change_email policy
      (logins call).now row
    rw [failuresOn_written, forgottenOn_written email (relocks.email ▸ current), sameEmail]
    rw [Memory.findAccount_withAccount, sameEmail] at found
    by_cases same : email = row.email
    · subst same
      rw [if_pos rfl] at found
      cases found
      rw [if_pos rfl, if_pos rfl, Account.next_failures,
        Lockout.countP_engages_wrote current, Nat.mul_add]
      -- what the step adds, it counts on the row or turns into a lock
      have before := balanced.onRow row.email row current
      have counted := Step.failures_change consistent applies valid
      omega
    · rw [if_neg same] at found
      rw [if_neg (Ne.symm same), if_neg (Ne.symm same),
        Lockout.countP_engages_of_unwritten (Lockout.writes_wrote_other _ call _ _ same)]
      exact balanced.onRow email other found

private theorem Balanced.recordWritten {call : Call} {record : AttemptRecord}
    (balanced : Balanced policy logins store history)
    (consistent : record.LockConsistent policy) (mine : (logins call).Owns record.email)
    (current : store.attemptsOf record.email = record)
    (notLocked : ∀ deadline, record.lockState (logins call).now ≠ .lockedUntil deadline) :
    let written := (record.registerFailure policy (logins call).now).next
    Balanced policy logins (store.withAttempts written)
      (⟨call, ⟨.writeAttempts (record.registerFailure policy (logins call).now), .ok written⟩, store,
        store.withAttempts written⟩ :: history) := by
  refine ⟨balanced.rows, ?_, balanced.onRow, ?_⟩
  · intro write member
    rw [recordWrites] at member
    rcases List.mem_cons.mp member with rfl | earlier
    · exact ⟨record, mine, current, notLocked, rfl, rfl⟩
    · exact balanced.records write earlier
  · intro email
    rw [recordFailuresOn_written, recordLocksOn_written, Memory.attemptsOf_withAttempts]
    have before := balanced.onRecord email
    by_cases same : email = record.email
    · subst same
      rw [current] at before
      have counted := consistent.counted notLocked
        (recordLocksOn policy logins record.email history)
      simp only [AttemptRecord.next_email, AttemptRecord.next_failures,
        AttemptRecord.registerFailure_email, current, if_true, true_and]
      omega
    · have other : record.email ≠ email := Ne.symm same
      simp only [AttemptRecord.next_email, AttemptRecord.registerFailure_email, same, other,
        if_false, false_and]
      exact before

theorem Balanced.turn {call : Call} {exchange : Exchange Service}
    (balanced : Balanced policy logins store history)
    (happens : Happens policy (logins call).now (logins call).Owns store
      (standing (conversation call history)) exchange after)
    (known : Known policy (logins call).Owns (standing (conversation call history))) :
    Balanced policy logins after (⟨call, exchange, store, after⟩ :: history) := by
  cases happens with
  | stored exchanged =>
      cases exchanged with
      | wrote given current applies valid =>
          obtain ⟨_uncounted, held, taken⟩ := given
          obtain ⟨consistent, mine⟩ := known.row _ held
          exact balanced.rowWritten taken consistent mine current applies valid
      | wroteAttempts given current notLocked =>
          obtain ⟨consistent, mine⟩ := known.record _ given.2
          exact balanced.recordWritten consistent mine current notLocked
      | found | late | foundAttempts | lateAttempts =>
          exact ⟨balanced.rows, balanced.records, balanced.onRow, balanced.onRecord⟩
  | verified | unverified | signed | unsigned =>
      exact ⟨balanced.rows, balanced.records, balanced.onRow, balanced.onRecord⟩

omit [DecidableEq Call] in
theorem Happens.tallied {own : Email → Prop} {now : Instant} {before : Standing}
    {exchange : Exchange Service} (happens : Happens policy now own store before exchange after)
    (tallied : ∀ email row, store.findAccount email = some row → Tallied policy email history row)
    (call : Call) (email : Email) (row : Account) (found : after.findAccount email = some row) :
    Tallied policy email (⟨call, exchange, store, after⟩ :: history) row := by
  cases happens with
  | stored exchanged => exact exchanged.tallied tallied call email found
  | verified | unverified | signed | unsigned => exact (tallied email row found).cons rfl

theorem Happens.once {own : Email → Prop} {now : Instant} {before : Standing}
    {exchange : Exchange Service} (happens : Happens policy now own store before exchange after)
    (once : before.failures.rows + before.failures.records ≤ 1) :
    (before.hear exchange).failures.rows + (before.hear exchange).failures.records ≤ 1 := by
  cases happens with
  | stored exchanged =>
      cases exchanged with
      | wrote given _current _applies _valid =>
          change before.failures.rows + before.step.added + before.failures.records ≤ 1
          rw [given.1]
          cases before.step <;> decide
      | wroteAttempts given _current _notLocked =>
          change before.failures.rows + (before.failures.records + 1) ≤ 1
          rw [given.1]
          decide
      | found | late | foundAttempts | lateAttempts => exact once
  | verified | unverified | signed | unsigned => exact once

variable {session : SignIns Call}

structure Booked (policy : LockoutPolicy) (logins : Call → Login) (session : SignIns Call) :
    Prop where
  sound : Sound policy logins session
  balanced : Balanced policy logins session.state session.history
  tallied : ∀ email row, session.state.findAccount email = some row →
    Tallied policy email session.history row
  once : ∀ call, (standing (session.heard call)).failures.rows
    + (standing (session.heard call)).failures.records ≤ 1

theorem Booked.move (booked : Booked policy logins session) (move : Move Memory.Answers session) :
    Booked policy logins move.apply where
  sound := booked.sound.move move
  balanced := booked.balanced.turn (booked.sound.happens move) (booked.sound.known move.call)
  tallied := (booked.sound.happens move).tallied booked.tallied move.call
  once := by
    intro call
    by_cases same : call = move.call
    · subst same
      rw [move.heard_same]
      exact (booked.sound.happens move).once (booked.once move.call)
    · rw [move.heard_other same]
      exact booked.once call

theorem booked_of_run (users : store.OfNewUsers) (positive : 1 ≤ policy.threshold)
    (run : Run Memory.Answers (begun policy store logins) session) : Booked policy logins session :=
  run.keeps
    { sound := sound_begun users positive
      balanced := balanced_newUsers users
      tallied := fun _email _row found => Lockout.tallied_newUsers users positive found
      once := fun _call => Nat.zero_le 1 }
    fun _session booked move => booked.move move

/-- The books of a session: they balance, with the locks that were engaged or, as long as 32
bits hold their number, with the level of the row; no failure is written twice; and a sign-in
that is refused for its password has its failure written unless a lock holds on what it read
last. -/
structure FailuresKept (policy : LockoutPolicy) (logins : Call → Login) (session : SignIns Call) :
    Prop extends Balanced policy logins session.state session.history where
  lockLevel : ∀ email row, session.state.findAccount email = some row →
    row.lockLevel = .ofNat (session.history.countP (engages email))
  onLevel : ∀ email row, session.state.findAccount email = some row →
    session.history.countP (engages email) < UInt32.size →
    failuresOn email session.history
      = policy.threshold * row.lockLevel.toNat + row.failures + forgottenOn email session.history
  once : ∀ call, failuresBy call session.history + recordFailuresBy call session.history ≤ 1
  refused : ∀ call row,
    session.calls call = .done (.error .wrongCredentials) →
    (standing (session.heard call)).row = some row →
    failuresBy call session.history = 1 ∨
      failuresBy call session.history = 0 ∧
        (standing (session.heard call)).reread = some row ∧
        ∃ deadline, row.lockedUntil = some deadline ∧ (logins call).now < deadline
  refusedUnknown : ∀ call record,
    session.calls call = .done (.error .wrongCredentials) →
    (standing (session.heard call)).row = none →
    (standing (session.heard call)).record = some record →
    recordFailuresBy call session.history = 1 ∨
      recordFailuresBy call session.history = 0 ∧
        ∃ deadline, record.lockedUntil = some deadline ∧ (logins call).now < deadline
  unrefused : ∀ call outcome,
    session.calls call = .done outcome → outcome ≠ .error .wrongCredentials →
    failuresBy call session.history = 0 ∧ recordFailuresBy call session.history = 0

section Refusals

variable {now : Instant} {reached : Standing} {tally : Tally}

theorem not_validate_wrongCredentials {row : Account} :
    row.validate now ≠ .error .wrongCredentials := by
  intro refused
  obtain ⟨detail, different⟩ := Account.validate_eq_error refused
  cases different

theorem Ending.refused {row : Account}
    (ending : Ending policy now reached (.error .wrongCredentials)) (held : reached.row = some row) :
    reached.failures = ⟨1, 0⟩ ∨
      reached.failures = {} ∧ reached.reread = some row ∧
        ∃ deadline, row.lockedUntil = some deadline ∧ now < deadline := by
  cases ending with
  | malformed nothing =>
      rw [nothing] at held
      cases held
  | faulty _faulty _failures different => exact absurd rfl different
  | counted _held _settles failures _valid => exact Or.inl failures
  | overtaken same settles failures locked =>
      cases held.symm.trans same
      refine Or.inr ⟨failures, ?_, _, Account.lockState_eq_lockedUntil.mp locked⟩
      rcases settles.unlocked_or_reread with ⟨_unread, unlocked⟩ | reread
      · rw [unlocked] at locked
        cases locked
      · exact reread
  | invalid _held _settles _failures _applies refused =>
      exact absurd refused not_validate_wrongCredentials
  | unknownCounted missing | unknownOvertaken missing =>
      rw [missing] at held
      cases held

theorem Ending.refusedUnknown {record : AttemptRecord}
    (ending : Ending policy now reached (.error .wrongCredentials)) (missing : reached.row = none)
    (held : reached.record = some record) :
    reached.failures = ⟨0, 1⟩ ∨
      reached.failures = {} ∧ ∃ deadline, record.lockedUntil = some deadline ∧ now < deadline := by
  cases ending with
  | malformed nothing =>
      rw [nothing] at held
      cases held
  | faulty _faulty _failures different => exact absurd rfl different
  | counted found | overtaken found | invalid found =>
      rw [missing] at found
      cases found
  | unknownCounted _missing _reread _held failures => exact Or.inl failures
  | unknownOvertaken _missing _reread same failures locked =>
      cases held.symm.trans same
      exact Or.inr ⟨failures, _, AttemptRecord.lockState_eq_lockedUntil.mp locked⟩

theorem Ending.unrefused {outcome : Except Failure Token.Pair}
    (ending : Ending policy now reached outcome) (different : outcome ≠ .error .wrongCredentials) :
    reached.failures = {} := by
  cases ending with
  | malformed | counted | overtaken | unknownCounted | unknownOvertaken =>
      exact absurd rfl different
  | faulty _faulty failures => exact failures
  | locked _held _verdict failures => exact failures
  | staleLift _verdict failures => exact failures
  | admitted _held _sameLock _settles failures => exact failures
  | invalid _held _settles failures => exact failures
  | stale _settles failures => exact failures
  | unknownLocked _missing _reread _held failures => exact failures
  | unknownStale _missing _reread failures => exact failures

end Refusals

/-- No failed sign-in is lost or counted twice, in whichever order sign-ins ran side by side
on a store of new users. -/
theorem failures_kept (users : store.OfNewUsers) (positive : 1 ≤ policy.threshold)
    (run : Run Memory.Answers (begun policy store logins) session) :
    FailuresKept policy logins session := by
  have booked := booked_of_run users positive run
  have tally (call : Call) : (standing (session.heard call)).failures
      = ⟨failuresBy call session.history, recordFailuresBy call session.history⟩ :=
    standing_failures call session.history
  have lockLevel (email : Email) (row : Account)
      (found : session.state.findAccount email = some row) :
      row.lockLevel = .ofNat (session.history.countP (engages email)) :=
    (booked.tallied email row found).lockLevel
  refine { booked.balanced with
    lockLevel
    onLevel := ?_
    once := ?_
    refused := ?_
    refusedUnknown := ?_
    unrefused := ?_ }
  · intro email row found few
    rw [lockLevel email row found, UInt32.toNat_ofNat_of_lt' few]
    exact booked.balanced.onRow email row found
  · intro call
    have once := booked.once call
    rw [tally] at once
    exact once
  · intro call row ended held
    have counted := (booked.sound.obedient.ended ended).refused held
    rw [tally] at counted
    rcases counted with once | ⟨none, locked⟩
    · exact Or.inl (congrArg Tally.rows once)
    · exact Or.inr ⟨congrArg Tally.rows none, locked⟩
  · intro call record ended missing held
    have counted := (booked.sound.obedient.ended ended).refusedUnknown missing held
    rw [tally] at counted
    rcases counted with once | ⟨none, locked⟩
    · exact Or.inl (congrArg Tally.records once)
    · exact Or.inr ⟨congrArg Tally.records none, locked⟩
  · intro call outcome ended different
    have none := (booked.sound.obedient.ended ended).unrefused different
    rw [tally] at none
    exact ⟨congrArg Tally.rows none, congrArg Tally.records none⟩

/-- Two wrong passwords at once: the second write comes too late and is made again. -/
def twoFailures : SignIns Bool :=
  follow (fun _ => false)
    (begun ⟨3, .ofSeconds 10⟩ oneAccount fun _ => ⟨"ada@b.org", "wrong", .epoch⟩)
    [false, false, true, true, false, true, true, true]

theorem failures_kept_twoFailures :
    failuresOn ⟨"ada@b.org"⟩ twoFailures.history = 2 ∧
      FailuresKept ⟨3, .ofSeconds 10⟩ (fun _ => ⟨"ada@b.org", "wrong", .epoch⟩) twoFailures :=
  ⟨by decide +kernel, failures_kept oneAccount_ofNewUsers (by decide) (run_follow .start _)⟩

end Latchkey.SignIn
