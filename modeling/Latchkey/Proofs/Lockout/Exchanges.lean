/-
Callers of a store that write nothing but steps on what they saw last. What was seen is
overwritten only while it is still what is stored. So whatever such a caller has from the
store, and whenever, its exchange is one of a few: it reads, it comes too late, or it
replaces what is stored by what a step makes of just that.
-/

import Latchkey.Proofs.Dialogue.Contract
import Latchkey.Proofs.Lockout.Attempts
import Latchkey.Proofs.Lockout.Step
import Latchkey.Proofs.Store.Answers

namespace Latchkey.Lockout

open Store (Memory)
open Time (Instant)

/-- The row that was read or written last. -/
def heldRow : List (Exchange Service) → Option Account
  | [] => none
  | ⟨.findAccount _, .ok found⟩ :: _ => found
  | ⟨.writeLock _, .ok written⟩ :: _ => some written
  | _ :: earlier => heldRow earlier

def heldRecord : List (Exchange Service) → Option AttemptRecord
  | [] => none
  | ⟨.findAttempts email, .ok found⟩ :: _ => some (found.getD (.fresh email))
  | ⟨.writeAttempts _, .ok written⟩ :: _ => some written
  | _ :: earlier => heldRecord earlier

/-- What a caller may do with a store: which emails it may look for, which steps it may write
on which rows, and on which records it may count a failure. -/
structure Leave where
  finds : Email → Prop
  writes : Step → Account → Prop
  findsAttempts : Email → Prop
  counts : AttemptRecord → Prop

def Leave.Allows (leave : Leave) (policy : LockoutPolicy) (now : Instant) : Service.Request → Prop
  | .findAccount email => leave.finds email
  | .writeLock changed =>
      ∃ (step : Step) (row : Account), leave.writes step row ∧ step.Applies now row ∧
        step.change policy now row = changed ∧ changed.validate now = .ok ()
  | .findAttempts email => leave.findsAttempts email
  | .writeAttempts changed =>
      ∃ record, leave.counts record ∧
        (∀ deadline, record.lockState now ≠ .lockedUntil deadline) ∧
        record.registerFailure policy now = changed
  | _ => False

/-- Whether a caller with this leave writes only over what it read or wrote last. -/
structure Leave.GoesBy (leave : Leave) (past : List (Exchange Service)) : Prop where
  row : ∀ step row, leave.writes step row → heldRow past = some row
  record : ∀ record, leave.counts record → heldRecord past = some record

/-- What may happen between a caller and the store. -/
inductive Exchanged (policy : LockoutPolicy) (now : Instant) (store : Memory) (leave : Leave) :
    Exchange Service → Memory → Prop
  | found {email : Email} :
      leave.finds email →
      Exchanged policy now store leave
        ⟨.findAccount email, (.ok (store.findAccount email) : Except Failure (Option Account))⟩ store
  | wrote {step : Step} {row : Account} :
      leave.writes step row → store.findAccount row.email = some row → step.Applies now row →
      (step.change policy now row).validate now = .ok () →
      Exchanged policy now store leave
        ⟨.writeLock (step.change policy now row),
          (.ok (step.change policy now row).next : Except Failure Account)⟩
        (store.withAccount (step.change policy now row).next)
  | late (changed : Account) :
      Exchanged policy now store leave
        ⟨.writeLock changed, (.error .staleWrite : Except Failure Account)⟩ store
  | foundAttempts {email : Email} :
      leave.findsAttempts email →
      Exchanged policy now store leave
        ⟨.findAttempts email,
          (.ok (store.findAttempts email) : Except Failure (Option AttemptRecord))⟩ store
  | wroteAttempts {record : AttemptRecord} :
      leave.counts record → store.attemptsOf record.email = record →
      (∀ deadline, record.lockState now ≠ .lockedUntil deadline) →
      Exchanged policy now store leave
        ⟨.writeAttempts (record.registerFailure policy now),
          (.ok (record.registerFailure policy now).next : Except Failure AttemptRecord)⟩
        (store.withAttempts (record.registerFailure policy now).next)
  | lateAttempts (changed : AttemptRecord) :
      Exchanged policy now store leave
        ⟨.writeAttempts changed, (.error .staleWrite : Except Failure AttemptRecord)⟩ store

/-- Whether a caller goes by what it saw in the store. -/
structure Informed (store : Memory) (past : List (Exchange Service)) : Prop where
  row : ∀ row, heldRow past = some row → store.Seen row
  record : ∀ record, heldRecord past = some record → store.SeenAttempts record

theorem informed_nothing (store : Memory) : Informed store [] where
  row := fun _row held => nomatch held
  record := fun _record held => nomatch held

section Exchanges

variable {policy : LockoutPolicy} {now : Instant} {store after : Memory} {leave : Leave}
  {past others : List (Exchange Service)}

theorem exchanged_of_answers {request : Service.Request} {reply : Service.Reply request}
    (informed : Informed store past) (goesBy : leave.GoesBy past)
    (allowed : leave.Allows policy now request) (answered : store.Answers request reply after) :
    Exchanged policy now store leave ⟨request, reply⟩ after := by
  cases request with
  | findAccount email =>
      obtain ⟨rfl, rfl⟩ := answered
      exact .found allowed
  | writeLock changed =>
      obtain ⟨step, row, given, applies, rfl, valid⟩ := allowed
      have seen := informed.row row (goesBy.row step row given)
      have relocks := step.change_onlyRelocks policy now row
      change store.Concludes (store.writeLock _) reply after at answered
      rcases seen.writeLock relocks with late | ⟨current, written⟩
      · rw [late] at answered
        obtain ⟨rfl, rfl⟩ := answered
        exact .late _
      · rw [written] at answered
        obtain ⟨rfl, rfl⟩ := answered
        exact .wrote given current applies valid
  | findAttempts email =>
      obtain ⟨rfl, rfl⟩ := answered
      exact .foundAttempts allowed
  | writeAttempts changed =>
      obtain ⟨record, given, notLocked, rfl⟩ := allowed
      have seen := informed.record record (goesBy.record record given)
      change store.Concludes (store.writeAttempts _) reply after at answered
      rcases seen.writeAttempts AttemptRecord.registerFailure_email
        AttemptRecord.registerFailure_version with late | ⟨current, written⟩
      · rw [late] at answered
        obtain ⟨rfl, rfl⟩ := answered
        exact .lateAttempts _
      · rw [written] at answered
        obtain ⟨rfl, rfl⟩ := answered
        exact .wroteAttempts given current notLocked
  | createAccount _ | createAccountWith _ _ | hash _ | verify _ _ | sign _ | readToken _ _
  | exchange _ | random _ | clock =>
      exact absurd allowed id

theorem Exchanged.keyed {exchange : Exchange Service}
    (exchanged : Exchanged policy now store leave exchange after) (keyed : store.Keyed) :
    after.Keyed := by
  cases exchanged with
  | wrote _given _current _applies _valid => exact keyed.withAccount _
  | wroteAttempts _given _current _notLocked => exact keyed.withAttempts _
  | found | late | foundAttempts | lateAttempts => exact keyed

theorem Exchanged.informed_other {exchange : Exchange Service}
    (exchanged : Exchanged policy now store leave exchange after)
    (informed : Informed store others) : Informed after others := by
  cases exchanged with
  | @wrote step row _given current _applies _valid =>
      have relocks := step.change_onlyRelocks policy now row
      refine ⟨?_, fun record held => informed.record record held⟩
      intro seen held
      exact (informed.row seen held).after_write current relocks
  | wroteAttempts _given current _notLocked =>
      refine ⟨fun row held => informed.row row held, ?_⟩
      intro seen held
      exact (informed.record seen held).after_write current AttemptRecord.registerFailure_email
        AttemptRecord.registerFailure_version
  | found | late | foundAttempts | lateAttempts => exact informed

theorem Exchanged.informed_own {exchange : Exchange Service}
    (exchanged : Exchanged policy now store leave exchange after) (informed : Informed store past)
    (keyed : store.Keyed) : Informed after (exchange :: past) := by
  have kept := exchanged.informed_other informed
  cases exchanged with
  | found _asked => exact ⟨fun row found => keyed.seen found, kept.record⟩
  | wrote _given _current _applies _valid =>
      refine ⟨?_, kept.record⟩
      rintro written ⟨⟩
      exact Memory.seen_withAccount store _
  | @foundAttempts email _asked =>
      refine ⟨kept.row, ?_⟩
      rintro record ⟨⟩
      exact keyed.seenAttempts email
  | wroteAttempts _given _current _notLocked =>
      refine ⟨kept.row, ?_⟩
      rintro written ⟨⟩
      exact Memory.seenAttempts_withAttempts store _
  | late | lateAttempts => exact ⟨kept.row, kept.record⟩

end Exchanges

end Latchkey.Lockout
