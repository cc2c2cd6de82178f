/-
The conduct of one sign-in, whoever else uses the store. It writes only what a step of the
lockout makes of the row that it goes by, and only after the check; it looks at a password
once, and on a row without a lock; and each way in which it ends says what the store took
from it and on which row it relied. What it is told is assumed to be what a store with
conditional writes tells: a write comes too late or is acknowledged as it was asked.
-/

import Latchkey.Proofs.Lockout.Rounds
import Latchkey.Proofs.SignIn.Standing

namespace Latchkey.SignIn

open Dialogue (Contract Obeys)
open Lockout (Step)
open Procedure (Continues)
open Time (Instant)

variable {policy : LockoutPolicy} {now : Instant} {own : Email → Prop}
  {past : List (Exchange Service)}

/-- What a sign-in may do with the store. It looks for its own email, and again for those of
what it found; and as long as it has written no failure it may write the step that it is at. -/
def leave (own : Email → Prop) (standing : Standing) : Lockout.Leave where
  finds := fun email => own email ∨ ∃ row, standing.row = some row ∧ row.email = email
  writes := fun step row =>
    standing.failures = {} ∧ standing.row = some row ∧ standing.step = step
  findsAttempts := fun email =>
    own email ∨ ∃ record, standing.record = some record ∧ record.email = email
  counts := fun record => standing.failures = {} ∧ standing.record = some record

/-- What a sign-in asks, after what it was told. -/
def Asks (policy : LockoutPolicy) (now : Instant) (own : Email → Prop) (standing : Standing) :
    Service.Request → Prop
  | .verify _ _ =>
      standing.verdict = none ∧ ∀ row, standing.row = some row → row.lockState now = .unlocked
  | .sign _ => True
  | request => (leave own standing).Allows policy now request

/-- What a sign-in is told by a store with conditional writes, and by a hasher and an issuer
that fail in ways of their own. -/
def Hears (standing : Standing) : (request : Service.Request) → Service.Reply request → Prop
  | .findAccount email, reply =>
      ∃ found, reply = .ok found ∧
        ∀ row, standing.row = some row → row.email = email → found ≠ none
  | .writeLock changed, reply =>
      reply = .ok changed.next ∨ reply = .error .staleWrite
  | .findAttempts _, reply => ∃ found, reply = .ok found
  | .writeAttempts changed, reply =>
      reply = .ok changed.next ∨ reply = .error .staleWrite
  | .verify _ _, reply =>
      (∃ right, reply = .ok right) ∨ ∃ detail, reply = .error (.internal detail)
  | .sign _, reply =>
      (∃ token, reply = .ok token) ∨ ∃ detail, reply = .error (.signingFailed detail)
  | _, _ => True

def contract (policy : LockoutPolicy) (now : Instant) (own : Email → Prop) : Contract Service where
  asks := fun past => Asks policy now own (standing past)
  hears := fun past => Hears (standing past)

/-- The row on which a step relies: the one that it was given, or one that it read again. -/
structure Relies (start : Standing) (given : Account) (standing : Standing) (row : Account) :
    Prop where
  verdict : standing.verdict = start.verdict
  faulty : standing.faulty = start.faulty
  row_or_reread : row = given ∧ standing.reread = start.reread ∨ standing.reread = some row

inductive Stepped (policy : LockoutPolicy) (now : Instant) (step : Step) (start : Standing)
    (given : Account) (standing : Standing) : Except Failure Account → Prop
  | idle {row : Account} :
      Relies start given standing row → standing.row = some row →
      standing.failures = {} → ¬step.Applies now row →
      (step = .lift → row.lockState now = .unlocked) →
      Stepped policy now step start given standing (.ok row)
  | written {row written : Account} :
      Relies start given standing row → standing.row = some written →
      standing.failures = ⟨step.added, 0⟩ →
      step.Applies now row → (step.change policy now row).validate now = .ok () →
      written = (step.change policy now row).next →
      Stepped policy now step start given standing (.ok written)
  | locked {row : Account} {deadline : Instant} :
      Relies start given standing row → standing.row = some row →
      standing.failures = {} → step = .lift →
      row.lockState now = .lockedUntil deadline →
      Stepped policy now step start given standing (.error (.locked deadline))
  | invalid {row : Account} {failure : Failure} :
      Relies start given standing row → standing.row = some row →
      standing.failures = {} → step.Applies now row →
      (step.change policy now row).validate now = .error failure →
      Stepped policy now step start given standing (.error failure)
  | stale {row : Account} :
      Relies start given standing row → standing.row = some row →
      standing.failures = {} → step.Applies now row →
      (step.change policy now row).validate now = .ok () →
      Stepped policy now step start given standing (.error .staleWrite)

section Apply

variable {step : Step} {start : Standing} {given row : Account} {writes : Nat}

/-- What a step may do with a row that it read again, as long as it has writes left. -/
private def Retries (policy : LockoutPolicy) (now : Instant) (own : Email → Prop) (step : Step)
    (start : Standing) (given : Account) (writes : Nat) : Prop :=
  ∀ past row, Relies start given (standing past) row → (standing past).row = some row →
    (standing past).failures = {} → writes ≠ 0 →
    Obeys (contract policy now own)
      (fun past outcome => Stepped policy now step start given (standing past) outcome) past
      (Lockout.apply (step.transition policy now) now writes row).run

private theorem Relies.after {exchange : Exchange Service}
    (relies : Relies start given (standing past) row)
    (verdict : (standing (exchange :: past)).verdict = (standing past).verdict)
    (faulty : (standing (exchange :: past)).faulty = (standing past).faulty)
    (reread : (standing (exchange :: past)).reread = (standing past).reread) :
    Relies start given (standing (exchange :: past)) row where
  verdict := verdict.trans relies.verdict
  faulty := faulty.trans relies.faulty
  row_or_reread := reread ▸ relies.row_or_reread

private theorem write_obeys (taken : start.step = step)
    (again : Retries policy now own step start given writes)
    (relies : Relies start given (standing past) row) (held : (standing past).row = some row)
    (uncounted : (standing past).failures = {}) (applies : step.Applies now row)
    (changes : step.transition policy now row = .ok (some (step.change policy now row)))
    (valid : (step.change policy now row).validate now = .ok ()) :
    Obeys (contract policy now own)
      (fun past outcome => Stepped policy now step start given (standing past) outcome) past
      (Lockout.apply (step.transition policy now) now (writes + 1) row).run := by
  have same : (standing past).step = step := (congrArg stepAfter relies.verdict).trans taken
  rw [Lockout.apply_valid writes changes valid, Procedure.obeys_bind, Procedure.obeys_asking]
  refine ⟨⟨step, row, ⟨uncounted, held, same⟩, applies, rfl, valid⟩, ?_⟩
  intro reply heard
  rcases heard with rfl | rfl
  · refine .written (relies.after rfl rfl rfl) rfl ?_ applies valid rfl
    change { (standing past).failures with
      rows := (standing past).failures.rows + (standing past).step.added } = _
    rw [same, uncounted, Nat.zero_add]
  · change Obeys _ _ _ (Lockout.retry (step.transition policy now) now writes row.email).run
    by_cases last : writes = 0
    · rw [Lockout.retry, if_pos last]
      exact .stale (relies.after rfl rfl rfl) held uncounted applies valid
    · rw [Lockout.retry, if_neg last, Procedure.obeys_bind]
      refine ⟨Or.inr ⟨row, held, rfl⟩, ?_⟩
      intro reply heard
      obtain ⟨found, rfl, present⟩ := heard
      cases found with
      | none => exact absurd rfl (present row held rfl)
      | some current =>
          exact again _ current ⟨relies.verdict, relies.faulty, Or.inr rfl⟩ rfl uncounted last

private theorem apply_round (taken : start.step = step)
    (again : Retries policy now own step start given writes)
    (relies : Relies start given (standing past) row) (held : (standing past).row = some row)
    (uncounted : (standing past).failures = {}) :
    Obeys (contract policy now own)
      (fun past outcome => Stepped policy now step start given (standing past) outcome) past
      (Lockout.apply (step.transition policy now) now (writes + 1) row).run := by
  cases step.round policy now writes row with
  | refused lifting locked ends =>
      rw [ends]
      exact .locked relies held uncounted lifting locked
  | idle unapplied unlocked ends =>
      rw [ends]
      exact .idle relies held uncounted unapplied unlocked
  | invalid applies fault ends =>
      rw [ends]
      exact .invalid relies held uncounted applies fault
  | written applies changes valid =>
      exact write_obeys taken again relies held uncounted applies changes valid

private theorem apply_obeys (writes : Nat) (taken : start.step = step)
    (relies : Relies start given (standing past) row) (held : (standing past).row = some row)
    (uncounted : (standing past).failures = {}) :
    Obeys (contract policy now own)
      (fun past outcome => Stepped policy now step start given (standing past) outcome) past
      (Lockout.apply (step.transition policy now) now (writes + 1) row).run := by
  induction writes generalizing past row with
  | zero => exact apply_round taken (fun _ _ _ _ _ none => absurd rfl none) relies held uncounted
  | succ writes ih =>
      exact apply_round taken (fun _ _ relies held uncounted _ => ih relies held uncounted) relies
        held uncounted

end Apply

theorem step_obeys (policy : LockoutPolicy) (now : Instant) {step : Step} {row : Account}
    (taken : (standing past).step = step) (held : (standing past).row = some row)
    (uncounted : (standing past).failures = {}) :
    Obeys (contract policy now own)
      (fun after outcome => Stepped policy now step (standing past) row (standing after) outcome) past
      (Lockout.apply (step.transition policy now) now Lockout.maxWrites row).run :=
  apply_obeys 2 taken ⟨rfl, rfl, Or.inl ⟨rfl, rfl⟩⟩ held uncounted

/-- The row on which a sign-in relies after the verdict: one without a lock, on which the
password was looked at, or one that was read again since. -/
structure Settles (now : Instant) (standing : Standing) (right : Bool) (row : Account) : Prop where
  verdict : standing.verdict = some right
  unlocked_or_reread :
    standing.reread = none ∧ row.lockState now = .unlocked ∨ standing.reread = some row

inductive Ending (policy : LockoutPolicy) (now : Instant) (standing : Standing) :
    Except Failure Token.Pair → Prop
  | malformed : standing = {} → Ending policy now standing (.error .wrongCredentials)
  | faulty {failure : Failure} :
      standing.faulty = true → standing.failures = {} → failure ≠ .wrongCredentials →
      Ending policy now standing (.error failure)
  | locked {row : Account} {deadline : Instant} :
      standing.row = some row → standing.verdict = none → standing.failures = {} →
      row.lockState now = .lockedUntil deadline →
      Ending policy now standing (.error (.locked deadline))
  | staleLift :
      standing.verdict = none → standing.failures = {} →
      Ending policy now standing (.error .staleWrite)
  | counted {row written : Account} :
      standing.row = some written → Settles now standing false row → standing.failures = ⟨1, 0⟩ →
      (Step.count.change policy now row).validate now = .ok () →
      Ending policy now standing (.error .wrongCredentials)
  | overtaken {row : Account} {deadline : Instant} :
      standing.row = some row → Settles now standing false row → standing.failures = {} →
      row.lockState now = .lockedUntil deadline →
      Ending policy now standing (.error .wrongCredentials)
  | admitted {row last : Account} {pair : Token.Pair} :
      standing.row = some last → last.lockState now = row.lockState now →
      Settles now standing true row → standing.failures = {} →
      (Step.forget.Applies now row → (Step.forget.change policy now row).validate now = .ok ()) →
      Ending policy now standing (.ok pair)
  | invalid {row : Account} {right : Bool} {failure : Failure} :
      standing.row = some row → Settles now standing right row → standing.failures = {} →
      (stepAfter (some right)).Applies now row →
      ((stepAfter (some right)).change policy now row).validate now = .error failure →
      Ending policy now standing (.error failure)
  | stale {row : Account} {right : Bool} :
      Settles now standing right row → standing.failures = {} →
      ((stepAfter (some right)).change policy now row).validate now = .ok () →
      Ending policy now standing (.error .staleWrite)
  | unknownLocked {record : AttemptRecord} {deadline : Instant} :
      standing.row = none → standing.reread = none → standing.record = some record →
      standing.failures = {} → record.lockState now = .lockedUntil deadline →
      Ending policy now standing (.error (.locked deadline))
  | unknownCounted {record : AttemptRecord} :
      standing.row = none → standing.reread = none → standing.record = some record →
      standing.failures = ⟨0, 1⟩ → Ending policy now standing (.error .wrongCredentials)
  | unknownOvertaken {record : AttemptRecord} {deadline : Instant} :
      standing.row = none → standing.reread = none → standing.record = some record →
      standing.failures = {} → record.lockState now = .lockedUntil deadline →
      Ending policy now standing (.error .wrongCredentials)
  | unknownStale :
      standing.row = none → standing.reread = none → standing.failures = {} →
      Ending policy now standing (.error .staleWrite)

abbrev Ends (policy : LockoutPolicy) (now : Instant) (past : List (Exchange Service))
    (outcome : Except Failure Token.Pair) : Prop :=
  Ending policy now (standing past) outcome

structure Entered (standing : Standing) (row : Account) : Prop where
  held : standing.row = some row
  verdict : standing.verdict = none
  failures : standing.failures = {}
  faulty : standing.faulty = false

private theorem gate_obeys {row : Account} (entered : Entered (standing past) row) :
    Obeys (contract policy now own)
      (fun past outcome => match outcome with
        | .ok row => Entered (standing past) row ∧ row.lockState now = .unlocked
        | .error failure => Ends policy now past (.error failure)) past
      (Lockout.gate row now).run := by
  unfold Lockout.gate
  cases lockAt : row.lockState now with
  | unlocked => exact ⟨entered, lockAt⟩
  | lockedUntil deadline =>
      exact .locked entered.held entered.verdict entered.failures lockAt
  | expired =>
      have taken : (standing past).step = .lift := congrArg stepAfter entered.verdict
      apply (step_obeys policy now taken entered.held entered.failures).mono
      intro past outcome stepped
      cases stepped with
      | idle relies held failures _idle unlocked =>
          exact ⟨⟨held, relies.verdict.trans entered.verdict, failures,
            relies.faulty.trans entered.faulty⟩, unlocked rfl⟩
      | written relies held failures _applies _valid written =>
          subst written
          exact ⟨⟨held, relies.verdict.trans entered.verdict, failures,
            relies.faulty.trans entered.faulty⟩, Account.lockState_liftLock _ now⟩
      | locked relies held failures _lifting locked =>
          exact .locked held (relies.verdict.trans entered.verdict)
            failures locked
      | invalid relies held failures _applies refused =>
          cases (Account.validate_liftLock _ now).symm.trans refused
      | stale relies _held failures _applies _valid =>
          exact .staleLift (relies.verdict.trans entered.verdict) failures

structure Judged (now : Instant) (standing : Standing) (right : Bool) (row : Account) : Prop where
  held : standing.row = some row
  verdict : standing.verdict = some right
  reread : standing.reread = none
  unlocked : row.lockState now = .unlocked
  failures : standing.failures = {}
  faulty : standing.faulty = false

private theorem Entered.judged {row : Account} {hash : String} {password : Password} {right : Bool}
    (entered : Entered (standing past) row) (unlocked : row.lockState now = .unlocked) :
    Judged now (standing (⟨.verify hash password, .ok right⟩ :: past)) right row :=
  ⟨entered.held, rfl, rfl, unlocked, entered.failures, entered.faulty⟩

private theorem Judged.settles {start standing : Standing} {right : Bool} {row relied : Account}
    (judged : Judged now start right row) (relies : Relies start row standing relied) :
    Settles now standing right relied := by
  refine ⟨relies.verdict.trans judged.verdict, ?_⟩
  rcases relies.row_or_reread with ⟨rfl, same⟩ | reread
  · exact Or.inl ⟨same.trans judged.reread, judged.unlocked⟩
  · exact Or.inr reread

private theorem recordFailure_obeys {row : Account} (judged : Judged now (standing past) false row) :
    Obeys (contract policy now own)
      (fun past outcome => match outcome with
        | .ok _ => Ends policy now past (.error .wrongCredentials)
        | .error failure => Ends policy now past (.error failure)) past
      (Lockout.recordFailure policy row now).run := by
  have taken : (standing past).step = .count := congrArg stepAfter judged.verdict
  apply (step_obeys policy now taken judged.held judged.failures).mono
  intro past outcome stepped
  cases stepped with
  | idle relies held failures idle _unlocked =>
      obtain ⟨deadline, locked⟩ := Classical.not_forall.mp idle
      exact .overtaken held (judged.settles relies) failures
        (Classical.not_not.mp locked)
  | written relies held failures _applies valid _written =>
      exact .counted held (judged.settles relies) failures valid
  | locked relies _held _failures lifting _locked => cases lifting
  | invalid relies held failures applies refused =>
      exact .invalid held (judged.settles relies) failures applies refused
  | stale relies _held failures _applies valid =>
      exact .stale (judged.settles relies) failures valid

/-- A sign-in whose success the store took notice of; `row` is the one on which it relied. -/
structure Welcomed (policy : LockoutPolicy) (now : Instant) (standing : Standing)
    (row last : Account) : Prop where
  held : standing.row = some last
  sameLock : last.lockState now = row.lockState now
  settles : Settles now standing true row
  valid : Step.forget.Applies now row → (Step.forget.change policy now row).validate now = .ok ()
  failures : standing.failures = {}

private theorem recordSuccess_obeys {row : Account} (judged : Judged now (standing past) true row) :
    Obeys (contract policy now own)
      (fun past outcome => match outcome with
        | .ok last => ∃ row, Welcomed policy now (standing past) row last
        | .error failure => Ends policy now past (.error failure)) past
      (Lockout.recordSuccess row now).run := by
  have taken : (standing past).step = .forget := congrArg stepAfter judged.verdict
  apply (step_obeys policy now taken judged.held judged.failures).mono
  intro past outcome stepped
  cases stepped with
  | @idle row relies held failures idle _unlocked =>
      exact ⟨row, held, rfl, judged.settles relies, fun applies => absurd applies idle,
        failures⟩
  | @written row written relies held failures _applies valid same =>
      subst same
      exact ⟨row, held, Account.lockState_congr rfl rfl, judged.settles relies, fun _applies => valid,
        failures⟩
  | locked relies _held _failures lifting _locked => cases lifting
  | invalid relies held failures applies refused =>
      exact .invalid held (judged.settles relies) failures applies refused
  | stale relies _held failures _applies valid =>
      exact .stale (judged.settles relies) failures valid

private theorem issuePair_obeys {row last : Account} (identity : Identity)
    (welcomed : Welcomed policy now (standing past) row last) :
    Obeys (contract policy now own) (Ends policy now) past (Procedure.issuePair identity).run := by
  refine ⟨trivial, ?_⟩
  intro reply heard
  rcases heard with ⟨access, rfl⟩ | ⟨detail, rfl⟩
  · refine ⟨trivial, ?_⟩
    intro reply heard
    rcases heard with ⟨refresh, rfl⟩ | ⟨detail, rfl⟩
    · exact .admitted welcomed.held welcomed.sameLock
        ⟨welcomed.settles.verdict, welcomed.settles.unlocked_or_reread⟩ welcomed.failures
        welcomed.valid
    · exact .faulty rfl welcomed.failures (fun same => nomatch same)
  · exact .faulty rfl welcomed.failures (fun same => nomatch same)

theorem withAccount_obeys {row : Account} (entered : Entered (standing past) row)
    (password : Password) :
    Obeys (contract policy now own) (Ends policy now) past
      (withAccount policy row password now).run := by
  unfold withAccount
  rw [Procedure.obeys_bind]
  apply (gate_obeys entered).mono
  intro past outcome gated
  cases outcome with
  | error failure => exact gated
  | ok row =>
      obtain ⟨entered, unlocked⟩ := gated
      change Obeys _ _ past (Procedure.verify _ _ >>= _ : Procedure Token.Pair).run
      rw [Procedure.obeys_bind]
      refine ⟨⟨entered.verdict, ?_⟩, ?_⟩
      · intro held same
        rw [entered.held] at same
        cases same
        exact unlocked
      intro reply heard
      rcases heard with ⟨right, rfl⟩ | ⟨detail, rfl⟩
      · cases right with
        | true =>
            change Obeys _ _ _ (Lockout.recordSuccess _ _ >>= _ : Procedure Token.Pair).run
            rw [Procedure.obeys_bind]
            apply (recordSuccess_obeys (entered.judged unlocked)).mono
            intro past outcome recorded
            cases outcome with
            | error failure => exact recorded
            | ok last =>
                obtain ⟨row, welcomed⟩ := recorded
                exact issuePair_obeys last.identity welcomed
        | false =>
            change Obeys _ _ _ (Lockout.recordFailure _ _ _ >>= _ : Procedure Token.Pair).run
            rw [Procedure.obeys_bind]
            apply (recordFailure_obeys (entered.judged unlocked)).mono
            intro past outcome recorded
            cases outcome with
            | error failure => exact recorded
            | ok last => exact recorded
      · exact .faulty rfl entered.failures (fun same => nomatch same)

structure Unfound (standing : Standing) (verdict : Option Bool) : Prop where
  row : standing.row = none
  reread : standing.reread = none
  verdict : standing.verdict = verdict
  failures : standing.failures = {}

private theorem loadAttempts_obeys {verdict : Option Bool} {email : Email}
    (unfound : Unfound (standing past) verdict)
    (asks : own email ∨ ∃ record, (standing past).record = some record ∧ record.email = email) :
    Obeys (contract policy now own)
      (fun past outcome => match outcome with
        | .ok record => Unfound (standing past) verdict ∧ (standing past).record = some record
        | .error _ => False) past
      (Lockout.loadAttempts email).run := by
  refine ⟨asks, ?_⟩
  intro reply heard
  obtain ⟨found, rfl⟩ := heard
  exact ⟨⟨unfound.row, unfound.reread, unfound.verdict, unfound.failures⟩, rfl⟩

private abbrev Recorded {α : Type} (policy : LockoutPolicy) (now : Instant)
    (past : List (Exchange Service)) : Except Failure α → Prop
  | .ok _ => Ends policy now past (.error .wrongCredentials)
  | .error failure => Ends policy now past (.error failure)

private theorem countUnknown_round {verdict : Option Bool} {record : AttemptRecord} {writes : Nat}
    (again : ∀ past record, Unfound (standing past) verdict →
      (standing past).record = some record → writes ≠ 0 →
      Obeys (contract policy now own) (Recorded policy now) past
        (Lockout.countUnknown policy now writes record).run)
    (unfound : Unfound (standing past) verdict) (held : (standing past).record = some record) :
    Obeys (contract policy now own) (Recorded policy now) past
      (Lockout.countUnknown policy now (writes + 1) record).run := by
  by_cases locks : ∃ deadline, record.lockState now = .lockedUntil deadline
  · obtain ⟨deadline, locked⟩ := locks
    rw [Lockout.countUnknown_locked writes locked]
    exact .unknownOvertaken unfound.row unfound.reread held unfound.failures locked
  have notLocked := not_exists.mp locks
  rw [Lockout.countUnknown_open writes notLocked, Procedure.obeys_bind]
  refine ⟨⟨record, ⟨unfound.failures, held⟩, notLocked, rfl⟩, ?_⟩
  intro reply heard
  rcases heard with rfl | rfl
  · refine .unknownCounted unfound.row unfound.reread rfl ?_
    change { (standing past).failures with records := (standing past).failures.records + 1 } = _
    rw [unfound.failures]
  · change Obeys _ _ _ (Lockout.retryUnknown policy now writes record.email).run
    have refused : Unfound (standing (⟨.writeAttempts (record.registerFailure policy now),
        .error .staleWrite⟩ :: past)) verdict :=
      ⟨unfound.row, unfound.reread, unfound.verdict, unfound.failures⟩
    by_cases last : writes = 0
    · rw [Lockout.retryUnknown, if_pos last]
      exact .unknownStale refused.row refused.reread refused.failures
    · rw [Lockout.retryUnknown, if_neg last, Procedure.obeys_bind]
      apply (loadAttempts_obeys refused (Or.inr ⟨record, held, rfl⟩)).mono
      intro past outcome loaded
      cases outcome with
      | error failure => exact absurd loaded id
      | ok current => exact again past current loaded.1 loaded.2 last

private theorem countUnknown_obeys {verdict : Option Bool} {record : AttemptRecord} (writes : Nat)
    (unfound : Unfound (standing past) verdict) (held : (standing past).record = some record) :
    Obeys (contract policy now own) (Recorded policy now) past
      (Lockout.countUnknown policy now (writes + 1) record).run := by
  induction writes generalizing past record with
  | zero => exact countUnknown_round (fun _ _ _ _ none => absurd rfl none) unfound held
  | succ writes ih => exact countUnknown_round (fun _ _ unfound held _ => ih unfound held) unfound held

private theorem gateUnknown_obeys {email : Email} (mine : own email)
    (unfound : Unfound (standing past) none) :
    Obeys (contract policy now own)
      (fun past outcome => match outcome with
        | .ok record => Unfound (standing past) none ∧ (standing past).record = some record
        | .error failure => Ends policy now past (.error failure)) past
      (Lockout.gateUnknown email now).run := by
  unfold Lockout.gateUnknown
  rw [Procedure.obeys_bind]
  apply (loadAttempts_obeys unfound (Or.inl mine)).mono
  intro past outcome loaded
  cases outcome with
  | error failure => exact absurd loaded id
  | ok record =>
      obtain ⟨unfound, held⟩ := loaded
      dsimp only [Continues]
      cases lockAt : record.lockState now with
      | lockedUntil deadline =>
          exact .unknownLocked unfound.row unfound.reread held unfound.failures lockAt
      | unlocked => exact ⟨unfound, held⟩
      | expired => exact ⟨unfound, held⟩

theorem refuseUnknown_obeys {email : Email} (mine : own email) (password : Password)
    (unfound : Unfound (standing past) none) :
    Obeys (contract policy now own) (Ends policy now) past
      (refuseUnknown policy email password now).run := by
  unfold refuseUnknown
  rw [Procedure.obeys_bind]
  apply (gateUnknown_obeys mine unfound).mono
  intro past outcome gated
  cases outcome with
  | error failure => exact gated
  | ok record =>
      obtain ⟨unfound, held⟩ := gated
      change Obeys _ _ past (Procedure.verify _ _ >>= _ : Procedure Token.Pair).run
      rw [Procedure.obeys_bind]
      refine ⟨⟨unfound.verdict, ?_⟩, ?_⟩
      · intro row found
        rw [unfound.row] at found
        cases found
      intro reply heard
      rcases heard with ⟨right, rfl⟩ | ⟨detail, rfl⟩
      · change Obeys _ _ _ (Lockout.recordUnknownFailure _ _ _ >>= _ : Procedure Token.Pair).run
        rw [Procedure.obeys_bind]
        have judged : Unfound (standing (⟨.verify dummyHash password, .ok right⟩ :: past))
            (some right) := ⟨unfound.row, rfl, rfl, unfound.failures⟩
        apply (countUnknown_obeys 2 judged held).mono
        intro past outcome recorded
        cases outcome with
        | error failure => exact recorded
        | ok record => exact recorded
      · exact .faulty rfl unfound.failures (fun same => nomatch same)

structure Login where
  email : String
  password : String
  now : Instant

namespace Login

/-- The sign-in itself. Nothing should look into it by computing: it starts with reading
the email, which only unfolds for emails that are known. -/
@[irreducible] def dialogue (policy : LockoutPolicy) (login : Login) :
    Dialogue Service (Except Failure Token.Pair) :=
  (withPassword policy login.email login.password login.now).run

def Owns (login : Login) (email : Email) : Prop := Email.parse login.email = .ok email

def contract (policy : LockoutPolicy) (login : Login) : Contract Service :=
  SignIn.contract policy login.now login.Owns

theorem obeys (policy : LockoutPolicy) (login : Login) :
    Obeys (login.contract policy) (Ends policy login.now) [] (login.dialogue policy) := by
  unfold dialogue withPassword
  cases parsed : Email.parse login.email with
  | error problem => exact .malformed rfl
  | ok email =>
      change Obeys _ _ _ (Procedure.findAccount email >>= _ : Procedure Token.Pair).run
      rw [Procedure.obeys_bind]
      refine ⟨Or.inl parsed, ?_⟩
      intro reply heard
      obtain ⟨found, rfl, _present⟩ := heard
      cases found with
      | none => exact refuseUnknown_obeys parsed (.typed login.password) ⟨rfl, rfl, rfl, rfl⟩
      | some account => exact withAccount_obeys ⟨rfl, rfl, rfl, rfl⟩ (.typed login.password)

end Login

end Latchkey.SignIn
