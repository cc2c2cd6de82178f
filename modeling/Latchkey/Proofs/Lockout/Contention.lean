/-
Steps of the lockout on a row or a record that was read before, in a store that others use as
they please. A write comes too late only where somebody else wrote in between, and each look at
the store in between finds what the last of them wrote. So a step that is refused as stale was
overtaken as often as it tried.
-/

import Latchkey.Proofs.Lockout.StoredRows
import Latchkey.Proofs.Store.Contention

namespace Latchkey.Lockout

open Dialogue (Obeys)
open Session (Run)
open Store (Memory Place)
open Time (Instant)

/-- A step on what was read before: on the row of an account, or, as the failure of an email
without one, on its record. -/
inductive Errand where
  | onRow (step : Step) (row : Account)
  | onRecord (record : AttemptRecord)

namespace Errand

def procedure (policy : LockoutPolicy) (now : Instant) : Errand → Procedure Unit
  | onRow step row => do
      let _ ← step.perform policy now row
  | onRecord record => do
      let _ ← recordUnknownFailure policy record now

def dialogue (policy : LockoutPolicy) (now : Instant) (errand : Errand) :
    Dialogue Service (Except Failure Unit) :=
  (errand.procedure policy now).run

/-- Whether a store holds the row or the record of an errand. An email that has no record in the
store has a fresh one. -/
def WasRead (store : Memory) : Errand → Prop
  | onRow _ row => store.findAccount row.email = some row
  | onRecord record => store.attemptsOf record.email = record

def place : Errand → Place
  | onRow _ row => .ofAccount row.email
  | onRecord record => .ofRecord record.email

def version : Errand → Int
  | onRow _ row => row.version
  | onRecord record => record.version

variable {policy : LockoutPolicy} {now : Instant} {start : Int} {tries : Nat}
  {past : List (Exchange Service)}

theorem WasRead.stands {store : Memory} {errand : Errand} (read : errand.WasRead store) :
    errand.place.Stands store errand.version := by
  cases errand with
  | onRow step row => exact ⟨row, read, rfl, rfl⟩
  | onRecord record =>
      have held : store.attemptsOf record.email = record := read
      change (store.attemptsOf record.email).email = record.email ∧ _
      rw [held]
      exact ⟨rfl, rfl⟩

section Row

variable {row : Account} {email : Email} {step : Step}

/-- A write that came too late was the last one, or it is followed by a look at the row and by
all that the step does on what it finds. -/
private theorem retry_contends {writes : Nat} {write : Exchange Service} {version : Int}
    (chances : (Place.ofAccount email).Chances start tries (writes + 1) version past)
    (late : (Place.ofAccount email).notice write = .late version)
    (again : writes ≠ 0 → ∀ past (current : Account), current.email = email →
      (Place.ofAccount email).Chances start tries writes current.version past →
      (Place.ofAccount email).Contends start tries past
        (apply (step.transition policy now) now writes current).run) :
    (Place.ofAccount email).Contends start tries (write :: past)
      (retry (step.transition policy now) now writes email).run := by
  by_cases last : writes = 0
  · subst last
    exact chances.spent _ late
  · rw [retry, if_neg last, Place.Contends, Procedure.obeys_bind]
    refine ⟨Place.asks_findAccount email, ?_⟩
    intro reply heard
    obtain ⟨current, rfl, own, newer⟩ := Place.found_of_hears heard
    exact again last _ current own (chances.again late (if_pos rfl) newer)

private theorem apply_contends {writes : Nat} (left : writes ≠ 0) (own : row.email = email)
    (chances : (Place.ofAccount email).Chances start tries writes row.version past) :
    (Place.ofAccount email).Contends start tries past
      (apply (step.transition policy now) now writes row).run := by
  induction writes generalizing past row with
  | zero => exact absurd rfl left
  | succ writes ih =>
      cases step.round policy now writes row with
      | refused _lifting _locked ends =>
          rw [ends]
          exact Place.givesUpLate_of_ne (by simp)
      | idle _unapplied _unlocked ends =>
          rw [ends]
          exact Place.givesUpLate_of_ne (by simp)
      | invalid _applies fault ends =>
          obtain ⟨detail, rfl⟩ := Account.validate_eq_error fault
          rw [ends]
          exact Place.givesUpLate_of_ne (by simp)
      | written _applies changes valid =>
          have relocks := step.change_onlyRelocks policy now row
          have ownChange := relocks.email.trans own
          rw [← relocks.version] at chances
          rw [apply_valid writes changes valid, own, Place.Contends, Procedure.obeys_bind,
            Procedure.obeys_asking]
          refine ⟨Place.asks_writeLock ownChange chances.latest, ?_⟩
          rintro (failure | stored) _heard
          · cases failure with
            | staleWrite =>
                apply retry_contends chances (Place.ofAccount_late ownChange)
                intro left past current own chances
                exact ih left own chances
            | _ => exact Place.givesUpLate_of_ne (by simp)
          · exact Place.givesUpLate_of_ne (by simp)

end Row

section Record

variable {record : AttemptRecord} {email : Email}

private theorem loadAttempts_obeys :
    Obeys ((Place.ofRecord email).contract start)
      (fun later outcome => ∃ current look, outcome = .ok current ∧ later = look :: past ∧
        (Place.ofRecord email).notice look = .read current.version ∧ current.email = email ∧
        ∀ tried ∈ (Place.ofRecord email).lost past, tried < current.version) past
      (loadAttempts email).run := by
  refine ⟨Place.asks_findAttempts email, ?_⟩
  intro reply heard
  obtain ⟨found, rfl, own, newer⟩ := Place.foundAttempts_of_hears heard
  exact ⟨_, _, rfl, rfl, if_pos rfl, own, newer⟩

private theorem countUnknown_contends {writes : Nat} (left : writes ≠ 0)
    (own : record.email = email)
    (chances : (Place.ofRecord email).Chances start tries writes record.version past) :
    (Place.ofRecord email).Contends start tries past
      (countUnknown policy now writes record).run := by
  induction writes generalizing past record with
  | zero => exact absurd rfl left
  | succ writes ih =>
      rcases (record.lockState now).holds_or_open with ⟨deadline, locked⟩ | notLocked
      · rw [countUnknown_locked writes locked]
        exact Place.givesUpLate_of_ne (by simp)
      · have ownChange : (record.registerFailure policy now).email = email :=
          AttemptRecord.registerFailure_email.trans own
        have sameVersion : (record.registerFailure policy now).version = record.version :=
          AttemptRecord.registerFailure_version
        rw [← sameVersion] at chances
        rw [countUnknown_open writes notLocked, own, Place.Contends, Procedure.obeys_bind,
          Procedure.obeys_asking]
        refine ⟨Place.asks_writeAttempts ownChange chances.latest, ?_⟩
        rintro (failure | stored) _heard
        · cases failure with
          | staleWrite =>
              change (Place.ofRecord email).Contends start tries _
                (retryUnknown policy now writes email).run
              have late := Place.ofRecord_late ownChange
              by_cases last : writes = 0
              · subst last
                exact chances.spent _ late
              · rw [retryUnknown, if_neg last, Place.Contends, Procedure.obeys_bind]
                apply loadAttempts_obeys.mono
                rintro later _outcome ⟨current, look, rfl, rfl, read, own, newer⟩
                exact ih last own (chances.again late read newer)
          | _ => exact Place.givesUpLate_of_ne (by simp)
        · exact Place.givesUpLate_of_ne (by simp)

end Record

/-- Every step keeps to the versions that it read, and tries as often as it may. -/
theorem contends (policy : LockoutPolicy) (now : Instant) (errand : Errand) :
    errand.place.Contends errand.version maxWrites [] (errand.dialogue policy now) := by
  cases errand with
  | onRow step row =>
      apply Place.contends_of_discarded
      rw [step.perform_eq_apply]
      exact apply_contends (by decide) rfl (Place.chances_nil _ row.version maxWrites)
  | onRecord record =>
      apply Place.contends_of_discarded
      exact countUnknown_contends (by decide) rfl (Place.chances_nil _ record.version maxWrites)

end Errand

variable {Call : Type} [DecidableEq Call] {call : Call} {policy : LockoutPolicy} {now : Instant}
  {store : Memory} {errand : Errand} {calls : Call → Dialogue Service (Except Failure Unit)}
  {session : Session Memory Call Service (Except Failure Unit)}

/-- Whatever runs beside it, a step of the lockout is refused as stale only if the store took, from
when the row or the record was read until the last turn of the step, at least as many writes there
by others as the step may try. -/
theorem contended_of_stale (read : errand.WasRead store)
    (begins : calls call = errand.dialogue policy now)
    (run : Run Memory.Answers { state := store, calls } session)
    (stale : session.calls call = .done (.error .staleWrite)) :
    maxWrites ≤ (untilLast call session.history).countP (errand.place.isRivals call) :=
  Place.rivals_of_stale read.stands (begins ▸ errand.contends policy now) run stale

inductive Crowd where
  | step
  | first
  | second
  | third
deriving DecidableEq

def crowd (errand : Errand) (task : Task) (email : Email) :
    Crowd → Dialogue Service (Except Failure Unit)
  | .step => errand.dialogue ⟨5, .ofSeconds 10⟩ .epoch
  | _ => (Operation.mk task email .epoch).dialogue ⟨5, .ofSeconds 10⟩

def crowded (errand : Errand) (task : Task) (email : Email) : Operations Crowd :=
  Session.follow answering { state := SignIn.oneAccount, calls := crowd errand task email }
    [.first, .first, .step, .step, .second, .second, .step, .step, .third, .third, .step]

def isStale (session : Operations Crowd) (call : Crowd) : Bool :=
  match session.calls call with
  | .done (.error .staleWrite) => true
  | _ => false

private theorem done_of_isStale {session : Operations Crowd} {call : Crowd}
    (stale : isStale session call = true) : session.calls call = .done (.error .staleWrite) := by
  unfold isStale at stale
  split at stale
  · assumption
  · cases stale

def countOnAda : Errand :=
  .onRow .count
    (.create { name := ⟨"Ada"⟩, email := ⟨"ada@b.org"⟩, passwordHash := "" } ⟨0⟩ .epoch)

def countOnEve : Errand := .onRecord (.fresh ⟨"eve@b.org"⟩)

/-- It happens to the row of an account, and to the record of an email that has none yet. -/
theorem contended_of_stale_crowded :
    (isStale (crowded countOnAda (.onRow .count) ⟨"ada@b.org"⟩) .step = true ∧
      3 ≤ (untilLast .step (crowded countOnAda (.onRow .count) ⟨"ada@b.org"⟩).history).countP
        (countOnAda.place.isRivals .step)) ∧
    isStale (crowded countOnEve .countUnknown ⟨"eve@b.org"⟩) .step = true ∧
      3 ≤ (untilLast .step (crowded countOnEve .countUnknown ⟨"eve@b.org"⟩).history).countP
        (countOnEve.place.isRivals .step) := by
  have adaStale : isStale (crowded countOnAda (.onRow .count) ⟨"ada@b.org"⟩) .step = true := by
    decide +kernel
  have eveStale : isStale (crowded countOnEve .countUnknown ⟨"eve@b.org"⟩) .step = true := by
    decide +kernel
  have adaRead : countOnAda.WasRead SignIn.oneAccount := rfl
  have eveRead : countOnEve.WasRead SignIn.oneAccount := rfl
  exact ⟨⟨adaStale, contended_of_stale adaRead rfl (Run.start.follow answering _)
      (done_of_isStale adaStale)⟩,
    eveStale, contended_of_stale eveRead rfl (Run.start.follow answering _)
      (done_of_isStale eveStale)⟩

end Latchkey.Lockout
