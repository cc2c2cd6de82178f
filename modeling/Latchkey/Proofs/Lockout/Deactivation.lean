/-
What becomes of an account that an operator has deactivated, whatever operations of the
lockout run side by side on it. Its status stays inactive for as long as no write engages a
lock. The status of a lock takes the place of the operator's, and nothing remembers that one:
when the lock is lifted, the account is active.
-/

import Latchkey.Proofs.Lockout.StoredRows

namespace Latchkey.Lockout

open Session (Move Run)
open Store (Memory)
open Time (Instant)

variable {Call : Type}

section Rows

variable {policy : LockoutPolicy} {now : Instant} {row : Account} {store after : Memory}
  {email : Email} {history : List (Turn Memory Call Service)}

theorem Step.inactive_change_iff (step : Step) (policy : LockoutPolicy) (now : Instant)
    (row : Account) :
    (step.change policy now row).status = .inactive ↔
      row.status = .inactive ∧ (step.change policy now row).lockLevel = row.lockLevel := by
  cases step with
  | lift =>
      change (if row.status = .locked then .active else row.status) = Status.inactive ↔
        row.status = .inactive ∧ row.lockLevel = row.lockLevel
      by_cases locked : row.status = .locked <;> simp [locked]
  | count =>
      change (row.registerFailure policy now).status = .inactive ↔
        row.status = .inactive ∧ (row.registerFailure policy now).lockLevel = row.lockLevel
      by_cases below : row.failures + 1 < policy.threshold
      · rw [Account.registerFailure_below below]
        exact (and_iff_left rfl).symm
      · rw [Account.registerFailure_reaching below]
        simp [Account.engageLock, Account.countFailure]
  | forget => exact (and_iff_left rfl).symm

def StaysInactive (email : Email) (history : List (Turn Memory Call Service)) (store : Memory) :
    Prop :=
  ∃ row, store.findAccount email = some row ∧
    (row.status = .inactive ↔ ∀ turn ∈ history, engages email turn = false)

/-- A turn that does not write the row changes neither side. -/
theorem StaysInactive.cons {turn : Turn Memory Call Service}
    (stays : StaysInactive email history store)
    (unwritten : writes email turn = false)
    (same : after.findAccount email = store.findAccount email) :
    StaysInactive email (turn :: history) after := by
  obtain ⟨row, found, told⟩ := stays
  refine ⟨row, same.trans found, ?_⟩
  rw [told, List.forall_mem_cons]
  exact (and_iff_right (engages_of_unwritten unwritten)).symm

/-- A step that is written leaves the status inactive unless it engages a lock. -/
theorem StaysInactive.wrote {step : Step} (call : Call)
    (stays : StaysInactive row.email history store)
    (current : store.findAccount row.email = some row) (applies : step.Applies now row)
    (valid : (step.change policy now row).validate now = .ok ()) :
    let written := (step.change policy now row).next
    StaysInactive row.email
      (⟨call, ⟨.writeLock (step.change policy now row), .ok written⟩, store,
        store.withAccount written⟩ :: history) (store.withAccount written) := by
  obtain ⟨stored, found, told⟩ := stays
  rw [current] at found
  cases found
  have sameEmail := step.next_change_email policy now row
  have endBefore : lockEnd store row.email = row.lockedUntil := lockEnd_of_found current
  have endAfter : lockEnd (store.withAccount (step.change policy now row).next) row.email
      = (step.change policy now row).lockedUntil := lockEnd_withAccount sameEmail
  have raised := Step.lockLevel_change applies valid
  refine ⟨(step.change policy now row).next, ?_, ?_⟩
  · rw [Memory.findAccount_withAccount, if_pos sameEmail.symm]
  · change (step.change policy now row).status = .inactive ↔ _
    rw [step.inactive_change_iff, told, List.forall_mem_cons, and_comm, engages,
      writes_wrote step call _ _, endBefore, endAfter, Bool.true_and, decide_eq_false_iff_not, raised]
    by_cases engaged : NewLock row.lockedUntil (step.change policy now row).lockedUntil <;>
      simp [engaged]

theorem Exchanged.staysInactive {leave : Leave} {exchange : Exchange Service}
    (exchanged : Exchanged policy now store leave exchange after) (call : Call)
    (stays : StaysInactive email history store) :
    StaysInactive email (⟨call, exchange, store, after⟩ :: history) after := by
  cases exchanged with
  | @wrote step given _given current applies valid =>
      have sameEmail := step.next_change_email policy now given
      by_cases own : email = given.email
      · subst own
        exact stays.wrote call current applies valid
      · apply stays.cons
        · exact writes_wrote_other step call _ _ own
        · rw [Memory.findAccount_withAccount, sameEmail, if_neg own]
  | wroteAttempts _given _current _notLocked => exact stays.cons rfl rfl
  | found | late | foundAttempts | lateAttempts => exact stays.cons rfl rfl

end Rows

variable [DecidableEq Call] {policy : LockoutPolicy} {store : Memory}
  {operations : Call → Operation} {session : Operations Call}

theorem staysInactive_of_run (keyed : store.Keyed) {email : Email} {start : Account}
    (stored : store.findAccount email = some start) (inactive : start.status = .inactive)
    (run : Run Memory.Answers (begun policy store operations) session) :
    StaysInactive email session.history session.state := by
  induction run with
  | start => exact ⟨start, stored, iff_of_true inactive fun _turn none => nomatch none⟩
  | move run move ih => exact ((sound_of_run keyed run).exchanged move).staysInactive move.call ih

/-- Whatever operations run side by side on an account that is inactive at first, it is there
throughout; it is inactive until a lock is engaged on it, and from then on it is locked or, when
the lock has been lifted, active. -/
theorem inactive_until_locked (keyed : store.Keyed) {email : Email} {start : Account}
    (stored : store.findAccount email = some start) (inactive : start.status = .inactive)
    (run : Run Memory.Answers (begun policy store operations) session) :
    ∃ row, session.state.findAccount email = some row ∧
      ((∀ turn ∈ session.history, engages email turn = false) → row.status = .inactive) ∧
      ((∃ turn ∈ session.history, engages email turn = true) →
        row.status = .locked ∨ row.status = .active) := by
  obtain ⟨row, found, told⟩ := staysInactive_of_run keyed stored inactive run
  refine ⟨row, found, told.mpr, ?_⟩
  rintro ⟨turn, member, engaged⟩
  have notInactive : row.status ≠ .inactive := by
    intro still
    rw [told.mp still turn member] at engaged
    cases engaged
  cases status : row.status with
  | active => exact Or.inr rfl
  | inactive => exact absurd status notInactive
  | locked => exact Or.inl rfl

def deactivatedAccount : Account :=
  .create { name := ⟨"Ada"⟩, email := ⟨"ada@b.org"⟩, passwordHash := "", status := .inactive } ⟨0⟩
    .epoch

def deactivated : Memory := Memory.empty.withAccount deactivatedAccount

theorem deactivated_keyed : deactivated.Keyed := Memory.OfNewUsers.empty.keyed.withAccount _

def lockAndLift : Bool → Operation
  | false => ⟨.onRow .count, ⟨"ada@b.org"⟩, .epoch⟩
  | true => ⟨.onRow .lift, ⟨"ada@b.org"⟩, .deadline .epoch (.ofSeconds 10)⟩

def lifted : Operations Bool :=
  Session.follow answering (begun ⟨1, .ofSeconds 10⟩ deactivated lockAndLift)
    [false, false, true, true]

theorem inactive_until_locked_lifted :
    ∃ row, lifted.state.findAccount ⟨"ada@b.org"⟩ = some row ∧
      (row.status = .locked ∨ row.status = .active) := by
  have engaged : lifted.history.any (engages ⟨"ada@b.org"⟩) = true := by decide +kernel
  have stored : deactivated.findAccount ⟨"ada@b.org"⟩ = some deactivatedAccount := rfl
  have run : Run Memory.Answers (begun ⟨1, .ofSeconds 10⟩ deactivated lockAndLift) lifted :=
    Session.Run.start.follow answering _
  obtain ⟨row, found, _until, since⟩ := inactive_until_locked deactivated_keyed stored rfl run
  exact ⟨row, found, since (List.any_eq_true.mp engaged)⟩

/-- The lock does not give the status back: an account that was deactivated may end up active. -/
theorem not_inactive_kept :
    ¬∀ (policy : LockoutPolicy) (store : Memory) (operations : Bool → Operation)
      (session : Operations Bool) (email : Email) (start row : Account), store.Keyed →
        store.findAccount email = some start → start.status = .inactive →
        Run Memory.Answers (begun policy store operations) session →
        session.state.findAccount email = some row → row.status ≠ .locked →
        row.status = .inactive := by
  intro kept
  have active : (lifted.state.findAccount ⟨"ada@b.org"⟩).map (·.status) = some .active := by
    decide +kernel
  obtain ⟨row, found, status⟩ := Option.map_eq_some_iff.mp active
  have inactive := kept ⟨1, .ofSeconds 10⟩ deactivated lockAndLift lifted ⟨"ada@b.org"⟩
    deactivatedAccount row deactivated_keyed rfl rfl (Session.Run.start.follow answering _) found
    (by rw [status]; decide)
  rw [status] at inactive
  cases inactive

end Latchkey.Lockout
