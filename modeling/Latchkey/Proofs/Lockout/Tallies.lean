/-
What the fields of a row tell of the writes that led to it. A write that may be made raises
the level just when it engages a lock, so that the level is the number of those that did, in
32 bits; and the version is the number of all.
-/

import Latchkey.Proofs.Dialogue.Interleaving
import Latchkey.Proofs.Lockout.Exchanges
import Latchkey.Proofs.Store.NewUsers

namespace Latchkey.Lockout

open Store (Memory)
open Time (Instant)

variable {Call : Type}

def lockEnd (store : Memory) (email : Email) : Option Instant :=
  (store.findAccount email).bind (·.lockedUntil)

def writes (email : Email) (turn : Turn Memory Call Service) : Bool :=
  match turn.exchange with
  | ⟨.writeLock _, .ok written⟩ => written.email = email
  | _ => false

/-- Whether there is a lock that ends otherwise than before, if there was one. -/
def NewLock (before after : Option Instant) : Prop := after ≠ none ∧ after ≠ before

instance (before after : Option Instant) : Decidable (NewLock before after) :=
  inferInstanceAs (Decidable (_ ∧ _))

/-- Whether the store took a write that engaged a lock on the row of an email. -/
def engages (email : Email) (turn : Turn Memory Call Service) : Bool :=
  writes email turn && decide (NewLock (lockEnd turn.before email) (lockEnd turn.after email))

variable {policy : LockoutPolicy} {now : Instant} {row : Account} {store after : Memory}
  {history : List (Turn Memory Call Service)}

theorem lockEnd_of_found {email : Email} (found : store.findAccount email = some row) :
    lockEnd store email = row.lockedUntil := by
  rw [lockEnd, found]
  rfl

theorem lockEnd_withAccount {changed : Account} {email : Email} (own : changed.email = email) :
    lockEnd (store.withAccount changed) email = changed.lockedUntil := by
  apply lockEnd_of_found
  rw [Memory.findAccount_withAccount, if_pos own.symm]

theorem engages_of_unwritten {email : Email} {turn : Turn Memory Call Service}
    (unwritten : writes email turn = false) : engages email turn = false := by
  unfold engages
  rw [unwritten]
  rfl

theorem countP_engages_of_unwritten {email : Email} {turn : Turn Memory Call Service}
    (unwritten : writes email turn = false) :
    (turn :: history).countP (engages email) = history.countP (engages email) :=
  List.countP_cons_of_neg (by rw [engages_of_unwritten unwritten]; decide)

/-- Of the steps that may be written, a failure that reaches the threshold engages a lock. -/
theorem Step.newLock_change_iff {step : Step} (applies : step.Applies now row)
    (valid : (step.change policy now row).validate now = .ok ()) :
    NewLock row.lockedUntil (step.change policy now row).lockedUntil ↔
      step = .count ∧ ¬row.failures + 1 < policy.threshold := by
  cases step with
  | lift => exact ⟨fun engaged => absurd rfl engaged.1, fun reached => nomatch reached.1⟩
  | count =>
      change (row.registerFailure policy now).validate now = .ok () at valid
      change NewLock row.lockedUntil (row.registerFailure policy now).lockedUntil ↔ _
      by_cases below : row.failures + 1 < policy.threshold
      · rw [Account.registerFailure_below below]
        exact ⟨fun engaged => absurd rfl engaged.2, fun reached => absurd below reached.2⟩
      · rw [Account.registerFailure_reaching below] at valid ⊢
        refine ⟨fun _engaged => ⟨rfl, below⟩, fun _reached => ⟨Option.some_ne_none _, ?_⟩⟩
        -- A lock that ended just then would still hold, and the failure would not count.
        have agrees := Account.lockAgrees_iff.mp (Account.validate_eq_ok.mp valid).1
        obtain ⟨deadline, engaged, ahead⟩ := agrees.mp rfl
        intro same
        exact applies deadline
          (Account.lockState_eq_lockedUntil.mpr ⟨same.symm.trans engaged, ahead⟩)
  | forget => exact ⟨fun engaged => absurd rfl engaged.2, fun reached => nomatch reached.1⟩

/-- A step that may be written raises the level just when it engages a lock. -/
theorem Step.lockLevel_change {step : Step} (applies : step.Applies now row)
    (valid : (step.change policy now row).validate now = .ok ()) :
    (step.change policy now row).lockLevel = row.lockLevel +
      if NewLock row.lockedUntil (step.change policy now row).lockedUntil then 1 else 0 := by
  have engaged := Step.newLock_change_iff applies valid
  cases step with
  | lift =>
      rw [if_neg (fun new => nomatch (engaged.mp new).1)]
      exact (UInt32.add_zero row.lockLevel).symm
  | count =>
      change (row.registerFailure policy now).lockLevel = _
      by_cases below : row.failures + 1 < policy.threshold
      · rw [if_neg (fun new => (engaged.mp new).2 below), Account.registerFailure_below below]
        exact (UInt32.add_zero row.lockLevel).symm
      · rw [if_pos (engaged.mpr ⟨rfl, below⟩), Account.registerFailure_reaching below]
        rfl
  | forget =>
      rw [if_neg (fun new => nomatch (engaged.mp new).1)]
      exact (UInt32.add_zero row.lockLevel).symm

/-- The failures that a step adds are those that the row counts more than before, those that it
forgets, and at a new lock as many as reach the threshold. -/
theorem Step.failures_change {step : Step} (consistent : row.LockConsistent policy)
    (applies : step.Applies now row) (valid : (step.change policy now row).validate now = .ok ()) :
    (step.change policy now row).failures + step.forgotten row + policy.threshold *
        (if NewLock row.lockedUntil (step.change policy now row).lockedUntil then 1 else 0)
      = row.failures + step.added := by
  have engaged := Step.newLock_change_iff applies valid
  have bounded := consistent.bounded
  cases step with
  | lift =>
      obtain ⟨deadline, held, _past⟩ := consistent.expired_iff.mp applies
      rw [if_neg (fun new => nomatch (engaged.mp new).1), (consistent.locked_of_some held).2]
      rfl
  | count =>
      change (row.registerFailure policy now).failures + 0 + _ = row.failures + 1
      by_cases below : row.failures + 1 < policy.threshold
      · rw [if_neg (fun new => (engaged.mp new).2 below), Account.registerFailure_below below]
        rfl
      · rw [if_pos (engaged.mpr ⟨rfl, below⟩), Account.registerFailure_reaching below]
        change 0 + 0 + policy.threshold * 1 = row.failures + 1
        omega
  | forget =>
      rw [if_neg (fun new => nomatch (engaged.mp new).1)]
      change 0 + row.failures + policy.threshold * 0 = row.failures + 0
      omega

structure Tallied (policy : LockoutPolicy) (email : Email)
    (history : List (Turn Memory Call Service)) (row : Account) : Prop where
  consistent : row.LockConsistent policy
  version : row.version = history.countP (writes email)
  lockLevel : row.lockLevel = .ofNat (history.countP (engages email))

theorem tallied_newUsers (users : store.OfNewUsers) (positive : 1 ≤ policy.threshold)
    {email : Email} (found : store.findAccount email = some row) :
    Tallied policy email ([] : List (Turn Memory Call Service)) row := by
  obtain ⟨account, id, now, _active, rfl⟩ := users.exists_create found
  exact ⟨users.lockConsistent positive found, rfl, rfl⟩

theorem Tallied.cons {email : Email} {turn : Turn Memory Call Service}
    (tallied : Tallied policy email history row) (unwritten : writes email turn = false) :
    Tallied policy email (turn :: history) row := by
  refine ⟨tallied.consistent, ?_, ?_⟩
  · rw [List.countP_cons_of_neg (by rw [unwritten]; decide)]
    exact tallied.version
  · rw [countP_engages_of_unwritten unwritten]
    exact tallied.lockLevel

theorem writes_wrote (step : Step) (call : Call) (before after : Memory) :
    writes row.email ⟨call, ⟨.writeLock (step.change policy now row),
      .ok (step.change policy now row).next⟩, before, after⟩ = true :=
  decide_eq_true (step.next_change_email policy now row)

theorem writes_wrote_other (step : Step) (call : Call) (before after : Memory) {email : Email}
    (other : email ≠ row.email) :
    writes email ⟨call, ⟨.writeLock (step.change policy now row),
      .ok (step.change policy now row).next⟩, before, after⟩ = false :=
  decide_eq_false fun own => other (own.symm.trans (step.next_change_email policy now row))

theorem countP_engages_wrote {step : Step} {call : Call}
    (current : store.findAccount row.email = some row) :
    ((⟨call, ⟨.writeLock (step.change policy now row), .ok (step.change policy now row).next⟩, store,
        store.withAccount (step.change policy now row).next⟩ : Turn Memory Call Service)
        :: history).countP (engages row.email)
      = history.countP (engages row.email) +
        if NewLock row.lockedUntil (step.change policy now row).lockedUntil then 1 else 0 := by
  rw [List.countP_cons, engages, writes_wrote, lockEnd_of_found current,
    lockEnd_withAccount (step.next_change_email policy now row), Bool.true_and]
  change _ + (if decide (NewLock row.lockedUntil (step.change policy now row).lockedUntil) = true
    then 1 else 0) = _
  simp only [decide_eq_true_eq]

theorem Tallied.wrote {step : Step} {call : Call} (tallied : Tallied policy row.email history row)
    (current : store.findAccount row.email = some row) (applies : step.Applies now row)
    (valid : (step.change policy now row).validate now = .ok ()) :
    Tallied policy row.email
      (⟨call, ⟨.writeLock (step.change policy now row), .ok (step.change policy now row).next⟩, store,
        store.withAccount (step.change policy now row).next⟩ :: history)
      (step.change policy now row).next := by
  refine ⟨(Step.consistent_change tallied.consistent applies valid).version _, ?_, ?_⟩
  · rw [List.countP_cons_of_pos (writes_wrote step call _ _), Int.natCast_succ, ← tallied.version,
      ← (step.change_onlyRelocks policy now row).version]
    rfl
  · rw [Account.next_lockLevel, Step.lockLevel_change applies valid, tallied.lockLevel,
      countP_engages_wrote current, UInt32.ofNat_add]
    split <;> rfl

theorem Exchanged.tallied {leave : Leave} {exchange : Exchange Service}
    (exchanged : Exchanged policy now store leave exchange after)
    (tallied : ∀ email row, store.findAccount email = some row → Tallied policy email history row)
    (call : Call) (email : Email) (found : after.findAccount email = some row) :
    Tallied policy email (⟨call, exchange, store, after⟩ :: history) row := by
  cases exchanged with
  | @wrote step given _given current applies valid =>
      have sameEmail := step.next_change_email policy now given
      rw [Memory.findAccount_withAccount, sameEmail] at found
      by_cases own : email = given.email
      · rw [if_pos own] at found
        cases found
        subst own
        exact (tallied given.email given current).wrote current applies valid
      · rw [if_neg own] at found
        exact (tallied email row found).cons (writes_wrote_other step call _ _ own)
  | wroteAttempts _given _current _notLocked => exact (tallied email row found).cons rfl
  | found | late | foundAttempts | lateAttempts => exact (tallied email row found).cons rfl

end Latchkey.Lockout
