/-
What the rows of a store look like, whatever operations of the lockout run side by side on
it. The lock fields of every row fit together; its version tells how often it was written,
and its level how many of the writes engaged a lock.
-/

import Latchkey.Proofs.Dialogue.Schedule
import Latchkey.Proofs.Lockout.Interleaved
import Latchkey.Proofs.Lockout.Tallies
import Latchkey.Proofs.SignIn.Schedule

namespace Latchkey.Lockout

open Session (Move Run)
open Store (Memory)
open Time (Instant)

variable {Call : Type} [DecidableEq Call] {policy : LockoutPolicy} {store : Memory}
  {operations : Call → Operation} {session : Operations Call}

theorem tallied_of_run (users : store.OfNewUsers) (positive : 1 ≤ policy.threshold)
    (run : Run Memory.Answers (begun policy store operations) session) (email : Email)
    (row : Account) (found : session.state.findAccount email = some row) :
    Tallied policy email session.history row := by
  induction run generalizing email row with
  | start => exact tallied_newUsers users positive found
  | move run move ih =>
      exact ((sound_of_run users.keyed run).exchanged move).tallied ih move.call email found

/-- Whatever operations run side by side on accounts of new users, and in whichever order
their instants lie, the lock fields of every row fit together; its version is the number of
writes that the store took, and its level the number of those that engaged a lock, as long as
32 bits hold it, and what they hold of it after that. -/
theorem rows_tallied (users : store.OfNewUsers) (positive : 1 ≤ policy.threshold)
    (run : Run Memory.Answers (begun policy store operations) session) {email : Email}
    {row : Account} (found : session.state.findAccount email = some row) :
    let locks := session.history.countP (engages email)
    row.LockConsistent policy ∧ row.version = session.history.countP (writes email) ∧
      row.lockLevel = .ofNat locks ∧ (locks < UInt32.size → row.lockLevel.toNat = locks) := by
  obtain ⟨consistent, version, lockLevel⟩ := tallied_of_run users positive run email row found
  refine ⟨consistent, version, lockLevel, ?_⟩
  intro few
  rw [lockLevel]
  exact UInt32.toNat_ofNat_of_lt' few

def answering : @Session.Responder Memory Service Memory.Answers where
  reply := fun store request => (Service.Local.answer request (SignIn.serviceOn store false)).1
  after := fun store request =>
    (Service.Local.answer request (SignIn.serviceOn store false)).2.store
  answered := fun store request => Memory.answers_of_local request (SignIn.serviceOn store false)

/-- Two failures, a success a second later, and a look at the lock when it has run out. -/
def race : Fin 4 → Operation
  | 0 => ⟨.onRow .count, ⟨"ada@b.org"⟩, .epoch⟩
  | 1 => ⟨.onRow .count, ⟨"ada@b.org"⟩, .epoch⟩
  | 2 => ⟨.onRow .forget, ⟨"ada@b.org"⟩, ⟨1, 0, by decide, by decide⟩⟩
  | 3 => ⟨.onRow .lift, ⟨"ada@b.org"⟩, ⟨10, 0, by decide, by decide⟩⟩

/-- The success reads the row between the failures and writes after the lock is engaged. -/
def raced : Operations (Fin 4) :=
  Session.follow answering (begun ⟨2, .ofSeconds 10⟩ SignIn.oneAccount race)
    [0, 0, 2, 1, 1, 2, 2, 2, 3, 3]

theorem rows_tallied_raced :
    ∃ row, raced.state.findAccount ⟨"ada@b.org"⟩ = some row ∧
      row.LockConsistent ⟨2, .ofSeconds 10⟩ ∧ row.version = 4 ∧ row.lockLevel = 1 := by
  have stored : (raced.state.findAccount ⟨"ada@b.org"⟩).isSome = true := by decide +kernel
  obtain ⟨row, found⟩ := Option.isSome_iff_exists.mp stored
  have written : raced.history.countP (writes ⟨"ada@b.org"⟩) = 4 := by decide +kernel
  have engaged : raced.history.countP (engages ⟨"ada@b.org"⟩) = 1 := by decide +kernel
  have positive : 1 ≤ (⟨2, .ofSeconds 10⟩ : LockoutPolicy).threshold := by decide
  obtain ⟨consistent, version, lockLevel, _few⟩ := rows_tallied SignIn.oneAccount_ofNewUsers
    positive (Session.Run.start.follow answering _) found
  exact ⟨row, found, consistent, version.trans (congrArg Int.ofNat written),
    lockLevel.trans (congrArg UInt32.ofNat engaged)⟩

end Latchkey.Lockout
