/-
Sessions that follow a schedule: a list of calls, each of which has its next request
answered when its turn comes. The service is the one in one process, around the store as
it is then, and its hasher tells for each call whether the password is right. Every
schedule is an order in which the calls may run.
-/

import Latchkey.Proofs.SignIn.Concurrent

namespace Latchkey.SignIn

open Session (Move Run)
open Store (Memory)

def serviceOn (store : Memory) (right : Bool) : Service.Local where
  issuer := ⟨[], "", "", .ofSeconds 0, .ofSeconds 0⟩
  hasher := { saltLength := 0, hash := fun _ _ => "", verify := fun _ _ => right }
  exchange := fun _ => .error .wrongCredentials
  now := .epoch
  supply := fun _ _ => []
  store

variable {Call : Type} [DecidableEq Call]

def advance (right : Call → Bool) (session : SignIns Call) (call : Call) : SignIns Call :=
  match asked : session.calls call with
  | .done _ => session
  | .ask request next =>
      let service := serviceOn session.state (right call)
      let move : Move Memory.Answers session :=
        { call, request, next, asked
          reply := (Service.Local.answer request service).1
          after := (Service.Local.answer request service).2.store
          answered := Memory.answers_of_local request service }
      move.apply

def follow (right : Call → Bool) (session : SignIns Call) (schedule : List Call) : SignIns Call :=
  schedule.foldl (advance right) session

variable {right : Call → Bool} {start session : SignIns Call}

theorem run_advance (run : Run Memory.Answers start session) (call : Call) :
    Run Memory.Answers start (advance right session call) := by
  unfold advance
  split
  · exact run
  · exact run.move _

theorem run_follow (run : Run Memory.Answers start session) (schedule : List Call) :
    Run Memory.Answers start (follow right session schedule) := by
  induction schedule generalizing session with
  | nil => exact run
  | cons call schedule ih => exact ih (run_advance run call)

/-- Two that run without a break, and one that the others overtake. -/
inductive Racer where
  | first
  | second
  | late
  deriving DecidableEq

def oneAccount : Memory :=
  Memory.empty.withAccount
    (.create { name := ⟨"Ada"⟩, email := ⟨"ada@b.org"⟩, passwordHash := "" } ⟨0⟩ .epoch)

theorem oneAccount_ofNewUsers : oneAccount.OfNewUsers :=
  .create ⟨"Ada"⟩ ⟨"ada@b.org"⟩ "" ⟨0⟩ .epoch .empty rfl

def isFailure (failure : Failure) : Except Failure Token.Pair → Bool
  | .ok _ => false
  | .error other => other = failure

def endedWith (kind : Except Failure Token.Pair → Bool) (session : SignIns Call) (call : Call) :
    Bool :=
  match session.calls call with
  | .done outcome => kind outcome
  | .ask _ _ => false

omit [DecidableEq Call] in
theorem exists_of_endedWith {kind : Except Failure Token.Pair → Bool} {call : Call}
    (ended : endedWith kind session call = true) :
    ∃ outcome, session.calls call = .done outcome ∧ kind outcome = true := by
  unfold endedWith at ended
  cases reached : session.calls call with
  | done outcome =>
      rw [reached] at ended
      exact ⟨outcome, rfl, ended⟩
  | ask request next =>
      rw [reached] at ended
      cases ended

end Latchkey.SignIn
