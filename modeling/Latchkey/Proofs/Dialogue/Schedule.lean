/-
Sessions that follow a schedule: a list of calls, each of which has its next request
answered when its turn comes, in a way in which the state may answer it. Every schedule is
an order in which the calls may run.
-/

import Latchkey.Proofs.Dialogue.Interleaving

namespace Latchkey.Session

variable {State Call : Type} [DecidableEq Call] {interface : Interface} {α : Type}
  {answers : Answering State interface} {start session : Session State Call interface α}

/-- One way to answer, out of those that there are. -/
structure Responder (answers : Answering State interface) where
  reply : State → (request : interface.Request) → interface.Reply request
  after : State → interface.Request → State
  answered : ∀ state request, answers state request (reply state request) (after state request)

def advance (responder : Responder answers) (session : Session State Call interface α)
    (call : Call) : Session State Call interface α :=
  match asked : session.calls call with
  | .done _ => session
  | .ask request next =>
      let move : Move answers session :=
        { call, request, next, asked
          reply := responder.reply session.state request
          after := responder.after session.state request
          answered := responder.answered session.state request }
      move.apply

def follow (responder : Responder answers) (session : Session State Call interface α)
    (schedule : List Call) : Session State Call interface α :=
  schedule.foldl (advance responder) session

theorem Run.advance (responder : Responder answers) (run : Run answers start session) (call : Call) :
    Run answers start (advance responder session call) := by
  unfold Session.advance
  split
  · exact run
  · exact run.move _

/-- Whatever the schedule, what comes of it is a run. -/
theorem Run.follow (responder : Responder answers) (run : Run answers start session)
    (schedule : List Call) : Run answers start (follow responder session schedule) := by
  induction schedule generalizing session with
  | nil => exact run
  | cons call schedule ih => exact ih (run.advance responder call)

end Latchkey.Session
