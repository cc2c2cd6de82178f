/-
Dialogues that run side by side on one shared state. Any dialogue that is not done may
have its next request answered, as a whole, and nothing is promised about the order. The
history keeps each answered request with the states before and after it; what one call
was told is read off the history.
-/

import Latchkey.Proofs.Dialogue.Contract

namespace Latchkey

variable {State Call : Type} [DecidableEq Call] {interface : Interface} {α : Type}

structure Turn (State Call : Type) (interface : Interface) where
  call : Call
  exchange : Exchange interface
  before : State
  after : State

/-- What one call asked and was told. As in the history, the latest exchange stands first. -/
def conversation (call : Call) : List (Turn State Call interface) → List (Exchange interface)
  | [] => []
  | turn :: earlier =>
      if turn.call = call then turn.exchange :: conversation call earlier
      else conversation call earlier

theorem exists_turn_of_mem {call : Call} {exchange : Exchange interface}
    {history : List (Turn State Call interface)} (told : exchange ∈ conversation call history) :
    ∃ turn ∈ history, turn.exchange = exchange := by
  induction history with
  | nil => cases told
  | cons turn earlier ih =>
      have before (told : exchange ∈ conversation call earlier) :
          ∃ said ∈ turn :: earlier, said.exchange = exchange := by
        obtain ⟨said, present, same⟩ := ih told
        exact ⟨said, List.mem_cons_of_mem turn present, same⟩
      rw [conversation] at told
      split at told
      · rcases List.mem_cons.mp told with same | told
        · exact ⟨turn, List.mem_cons_self, same.symm⟩
        · exact before told
      · exact before told

theorem mem_conversation {turn : Turn State Call interface}
    {history : List (Turn State Call interface)} (said : turn ∈ history) :
    turn.exchange ∈ conversation turn.call history := by
  induction history with
  | nil => cases said
  | cons latest earlier ih =>
      rw [conversation]
      rcases List.mem_cons.mp said with rfl | before
      · rw [if_pos rfl]
        exact List.mem_cons_self
      · split
        · exact List.mem_cons_of_mem _ (ih before)
        · exact ih before

/-- The history up to the last turn of a call. -/
def untilLast (call : Call) (history : List (Turn State Call interface)) :
    List (Turn State Call interface) :=
  history.dropWhile (·.call ≠ call)

theorem untilLast_same {call : Call} {turn : Turn State Call interface}
    {earlier : List (Turn State Call interface)} (own : turn.call = call) :
    untilLast call (turn :: earlier) = turn :: earlier := by
  rw [untilLast, List.dropWhile_cons, if_neg]
  rw [decide_eq_true_iff]
  exact fun other => other own

theorem untilLast_other {call : Call} {turn : Turn State Call interface}
    {earlier : List (Turn State Call interface)} (other : turn.call ≠ call) :
    untilLast call (turn :: earlier) = untilLast call earlier := by
  rw [untilLast, List.dropWhile_cons, if_pos (decide_eq_true other)]
  rfl

structure Session (State Call : Type) (interface : Interface) (α : Type) where
  state : State
  calls : Call → Dialogue interface α
  history : List (Turn State Call interface) := []

namespace Session

def heard (session : Session State Call interface α) (call : Call) : List (Exchange interface) :=
  conversation call session.history

/-- How a state answers a request: with which replies, and which states after it. -/
abbrev Answering (State : Type) (interface : Interface) :=
  State → (request : interface.Request) → interface.Reply request → State → Prop

structure Move (answers : Answering State interface)
    (session : Session State Call interface α) where
  call : Call
  request : interface.Request
  next : interface.Reply request → Dialogue interface α
  asked : session.calls call = .ask request next
  reply : interface.Reply request
  after : State
  answered : answers session.state request reply after

variable {answers : Answering State interface} {session : Session State Call interface α}

def Move.turn (move : Move answers session) : Turn State Call interface :=
  ⟨move.call, ⟨move.request, move.reply⟩, session.state, move.after⟩

def Move.apply (move : Move answers session) : Session State Call interface α :=
  { state := move.after
    calls := fun call => if call = move.call then move.next move.reply else session.calls call
    history := move.turn :: session.history }

/-- The sessions that a session may come to be, in any order of its calls. -/
inductive Run (answers : Answering State interface) (start : Session State Call interface α) :
    Session State Call interface α → Prop
  | start : Run answers start start
  | move {session : Session State Call interface α} :
      Run answers start session → (move : Move answers session) → Run answers start move.apply

/-- What holds at the start and is kept by every move holds throughout. -/
theorem Run.keeps {start : Session State Call interface α}
    {holds : Session State Call interface α → Prop} (run : Run answers start session)
    (atStart : holds start)
    (kept : ∀ session, holds session → ∀ move : Move answers session, holds move.apply) :
    holds session := by
  induction run with
  | start => exact atStart
  | move _run move ih => exact kept _ ih move

/-- A run breaks off at the last turn of a call, which is from then on what it is at the end. -/
theorem Run.untilLast {start : Session State Call interface α} (run : Run answers start session)
    (fresh : start.history = []) (call : Call) :
    ∃ earlier, Run answers start earlier ∧ earlier.calls call = session.calls call ∧
      earlier.history = Latchkey.untilLast call session.history := by
  induction run with
  | start =>
      refine ⟨start, .start, rfl, ?_⟩
      rw [fresh]
      rfl
  | @move session run move ih =>
      by_cases own : move.call = call
      · exact ⟨move.apply, run.move move, rfl, (untilLast_same own).symm⟩
      · obtain ⟨earlier, before, same, history⟩ := ih
        refine ⟨earlier, before, same.trans (if_neg (fun equal => own equal.symm)).symm, ?_⟩
        exact history.trans (untilLast_other own).symm

theorem Move.heard_same (move : Move answers session) :
    move.apply.heard move.call = ⟨move.request, move.reply⟩ :: session.heard move.call :=
  if_pos rfl

theorem Move.heard_other (move : Move answers session) {call : Call}
    (other : call ≠ move.call) : move.apply.heard call = session.heard call :=
  if_neg (fun same => other same.symm)

theorem Move.calls_same (move : Move answers session) :
    move.apply.calls move.call = move.next move.reply := if_pos rfl

theorem Move.calls_other (move : Move answers session) {call : Call}
    (other : call ≠ move.call) : move.apply.calls call = session.calls call := if_neg other

def Obedient (contract : Call → Dialogue.Contract interface)
    (ends : Call → List (Exchange interface) → α → Prop)
    (session : Session State Call interface α) : Prop :=
  ∀ call, Dialogue.Obeys (contract call) (ends call) (session.heard call) (session.calls call)

variable {contract : Call → Dialogue.Contract interface}
  {ends : Call → List (Exchange interface) → α → Prop}

theorem Move.asks (move : Move answers session) (obedient : Obedient contract ends session) :
    (contract move.call).asks (session.heard move.call) move.request := by
  have obeys := obedient move.call
  rw [move.asked] at obeys
  exact obeys.1

theorem Move.obedient (move : Move answers session) (obedient : Obedient contract ends session)
    (hears : (contract move.call).hears (session.heard move.call) move.request move.reply) :
    Obedient contract ends move.apply := by
  intro call
  by_cases same : call = move.call
  · subst same
    have obeys := obedient move.call
    rw [move.asked] at obeys
    rw [move.heard_same, move.calls_same]
    exact obeys.2 move.reply hears
  · rw [move.heard_other same, move.calls_other same]
    exact obedient call

theorem Obedient.ended (obedient : Obedient contract ends session) {call : Call} {value : α}
    (ended : session.calls call = .done value) : ends call (session.heard call) value := by
  have obeys := obedient call
  rw [ended] at obeys
  exact obeys

end Session

end Latchkey
