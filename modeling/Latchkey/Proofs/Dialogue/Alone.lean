/-
Dialogues that run by themselves on a state that nobody else changes. What one comes to is
told by a postcondition on its outcome and on the state it leaves, along the steps of the
dialogue.
-/

import Latchkey.Service

namespace Latchkey

variable {State α β : Type}

theorem Dialogue.runIn_bind {interface : Interface}
    {answer : (request : interface.Request) → StateM State (interface.Reply request)}
    (dialogue : Dialogue interface α) (following : α → Dialogue interface β) (state : State) :
    (dialogue >>= following).runIn answer state
      = (following (dialogue.runIn answer state).1).runIn answer (dialogue.runIn answer state).2 := by
  induction dialogue generalizing state with
  | done value => rfl
  | ask request next ih => exact ih _ _

namespace Procedure

variable {answer : (request : Service.Request) → StateM State (Service.Reply request)}
  {state : State}

def EndsSo (answer : (request : Service.Request) → StateM State (Service.Reply request))
    (procedure : Procedure α) (state : State) (ends : Except Failure α → State → Prop) : Prop :=
  ends (procedure.run.runIn answer state).1 (procedure.run.runIn answer state).2

theorem EndsSo.mono {procedure : Procedure α} {ends weaker : Except Failure α → State → Prop}
    (ended : procedure.EndsSo answer state ends)
    (weaken : ∀ outcome after, ends outcome after → weaker outcome after) :
    procedure.EndsSo answer state weaker := weaken _ _ ended

theorem endsSo_bind {ends : Except Failure β → State → Prop} {procedure : Procedure α}
    {following : α → Procedure β} :
    (procedure >>= following).EndsSo answer state ends ↔
      procedure.EndsSo answer state fun outcome after =>
        match outcome with
        | .ok value => (following value).EndsSo answer after ends
        | .error failure => ends (.error failure) after := by
  have split := @Dialogue.runIn_bind State _ _ Service answer procedure.run
    (ExceptT.bindCont following) state
  unfold EndsSo
  change ends ((procedure.run >>= ExceptT.bindCont following).runIn answer state).1
    ((procedure.run >>= ExceptT.bindCont following).runIn answer state).2 ↔ _
  rw [split]
  cases (procedure.run.runIn answer state).1 <;> exact Iff.rfl

theorem endsSo_ask {ends : Except Failure α → State → Prop} {request : Service.Request}
    {reply : Service.Reply request → Except Failure α} :
    (ask request reply).EndsSo answer state ends ↔
      ends (reply (answer request state).1) (answer request state).2 := Iff.rfl

theorem endsSo_tryCatch {ends : Except Failure α → State → Prop} {procedure : Procedure α}
    {handler : Failure → Procedure α} :
    (tryCatch procedure handler).EndsSo answer state ends ↔
      procedure.EndsSo answer state fun outcome after =>
        match outcome with
        | .ok value => ends (.ok value) after
        | .error failure => (handler failure).EndsSo answer after ends := by
  have split := @Dialogue.runIn_bind State _ _ Service answer procedure.run (caught handler) state
  unfold EndsSo
  rw [run_tryCatch, split]
  cases (procedure.run.runIn answer state).1 <;> exact Iff.rfl

end Procedure

end Latchkey
