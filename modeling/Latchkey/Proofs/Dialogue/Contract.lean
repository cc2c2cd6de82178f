/-
What a dialogue asks for and what it is told. A contract says which requests may follow
upon what was said before, and which replies to expect; a dialogue obeys one when it asks
only such requests and ends as promised, whichever of the expected replies it hears. To
obey is a property of the dialogue alone, so that it is shown without regard to who else
talks to the same service.
-/

import Latchkey.Service

namespace Latchkey

structure Exchange (interface : Interface) where
  request : interface.Request
  reply : interface.Reply request

namespace Dialogue

/-- Of the exchanges before a request, the latest stands first. -/
structure Contract (interface : Interface) where
  asks : List (Exchange interface) → interface.Request → Prop
  hears : List (Exchange interface) → (request : interface.Request) →
    interface.Reply request → Prop

variable {interface : Interface} {α β : Type}

/-- Whatever it hears under the contract, the dialogue asks only what it may ask, and it
ends as promised. -/
def Obeys (contract : Contract interface) (ends : List (Exchange interface) → α → Prop) :
    List (Exchange interface) → Dialogue interface α → Prop
  | past, done value => ends past value
  | past, ask request next =>
      contract.asks past request ∧ ∀ reply, contract.hears past request reply →
        Obeys contract ends (⟨request, reply⟩ :: past) (next reply)

variable {contract : Contract interface} {past : List (Exchange interface)}

theorem Obeys.mono {ends weaker : List (Exchange interface) → α → Prop}
    {dialogue : Dialogue interface α} (obeys : Obeys contract ends past dialogue)
    (weaken : ∀ past value, ends past value → weaker past value) :
    Obeys contract weaker past dialogue := by
  induction dialogue generalizing past with
  | done value => exact weaken past value obeys
  | ask request next ih =>
      refine ⟨obeys.1, ?_⟩
      intro reply heard
      exact ih reply (obeys.2 reply heard)

theorem Obeys.growing {ends : List (Exchange interface) → α → Prop}
    {dialogue : Dialogue interface α} (obeys : Obeys contract ends past dialogue) :
    Obeys contract (fun later value => past <:+ later ∧ ends later value) past dialogue := by
  induction dialogue generalizing past with
  | done value => exact ⟨List.suffix_rfl, obeys⟩
  | ask request next ih =>
      refine ⟨obeys.1, ?_⟩
      intro reply heard
      apply (ih reply (obeys.2 reply heard)).mono
      rintro later value ⟨grown, ended⟩
      exact ⟨(List.suffix_cons _ past).trans grown, ended⟩

theorem obeys_bind {ends : List (Exchange interface) → β → Prop}
    {dialogue : Dialogue interface α} {following : α → Dialogue interface β} :
    Obeys contract ends past (dialogue >>= following) ↔
      Obeys contract (fun past value => Obeys contract ends past (following value)) past
        dialogue := by
  induction dialogue generalizing past with
  | done value => exact Iff.rfl
  | ask request next ih =>
      constructor
      · intro obeys
        exact ⟨obeys.1, fun reply heard => (ih reply).mp (obeys.2 reply heard)⟩
      · intro obeys
        exact ⟨obeys.1, fun reply heard => (ih reply).mpr (obeys.2 reply heard)⟩

end Dialogue

namespace Procedure

open Dialogue (Contract Obeys)

variable {α β : Type} {contract : Contract Service} {past : List (Exchange Service)}

/-- The end of a first part, seen from the whole: where the part fails, so does the whole. -/
def Continues (contract : Contract Service)
    (ends : List (Exchange Service) → Except Failure β → Prop) (following : α → Procedure β)
    (past : List (Exchange Service)) : Except Failure α → Prop
  | .ok value => Obeys contract ends past (following value).run
  | .error failure => ends past (.error failure)

theorem obeys_bind {ends : List (Exchange Service) → Except Failure β → Prop}
    {procedure : Procedure α} {following : α → Procedure β} :
    Obeys contract ends past (procedure >>= following).run ↔
      Obeys contract (Continues contract ends following) past procedure.run := by
  change Obeys contract ends past (procedure.run >>= ExceptT.bindCont following) ↔ _
  rw [Dialogue.obeys_bind]
  constructor
  · intro obeys
    apply obeys.mono
    intro past outcome reached
    cases outcome <;> exact reached
  · intro obeys
    apply obeys.mono
    intro past outcome reached
    cases outcome <;> exact reached

theorem obeys_tryCatch {ends : List (Exchange Service) → Except Failure α → Prop}
    {procedure : Procedure α} {handler : Failure → Procedure α} :
    Obeys contract ends past (tryCatch procedure handler).run ↔
      Obeys contract
        (fun past outcome =>
          match outcome with
          | .ok value => ends past (.ok value)
          | .error failure => Obeys contract ends past (handler failure).run)
        past procedure.run := by
  rw [run_tryCatch, Dialogue.obeys_bind]
  constructor
  · intro obeys
    apply obeys.mono
    intro past outcome reached
    cases outcome <;> exact reached
  · intro obeys
    apply obeys.mono
    intro past outcome reached
    cases outcome <;> exact reached

theorem obeys_asking {ends : List (Exchange Service) → Except Failure α → Prop}
    {request : Service.Request} {reply : Service.Reply request → Except Failure α} :
    Obeys contract ends past (ask request reply).run ↔
      contract.asks past request ∧ ∀ answer, contract.hears past request answer →
        ends (⟨request, answer⟩ :: past) (reply answer) := Iff.rfl

end Procedure

end Latchkey
