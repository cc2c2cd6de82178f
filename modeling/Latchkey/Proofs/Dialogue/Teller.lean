/-
Dialogues with somebody of whom nothing is known. A teller chooses each reply as they like,
knowing all that was said before, so that what holds for every teller holds for every
sequence of replies. A dialogue is finite, and comes to an end with each of them.
-/

import Latchkey.Proofs.Dialogue.Contract

namespace Latchkey

/-- Of the exchanges that a teller knows of, the latest stands first. -/
abbrev Teller (interface : Interface) : Type :=
  List (Exchange interface) → (request : interface.Request) → interface.Reply request

variable {interface : Interface} {α β : Type}

namespace Dialogue

/-- What is said from now on, in the order in which it is said, and what comes of it. -/
def converse (teller : Teller interface) (past : List (Exchange interface)) :
    Dialogue interface α → List (Exchange interface) × α
  | done value => ([], value)
  | ask request next =>
      let exchange : Exchange interface := ⟨request, teller past request⟩
      let later := converse teller (exchange :: past) (next exchange.reply)
      (exchange :: later.1, later.2)

theorem converse_bind_done (teller : Teller interface) (past : List (Exchange interface))
    (dialogue : Dialogue interface α) (change : α → β) :
    (dialogue >>= fun value => done (change value)).converse teller past =
      ((dialogue.converse teller past).1, change (dialogue.converse teller past).2) := by
  induction dialogue generalizing past with
  | done value => rfl
  | ask request next ih =>
      rw [ask_bind, converse, converse]
      simp only [ih]

end Dialogue

namespace Procedure

variable {teller : Teller Service} {past : List (Exchange Service)} {request : Service.Request}
  {reply : Service.Reply request → Except Failure α} {following : α → Procedure β}

private def continued (teller : Teller Service) (past : List (Exchange Service))
    (request : Service.Request) (later : Dialogue Service (Except Failure β)) :
    List (Exchange Service) × Except Failure β :=
  let exchange : Exchange Service := ⟨request, teller past request⟩
  (exchange :: (later.converse teller (exchange :: past)).1,
    (later.converse teller (exchange :: past)).2)

end Procedure

end Latchkey
