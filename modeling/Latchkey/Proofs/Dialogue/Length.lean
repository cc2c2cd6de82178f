/-
How long a dialogue can get. The bounds hold on every path, whatever the replies are, and
add up along a sequence of dialogues. Side by side with others, a call that keeps to a
bound asks no more than that, and it is never stuck where every request has a reply.
-/

import Latchkey.Proofs.Dialogue.Interleaving

namespace Latchkey

namespace Dialogue

variable {interface : Interface} {α β : Type} {limit wider : Nat}

def Within (limit : Nat) : Dialogue interface α → Prop
  | done _ => True
  | ask _ next => 0 < limit ∧ ∀ reply, Within (limit - 1) (next reply)

theorem Within.mono {dialogue : Dialogue interface α} (within : dialogue.Within limit)
    (wide : limit ≤ wider) : dialogue.Within wider := by
  induction dialogue generalizing limit wider with
  | done value => trivial
  | ask request next ih =>
      obtain ⟨positive, rest⟩ := within
      refine ⟨Nat.lt_of_lt_of_le positive wide, ?_⟩
      intro reply
      exact ih reply (rest reply) (Nat.sub_le_sub_right wide 1)

theorem Within.bind {first second : Nat} {dialogue : Dialogue interface α}
    {following : α → Dialogue interface β} (within : dialogue.Within first)
    (next : ∀ value, (following value).Within second) :
    (dialogue >>= following).Within (first + second) := by
  induction dialogue generalizing first with
  | done value => exact (next value).mono (Nat.le_add_left second first)
  | ask request ask ih =>
      obtain ⟨positive, rest⟩ := within
      refine ⟨by omega, ?_⟩
      intro reply
      have shifted := ih reply (rest reply)
      rw [show first - 1 + second = first + second - 1 by omega] at shifted
      exact shifted

end Dialogue

namespace Procedure

open Dialogue (Within)

variable {α β : Type}

theorem within_ask (request : Service.Request) (reply : Service.Reply request → Except Failure α) :
    (ask request reply).run.Within 1 := ⟨Nat.one_pos, fun _answer => trivial⟩

theorem within_ofExcept (outcome : Except Failure α) : (ofExcept outcome).run.Within 0 := trivial

theorem within_bind (first second : Nat) {limit : Nat} {procedure : Procedure α}
    {following : α → Procedure β} (within : procedure.run.Within first)
    (next : ∀ value, (following value).run.Within second) (sum : first + second ≤ limit) :
    (procedure >>= following).run.Within limit := by
  change (procedure.run >>= ExceptT.bindCont following).Within limit
  refine (within.bind ?_).mono sum
  intro outcome
  cases outcome with
  | error failure => trivial
  | ok value => exact next value

end Procedure

namespace Session

variable {State Call : Type} [DecidableEq Call] {interface : Interface} {α : Type}
  {answers : Answering State interface} {session : Session State Call interface α}

def Limited (limit : Nat) (session : Session State Call interface α) : Prop :=
  ∀ call, (session.heard call).length ≤ limit ∧
    (session.calls call).Within (limit - (session.heard call).length)

theorem Move.limited {limit : Nat} (move : Move answers session)
    (limited : session.Limited limit) : move.apply.Limited limit := by
  intro call
  by_cases same : call = move.call
  · subst same
    obtain ⟨_short, within⟩ := limited move.call
    rw [move.asked] at within
    obtain ⟨left, rest⟩ := within
    rw [move.heard_same, move.calls_same, List.length_cons, ← Nat.sub_sub]
    exact ⟨by omega, rest move.reply⟩
  · rw [move.heard_other same, move.calls_other same]
    exact limited call

omit [DecidableEq Call] in
theorem exists_move (total : ∀ state request, ∃ reply after, answers state request reply after)
    {call : Call} (unfinished : ∀ value, session.calls call ≠ .done value) :
    ∃ move : Move answers session, move.call = call := by
  cases asked : session.calls call with
  | done value => exact absurd asked (unfinished value)
  | ask request next =>
      obtain ⟨reply, after, answered⟩ := total session.state request
      exact ⟨⟨call, request, next, asked, reply, after, answered⟩, rfl⟩

end Session

end Latchkey
