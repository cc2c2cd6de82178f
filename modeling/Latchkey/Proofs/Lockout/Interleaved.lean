/-
Operations of the lockout side by side on one store. Each goes by rows and records that it
saw, however many turns of others lie between its own.
-/

import Latchkey.Proofs.Dialogue.Interleaving
import Latchkey.Proofs.Lockout.Operation

namespace Latchkey.Lockout

open Session (Move Run)
open Store (Memory)
open Time (Instant)

abbrev Operations (Call : Type) := Session Memory Call Service (Except Failure Unit)

def begun {Call : Type} (policy : LockoutPolicy) (store : Memory) (operations : Call → Operation) :
    Operations Call where
  state := store
  calls := fun call => (operations call).dialogue policy

variable {Call : Type} [DecidableEq Call] {policy : LockoutPolicy} {store : Memory}
  {operations : Call → Operation} {session : Operations Call}

structure Sound (policy : LockoutPolicy) (operations : Call → Operation)
    (session : Operations Call) : Prop where
  keyed : session.state.Keyed
  informed : ∀ call, Informed session.state (session.heard call)
  obedient : session.Obedient (fun call => rules policy (operations call).now)
    fun _call _past _value => True

theorem sound_begun (keyed : store.Keyed) :
    Sound policy operations (begun policy store operations) where
  keyed := keyed
  informed := fun _call => informed_nothing store
  obedient := fun call => (operations call).abides policy

theorem Sound.exchanged (sound : Sound policy operations session)
    (move : Move Memory.Answers session) :
    Exchanged policy (operations move.call).now session.state (leave (session.heard move.call))
      ⟨move.request, move.reply⟩ move.after :=
  exchanged_of_answers (sound.informed move.call) (leave_goesBy _) (move.asks sound.obedient)
    move.answered

theorem Sound.move (sound : Sound policy operations session) (move : Move Memory.Answers session) :
    Sound policy operations move.apply where
  keyed := (sound.exchanged move).keyed sound.keyed
  informed := by
    intro call
    by_cases same : call = move.call
    · subst same
      rw [move.heard_same]
      exact (sound.exchanged move).informed_own (sound.informed move.call) sound.keyed
    · rw [move.heard_other same]
      exact (sound.exchanged move).informed_other (sound.informed call)
  obedient := move.obedient sound.obedient trivial

theorem sound_of_run (keyed : store.Keyed)
    (run : Run Memory.Answers (begun policy store operations) session) :
    Sound policy operations session :=
  run.keeps (sound_begun keyed) fun _session sound move => sound.move move

end Latchkey.Lockout
