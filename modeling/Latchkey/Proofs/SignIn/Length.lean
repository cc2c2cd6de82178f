/-
The requests of a sign-in. Each step of the lockout writes at most three times and reads
at most as often, so that a sign-in asks no more than sixteen requests, whatever it is
told.
-/

import Latchkey.Proofs.Dialogue.Length
import Latchkey.Proofs.SignIn.Concurrent

namespace Latchkey

open Time (Instant)
open Procedure (within_ask within_bind within_ofExcept)

namespace Lockout

theorem within_apply (transition : Account → Except Failure (Option Account)) (now : Instant)
    (writes : Nat) (account : Account) :
    (apply transition now writes account).run.Within (2 * writes) := by
  induction writes generalizing account with
  | zero => trivial
  | succ writes ih =>
      unfold apply
      refine within_bind 0 (2 * writes + 2) (within_ofExcept (transition account)) ?_ (by omega)
      intro outcome
      cases outcome with
      | none => trivial
      | some changed =>
          refine within_bind 0 (2 * writes + 2) (within_ofExcept (changed.validate now)) ?_ (by omega)
          intro _checked
          refine within_bind 1 (2 * writes + 1) (within_ask _ _) ?_ (by omega)
          intro written
          split
          · trivial
          · split
            · trivial
            · refine within_bind 1 (2 * writes) (within_ask _ id) ?_ (by omega)
              intro found
              cases found with
              | none => trivial
              | some current => exact ih current
          · trivial

theorem within_gate (account : Account) (now : Instant) : (gate account now).run.Within 6 := by
  unfold gate
  cases account.lockState now with
  | unlocked => trivial
  | lockedUntil deadline => trivial
  | expired => exact within_apply _ now maxWrites account

theorem within_loadAttempts (email : Email) : (loadAttempts email).run.Within 1 :=
  within_bind 1 0 (within_ask _ id) (fun _found => trivial) (Nat.le_refl 1)

theorem within_countUnknown (policy : LockoutPolicy) (now : Instant) (writes : Nat)
    (attempt : AttemptRecord) :
    (countUnknown policy now writes attempt).run.Within (2 * writes) := by
  induction writes generalizing attempt with
  | zero => trivial
  | succ writes ih =>
      unfold countUnknown
      split
      · trivial
      · refine within_bind 1 (2 * writes + 1) (within_ask _ _) ?_ (by omega)
        intro written
        split
        · trivial
        · split
          · trivial
          · exact within_bind 1 (2 * writes) (within_loadAttempts attempt.email) ih (by omega)
        · trivial

theorem within_gateUnknown (email : Email) (now : Instant) :
    (gateUnknown email now).run.Within 1 := by
  refine within_bind 1 0 (within_loadAttempts email) ?_ (Nat.le_refl 1)
  intro attempt
  split <;> trivial

end Lockout

namespace SignIn

theorem within_issuePair (identity : Identity) : (Procedure.issuePair identity).run.Within 2 := by
  refine ⟨Nat.two_pos, ?_⟩
  intro access
  cases access with
  | error failure => trivial
  | ok access =>
      refine ⟨Nat.one_pos, ?_⟩
      intro refresh
      cases refresh <;> trivial

theorem within_withAccount (policy : LockoutPolicy) (account : Account) (password : Password)
    (now : Instant) : (withAccount policy account password now).run.Within 15 := by
  refine within_bind 6 9 (Lockout.within_gate account now) ?_ (Nat.le_refl 15)
  intro account
  refine within_bind 1 8 (within_ask _ id) ?_ (Nat.le_refl 9)
  intro right
  cases right with
  | true =>
      refine within_bind 6 2 (Lockout.within_apply _ now Lockout.maxWrites account) ?_ (Nat.le_refl 8)
      intro account
      exact within_issuePair account.identity
  | false =>
      exact within_bind 6 2 (Lockout.within_apply _ now Lockout.maxWrites account)
        (fun _account => trivial) (Nat.le_refl 8)

theorem within_refuseUnknown (policy : LockoutPolicy) (email : Email) (password : Password)
    (now : Instant) : (refuseUnknown policy email password now).run.Within 15 := by
  refine within_bind 1 14 (Lockout.within_gateUnknown email now) ?_ (Nat.le_refl 15)
  intro attempt
  refine within_bind 1 13 (within_ask _ id) ?_ (Nat.le_refl 14)
  intro _right
  exact within_bind 6 7 (Lockout.within_countUnknown policy now Lockout.maxWrites attempt)
    (fun _attempt => trivial) (Nat.le_refl 13)

/-- Whatever it is told, a sign-in comes to its end within sixteen requests. -/
theorem Login.within (policy : LockoutPolicy) (login : Login) :
    (login.dialogue policy).Within 16 := by
  unfold dialogue withPassword
  cases Email.parse login.email with
  | error problem => trivial
  | ok email =>
      refine within_bind 1 15 (within_ask _ id) ?_ (Nat.le_refl 16)
      intro found
      cases found with
      | none => exact within_refuseUnknown policy email (.typed login.password) login.now
      | some account => exact within_withAccount policy account (.typed login.password) login.now

theorem limited_of_run {Call : Type} [DecidableEq Call] {policy : LockoutPolicy}
    {store : Store.Memory} {logins : Call → Login} {session : SignIns Call}
    (run : Session.Run Store.Memory.Answers (begun policy store logins) session) :
    session.Limited 16 :=
  run.keeps (fun call => ⟨Nat.zero_le 16, (logins call).within policy⟩)
    fun _session limited move => move.limited limited

end SignIn

end Latchkey
