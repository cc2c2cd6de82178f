/-
Sign-ins that run side by side on one store. With the store they exchange what any caller of
the lockout does, who goes by what it saw; besides they have passwords looked at and tokens
signed, which leaves the store as it is.
-/

import Latchkey.Proofs.Dialogue.Interleaving
import Latchkey.Proofs.SignIn.Conduct
import Latchkey.Proofs.Store.NewUsers

namespace Latchkey.SignIn

open Dialogue (Obeys)
open Lockout (Exchanged Informed Step)
open Session (Move Run)
open Store (Memory)
open Time (Instant)

abbrev SignIns (Call : Type) := Session Memory Call Service (Except Failure Token.Pair)

variable {Call : Type}

/-- Sign-ins on a store, before any of them has asked for anything. -/
def begun (policy : LockoutPolicy) (store : Memory) (logins : Call → Login) : SignIns Call where
  state := store
  calls := fun call => (logins call).dialogue policy

/-- What may happen between a sign-in and the store and those around it. -/
inductive Happens (policy : LockoutPolicy) (now : Instant) (own : Email → Prop) (store : Memory)
    (standing : Standing) : Exchange Service → Memory → Prop
  | stored {exchange : Exchange Service} {after : Memory} :
      Exchanged policy now store (leave own standing) exchange after →
      Happens policy now own store standing exchange after
  | verified (hash : String) (password : Password) (right : Bool) :
      Happens policy now own store standing
        ⟨.verify hash password, (.ok right : Except Failure Bool)⟩ store
  | unverified (hash : String) (password : Password) (detail : String) :
      Happens policy now own store standing
        ⟨.verify hash password, (.error (.internal detail) : Except Failure Bool)⟩ store
  | signed (request : Signing.Request) (token : String) :
      Happens policy now own store standing
        ⟨.sign request, (.ok token : Except Failure String)⟩ store
  | unsigned (request : Signing.Request) (detail : String) :
      Happens policy now own store standing
        ⟨.sign request, (.error (.signingFailed detail) : Except Failure String)⟩ store

/-- What a sign-in goes by fits together, and is what its email has. -/
structure Known (policy : LockoutPolicy) (own : Email → Prop) (standing : Standing) : Prop where
  row : ∀ row, standing.row = some row → row.LockConsistent policy ∧ own row.email
  reread : ∀ row, standing.reread = some row → row.LockConsistent policy
  record : ∀ record, standing.record = some record →
    record.LockConsistent policy ∧ own record.email

theorem known_nothing (policy : LockoutPolicy) (own : Email → Prop) : Known policy own {} where
  row := fun _row held => nomatch held
  reread := fun _row held => nomatch held
  record := fun _record held => nomatch held

/-- What is stored stands under its email and fits together. -/
structure Tidy (policy : LockoutPolicy) (store : Memory) : Prop where
  keyed : store.Keyed
  rows : ∀ email row, store.findAccount email = some row → row.LockConsistent policy
  records : ∀ email, (store.attemptsOf email).LockConsistent policy

section Exchanges

variable {policy : LockoutPolicy} {now : Instant} {own : Email → Prop} {store after : Memory}
  {standing : Standing} {past others : List (Exchange Service)}

theorem leave_goesBy (own : Email → Prop) (past : List (Exchange Service)) :
    (leave own (SignIn.standing past)).GoesBy past where
  row := by
    rintro step row ⟨_uncounted, held, _same⟩
    exact (standing_held past).1.symm.trans held
  record := by
    rintro record ⟨_uncounted, held⟩
    exact (standing_held past).2.symm.trans held

theorem happens_of_answers {request : Service.Request} {reply : Service.Reply request}
    (informed : Informed store past) (asked : Asks policy now own (SignIn.standing past) request)
    (answered : store.Answers request reply after) :
    Happens policy now own store (SignIn.standing past) ⟨request, reply⟩ after := by
  cases request with
  | verify hash password =>
      obtain ⟨⟨right, rfl⟩ | ⟨detail, rfl⟩, rfl⟩ := answered
      · exact .verified hash password right
      · exact .unverified hash password detail
  | sign request =>
      obtain ⟨⟨token, rfl⟩ | ⟨detail, rfl⟩, rfl⟩ := answered
      · exact .signed request token
      · exact .unsigned request detail
  | findAccount | createAccount | createAccountWith | writeLock | findAttempts | writeAttempts
    | hash | readToken | exchange | random | clock =>
      exact .stored (Lockout.exchanged_of_answers informed (leave_goesBy own past) asked answered)

theorem Happens.hears {request : Service.Request} {reply : Service.Reply request}
    (informed : Informed store past)
    (happens : Happens policy now own store (SignIn.standing past) ⟨request, reply⟩ after) :
    Hears (SignIn.standing past) request reply := by
  cases happens with
  | stored exchanged =>
      cases exchanged with
      | found _asked =>
          refine ⟨_, rfl, ?_⟩
          intro row held same missing
          rw [(standing_held past).1] at held
          obtain ⟨stored, found, _rest⟩ := informed.row row held
          rw [same, missing] at found
          cases found
      | wrote _given _current _applies _valid => exact Or.inl rfl
      | late changed => exact Or.inr rfl
      | foundAttempts _asked => exact ⟨_, rfl⟩
      | wroteAttempts _given _current _notLocked => exact Or.inl rfl
      | lateAttempts changed => exact Or.inr rfl
  | verified hash password right => exact Or.inl ⟨right, rfl⟩
  | unverified hash password detail => exact Or.inr ⟨detail, rfl⟩
  | signed request token => exact Or.inl ⟨token, rfl⟩
  | unsigned request detail => exact Or.inr ⟨detail, rfl⟩

theorem Happens.informed_other {exchange : Exchange Service}
    (happens : Happens policy now own store standing exchange after)
    (informed : Informed store others) : Informed after others := by
  cases happens with
  | stored exchanged => exact exchanged.informed_other informed
  | verified | unverified | signed | unsigned => exact informed

theorem Happens.informed_own {exchange : Exchange Service}
    (happens : Happens policy now own store standing exchange after)
    (informed : Informed store past) (keyed : store.Keyed) : Informed after (exchange :: past) := by
  cases happens with
  | stored exchanged => exact exchanged.informed_own informed keyed
  | verified | unverified | signed | unsigned => exact ⟨informed.row, informed.record⟩

theorem Tidy.withAccount {row : Account} (tidy : Tidy policy store)
    (consistent : row.LockConsistent policy) : Tidy policy (store.withAccount row) where
  keyed := tidy.keyed.withAccount row
  rows := by
    intro email found present
    rw [Memory.findAccount_withAccount] at present
    split at present
    · cases present
      exact consistent
    · exact tidy.rows email found present
  records := tidy.records

theorem Tidy.withAttempts {record : AttemptRecord} (tidy : Tidy policy store)
    (consistent : record.LockConsistent policy) : Tidy policy (store.withAttempts record) where
  keyed := tidy.keyed.withAttempts record
  rows := tidy.rows
  records := by
    intro email
    rw [Memory.attemptsOf_withAttempts]
    split
    · exact consistent
    · exact tidy.records email

theorem Happens.tidy {exchange : Exchange Service}
    (happens : Happens policy now own store standing exchange after)
    (known : Known policy own standing) (tidy : Tidy policy store) : Tidy policy after := by
  cases happens with
  | stored exchanged =>
      cases exchanged with
      | wrote given _current applies valid =>
          have consistent := (known.row _ given.2.1).1
          exact tidy.withAccount ((Step.consistent_change consistent applies valid).version _)
      | wroteAttempts given _current notLocked =>
          have counted := (known.record _ given.2).1.registerFailure notLocked
          exact tidy.withAttempts (counted.version _)
      | found | late | foundAttempts | lateAttempts => exact tidy
  | verified | unverified | signed | unsigned => exact tidy

theorem Happens.known {exchange : Exchange Service}
    (happens : Happens policy now own store standing exchange after)
    (known : Known policy own standing) (tidy : Tidy policy store) :
    Known policy own (standing.hear exchange) := by
  cases happens with
  | stored exchanged =>
      cases exchanged with
      | @found email asked =>
          refine ⟨?_, fun row found => tidy.rows email row found, known.record⟩
          intro row found
          refine ⟨tidy.rows email row found, ?_⟩
          rw [tidy.keyed.account email row found]
          rcases asked with mine | ⟨held, given, rfl⟩
          · exact mine
          · exact (known.row held given).2
      | @wrote step row given _current applies valid =>
          refine ⟨?_, known.reread, known.record⟩
          rintro written ⟨⟩
          obtain ⟨consistent, mine⟩ := known.row row given.2.1
          refine ⟨(Step.consistent_change consistent applies valid).version _, ?_⟩
          rw [step.next_change_email]
          exact mine
      | @foundAttempts email asked =>
          refine ⟨known.row, known.reread, ?_⟩
          rintro record ⟨⟩
          refine ⟨tidy.records email, ?_⟩
          change own (store.attemptsOf email).email
          rw [tidy.keyed.attemptsOf_email]
          rcases asked with mine | ⟨held, given, rfl⟩
          · exact mine
          · exact (known.record held given).2
      | @wroteAttempts record given _current notLocked =>
          refine ⟨known.row, known.reread, ?_⟩
          rintro written ⟨⟩
          obtain ⟨consistent, mine⟩ := known.record record given.2
          refine ⟨(consistent.registerFailure notLocked).version _, ?_⟩
          change own (record.registerFailure policy now).email
          rw [AttemptRecord.registerFailure_email]
          exact mine
      | late | lateAttempts => exact ⟨known.row, known.reread, known.record⟩
  | verified hash password right =>
      exact ⟨known.row, (fun _row reread => nomatch reread), known.record⟩
  | unverified | signed | unsigned => exact ⟨known.row, known.reread, known.record⟩

end Exchanges

variable [DecidableEq Call] {policy : LockoutPolicy} {store : Memory} {logins : Call → Login}
  {session : SignIns Call}

structure Sound (policy : LockoutPolicy) (logins : Call → Login) (session : SignIns Call) :
    Prop where
  tidy : Tidy policy session.state
  informed : ∀ call, Informed session.state (session.heard call)
  known : ∀ call, Known policy (logins call).Owns (standing (session.heard call))
  obedient : session.Obedient (fun call => (logins call).contract policy)
    (fun call => Ends policy (logins call).now)

theorem tidy_of_newUsers (users : store.OfNewUsers) (positive : 1 ≤ policy.threshold) :
    Tidy policy store where
  keyed := users.keyed
  rows := fun _email _row found => users.lockConsistent positive found
  records := by
    intro email
    rw [users.attemptsOf]
    exact AttemptRecord.lockConsistent_fresh email positive

theorem sound_begun (users : store.OfNewUsers) (positive : 1 ≤ policy.threshold) :
    Sound policy logins (begun policy store logins) where
  tidy := tidy_of_newUsers users positive
  informed := fun _call => Lockout.informed_nothing store
  known := fun call => known_nothing policy (logins call).Owns
  obedient := by
    intro call
    exact (logins call).obeys policy

theorem Sound.happens (sound : Sound policy logins session) (move : Move Memory.Answers session) :
    Happens policy (logins move.call).now (logins move.call).Owns session.state
      (standing (session.heard move.call)) ⟨move.request, move.reply⟩ move.after :=
  happens_of_answers (sound.informed move.call) (move.asks sound.obedient) move.answered

theorem Sound.move (sound : Sound policy logins session) (move : Move Memory.Answers session) :
    Sound policy logins move.apply where
  tidy := (sound.happens move).tidy (sound.known move.call) sound.tidy
  informed := by
    intro call
    by_cases same : call = move.call
    · subst same
      rw [move.heard_same]
      exact (sound.happens move).informed_own (sound.informed move.call) sound.tidy.keyed
    · rw [move.heard_other same]
      exact (sound.happens move).informed_other (sound.informed call)
  known := by
    intro call
    by_cases same : call = move.call
    · subst same
      rw [move.heard_same]
      exact (sound.happens move).known (sound.known move.call) sound.tidy
    · rw [move.heard_other same]
      exact sound.known call
  obedient := move.obedient sound.obedient ((sound.happens move).hears (sound.informed move.call))

theorem sound_of_run (users : store.OfNewUsers) (positive : 1 ≤ policy.threshold)
    (run : Run Memory.Answers (begun policy store logins) session) : Sound policy logins session :=
  run.keeps (sound_begun users positive) fun _session sound move => sound.move move

end Latchkey.SignIn
