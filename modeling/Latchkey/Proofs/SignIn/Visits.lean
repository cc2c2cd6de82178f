/-
Sign-ins through a provider, registrations and sign-ins with a password that run side by
side on one store. The store loses no account, so that who is told that an email is taken
finds the account that took it, and a pair that was issued for an account is for the one
that is there.
-/

import Latchkey.Proofs.Service.Company
import Latchkey.Proofs.SignIn.WithCode
import Latchkey.SignIn.Password
import Latchkey.SignIn.Registration

namespace Latchkey

open Dialogue (Obeys)
open Session (Answering Move Run)
open Store (Memory)
open Time (Instant)

inductive Visit where
  | withCode (page : SignIn.ConsentPage) (code : String)
  | register (name email password : String)
  | withPassword (policy : LockoutPolicy) (email password : String) (now : Instant)

namespace Visit

inductive Outcome where
  | admitted (pair : Token.Pair)
  | registered (account : Account)

/-- The visit itself. Nothing should look into it by computing: names and emails only unfold
where they are known. -/
@[irreducible] def dialogue : Visit → Dialogue Service (Except Failure Outcome)
  | withCode page code =>
      (do return .admitted (← SignIn.withCode page code) : Procedure Outcome).run
  | register name email password =>
      (do return .registered (← SignIn.register name email password) : Procedure Outcome).run
  | withPassword policy email password now =>
      (do return .admitted (← SignIn.withPassword policy email password now) :
        Procedure Outcome).run

def Ends (manner : Manner) : Visit → List (Exchange Service) → Except Failure Outcome → Prop
  | withCode _ code, past, .ok (.admitted pair) => SignIn.EndsWithCode manner code past (.ok pair)
  | withCode _ code, past, .error failure => SignIn.EndsWithCode manner code past (.error failure)
  | _, _, _ => True

variable {manner : Manner}

private theorem obeys_anything {α : Type} {ends : List (Exchange Service) → α → Prop}
    (anyhow : ∀ past value, ends past value) (past : List (Exchange Service))
    (dialogue : Dialogue Service α) : Obeys (SignIn.telling manner) ends past dialogue := by
  induction dialogue generalizing past with
  | done value => exact anyhow past value
  | ask request next ih => exact ⟨trivial, fun reply _told => ih reply _⟩

theorem obeys (visit : Visit) :
    Obeys (SignIn.telling manner) (visit.Ends manner) [] visit.dialogue := by
  cases visit with
  | withCode page code =>
      unfold dialogue
      rw [Procedure.obeys_bind]
      apply (SignIn.withCode_obeys page code).mono
      intro past outcome ended
      cases outcome <;> exact ended
  | register name email password =>
      exact obeys_anything (fun _past _outcome => trivial) [] _
  | withPassword policy email password now =>
      exact obeys_anything (fun _past _outcome => trivial) [] _

end Visit

variable {Call : Type}

abbrev Visits (Call : Type) := Session Memory Call Service (Except Failure Visit.Outcome)

namespace Visits

def begun (store : Memory) (visits : Call → Visit) : Visits Call where
  state := store
  calls := fun call => (visits call).dialogue

variable [DecidableEq Call] {manner : Manner} {store after : Memory} {visits : Call → Visit}
  {session : Visits Call}

structure Kept (manner : Manner) (visits : Call → Visit) (session : Visits Call) : Prop where
  places : session.state.OnePlaceEach
  served : ∀ turn ∈ session.history,
    turn.before.Serves manner turn.exchange.request turn.exchange.reply turn.after
  keeps : ∀ turn ∈ session.history, turn.after.Keeps session.state
  obedient : session.Obedient (fun _call => SignIn.telling manner)
    (fun call => (visits call).Ends manner)

theorem kept_begun (places : store.OnePlaceEach) : Kept manner visits (begun store visits) where
  places := places
  served := by
    intro turn present
    cases present
  keeps := by
    intro turn present
    cases present
  obedient := fun call => (visits call).obeys

/-- What a call was told comes from a store whose accounts are all still there. -/
theorem Kept.exists_serves (kept : Kept manner visits session) {call : Call}
    {exchange : Exchange Service} (told : exchange ∈ session.heard call) :
    ∃ before after : Memory, before.Serves manner exchange.request exchange.reply after ∧
      after.Keeps session.state := by
  obtain ⟨turn, present, rfl⟩ := exists_turn_of_mem told
  exact ⟨turn.before, turn.after, kept.served turn present, kept.keeps turn present⟩

private theorem Kept.present (kept : Kept manner visits session) (leaves : manner.LeavesToStore)
    {call : Call} {email : Email} (taken : SignIn.FoundTaken email (session.heard call)) :
    session.state.findAccount email ≠ none := by
  obtain ⟨account, rfl, told⟩ := taken
  obtain ⟨before, after, served, keeps⟩ := kept.exists_serves told
  cases served.createdWith with
  | taken there =>
      obtain ⟨current, found, _remains⟩ := keeps _ _ there
      intro missing
      rw [missing] at found
      cases found
  | undone ended =>
      obtain ⟨kind, signed⟩ := Manner.exists_sign_of_endsBy_pair ended
      cases leaves.sign _ _ signed

theorem Kept.told (kept : Kept manner visits session)
    (move : Move (Memory.Serves manner) session) :
    SignIn.Told manner (session.heard move.call) move.request move.reply := by
  obtain ⟨call, request, next, asked, reply, after, served⟩ := move
  cases request with
  | findAccount email =>
      obtain ⟨rfl, _unchanged⟩ := served
      exact ⟨_, rfl, fun leaves taken => kept.present leaves taken⟩
  | createAccountWith account issue =>
      intro failure failed
      change reply = _ at failed
      subst failed
      cases served.createdWith with
      | taken _there => exact Or.inl rfl
      | undone ended => exact Or.inr ⟨_, ended⟩
  | hash password => exact served.1
  | sign request => exact served.1
  | exchange code => exact served.1
  | createAccount _ | writeLock _ | findAttempts _ | writeAttempts _ | verify _ _ | readToken _ _
  | random _ | clock => trivial

theorem Kept.move (kept : Kept manner visits session)
    (move : Move (Memory.Serves manner) session) : Kept manner visits move.apply where
  places := (Memory.Serves.changes move.answered).onePlaceEach kept.places
  served := by
    intro turn present
    rcases List.mem_cons.mp present with rfl | earlier
    · exact move.answered
    · exact kept.served turn earlier
  keeps := by
    intro turn present
    rcases List.mem_cons.mp present with rfl | earlier
    · exact Memory.Keeps.refl _
    · exact (kept.keeps turn earlier).trans (Memory.Serves.changes move.answered).keeps
  obedient := move.obedient kept.obedient (kept.told move)

theorem kept_of_run (places : store.OnePlaceEach)
    (run : Run (Memory.Serves manner) (begun store visits) session) : Kept manner visits session :=
  run.keeps (kept_begun places) fun _session kept move => kept.move move

theorem Kept.remains (kept : Kept manner visits session) {call : Call} {email : Email}
    {account : Account}
    (told : (⟨.findAccount email, (.ok (some account) : Except Failure (Option Account))⟩ :
      Exchange Service) ∈ session.heard call) :
    ∃ current, session.state.findAccount email = some current ∧ account.Remains current := by
  obtain ⟨before, after, ⟨found, rfl⟩, keeps⟩ := kept.exists_serves told
  exact keeps email account (Except.ok.inj found).symm

theorem Kept.issued (kept : Kept manner visits session) {call : Call} {email : Email}
    {pair : Token.Pair} (admitted : SignIn.Admitted manner email (session.heard call) pair) :
    ∃ account, session.state.findAccount email = some account ∧
      manner.Issues account.identity pair := by
  cases admitted with
  | found told issues =>
      obtain ⟨current, there, remains⟩ := kept.remains told
      exact ⟨current, there, remains.identity.symm ▸ issues⟩
  | @created account created own told =>
      obtain ⟨before, after, served, keeps⟩ := kept.exists_serves told
      cases served.createdWith with
      | kept _absent issued =>
          subst own
          obtain ⟨current, there, remains⟩ := keeps account.email _
            ((Memory.findAccount_withAccount _ _ _).trans (if_pos rfl))
          have issues := Manner.endsBy_pair_ok.mp issued
          exact ⟨current, there, remains.identity.symm ▸ issues⟩

/-- However the visits run, there is one account for each email, and it stays. A sign-in
through a provider that ends with a pair is for that one; and it never ends with an email
that is taken or an account that is missing, unless somebody beside the store said so. -/
theorem one_account_each (places : store.OnePlaceEach)
    (run : Run (Memory.Serves manner) (begun store visits) session) :
    (∀ email, session.state.accountsWith email = (session.state.findAccount email).toList) ∧
      (∀ call email account,
        (⟨.findAccount email, (.ok (some account) : Except Failure (Option Account))⟩ :
          Exchange Service) ∈ session.heard call →
        ∃ current, session.state.findAccount email = some current ∧ account.Remains current) ∧
      (∀ call page code pair, visits call = .withCode page code →
        session.calls call = .done (.ok (.admitted pair)) →
        ∃ user email account,
          (⟨.exchange code, (.ok user : Except Failure ProviderUser)⟩ : Exchange Service)
              ∈ session.heard call ∧
            SignIn.verifiedEmail user = .ok email ∧
            session.state.accountsWith email = [account] ∧
            manner.Issues account.identity pair) ∧
      (manner.LeavesToStore → ∀ call page code failure, visits call = .withCode page code →
        session.calls call = .done (.error failure) →
        failure ≠ .emailTaken ∧ failure ≠ .accountMissing) := by
  have kept := kept_of_run places run
  refine ⟨kept.places.accountsWith_eq, fun call email account told => kept.remains told, ?_, ?_⟩
  · intro call page code pair visit ended
    have promised := Session.Obedient.ended kept.obedient ended
    rw [visit] at promised
    obtain ⟨user, email, exchanged, verified, admitted⟩ := promised
    obtain ⟨account, there, issues⟩ := kept.issued admitted
    refine ⟨user, email, account, exchanged, verified, ?_, issues⟩
    rw [kept.places.accountsWith_eq, there]
    rfl
  · intro leaves call page code failure visit ended
    have promised := Session.Obedient.ended kept.obedient ended
    rw [visit] at promised
    have ofOthers : failure.isOfStore = false := promised leaves
    constructor
    · rintro rfl
      cases ofOthers
    · rintro rfl
      cases ofOthers

inductive Racer where
  | early
  | late
  | member
  deriving DecidableEq

def racers : Racer → Visit
  | .early => .withCode (some id) "first"
  | .late => .withCode (some id) "second"
  | .member => .withPassword .standard "ada@b.org" "guessed" .epoch

/-- Both sign-ins look for the account before either creates it. -/
def race : Visits Racer :=
  Session.follow Company.vouching.responder (begun .empty racers)
    [.early, .early, .late, .late, .early, .early, .early, .early, .member, .late, .late, .late,
      .late, .member, .late, .member, .late, .member, .late]

def pairOf (session : Visits Call) (call : Call) : Option Token.Pair :=
  match session.calls call with
  | .done (.ok (.admitted pair)) => some pair
  | _ => none

omit [DecidableEq Call] in
theorem calls_of_pairOf {call : Call} {pair : Token.Pair} (ended : session.pairOf call = some pair) :
    session.calls call = .done (.ok (.admitted pair)) := by
  unfold pairOf at ended
  split at ended
  · cases ended
    assumption
  · cases ended

/-- The sign-in that lost the race has its pair for the account of the other. -/
theorem one_account_each_race :
    ∃ user email account, SignIn.verifiedEmail user = .ok email ∧
      race.state.accountsWith email = [account] ∧
      Company.vouching.manner.Issues account.identity ⟨"access for ada@b.org", "refresh for ada@b.org"⟩ := by
  have late : race.pairOf .late = some ⟨"access for ada@b.org", "refresh for ada@b.org"⟩ := by
    decide +kernel
  obtain ⟨_single, _stay, admitted, _leftToStore⟩ :=
    one_account_each Memory.onePlaceEach_empty
      ((Run.start : Run _ (begun .empty racers) _).follow Company.vouching.responder _)
  obtain ⟨user, email, account, _exchanged, verified, single, issues⟩ :=
    admitted .late (some id) "second" _ rfl (calls_of_pairOf late)
  exact ⟨user, email, account, verified, single, issues⟩

end Visits

end Latchkey
