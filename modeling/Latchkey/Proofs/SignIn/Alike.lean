/-
Wrong passwords tell nothing about who has an account. Tried at the same instants, in
whichever order these lie, an email with an account and one without get the same answers
and cost the hasher the same work, since both are in step with one lockout machine.
-/

import Latchkey.Proofs.SignIn.Schedule
import Latchkey.Proofs.SignIn.Sequential

namespace Latchkey.SignIn

open Lockout (Machine)
open Store (Memory)
open Time (Instant)

/-- Whether two sign-ins are tried at one instant: one with an account and a password that
its hash does not match, the other with an email, and any password. -/
structure Matched (hasher : Service.Hasher) (email : Email) (passwordHash : String) (ghost : Email)
    (guesses : Login × Login) : Prop where
  own : guesses.1.Owns email
  other : guesses.2.Owns ghost
  wrong : hasher.verify passwordHash (.typed guesses.1.password) = false
  sameInstant : guesses.2.now = guesses.1.now
  before : guesses.1.now < .latest

inductive Attempt : Except Failure Token.Pair × Nat → Prop
  | locked (deadline : Instant) : Attempt (.error (.locked deadline), 0)
  | refused : Attempt (.error .wrongCredentials, 1)

variable {policy : LockoutPolicy} {machine : Machine}

theorem attempt_of_tells {now : Instant} {outcome : Except Failure Token.Pair}
    (tells : (machine.step policy false now).1.Tells outcome) :
    Attempt (outcome, (machine.step policy false now).1.verifications) := by
  rcases machine.step_wrong policy now with ⟨deadline, locked⟩ | refused
  · rw [locked] at tells ⊢
    cases tells
    exact .locked deadline
  · rw [refused] at tells ⊢
    cases tells
    exact .refused

theorem tells_unique {now : Instant} {outcome other : Except Failure Token.Pair}
    (tells : (machine.step policy false now).1.Tells outcome)
    (others : (machine.step policy false now).1.Tells other) : outcome = other := by
  rcases machine.step_wrong policy now with ⟨deadline, locked⟩ | refused
  · rw [locked] at tells others
    exact Eq.trans tells (Eq.symm others)
  · rw [refused] at tells others
    exact Eq.trans tells (Eq.symm others)

theorem alike_of_stands (lasting : 0 < policy.lockSpan.nanos) (guesses : List (Login × Login))
    {known unknown : Service.Local} {row : Account} {attempt : AttemptRecord}
    (stands : row.Stands policy machine ⟨known, []⟩)
    (recorded : attempt.Stands policy machine ⟨unknown, []⟩)
    (matched : ∀ pair ∈ guesses, Matched known.hasher row.email row.passwordHash attempt.email pair) :
    (signIns policy (guesses.map (·.1)) known).1 = (signIns policy (guesses.map (·.2)) unknown).1 ∧
      (∀ result ∈ (signIns policy (guesses.map (·.1)) known).1, Attempt result) ∧
      (signIns policy (guesses.map (·.2)) unknown).2.store.accounts = unknown.store.accounts := by
  -- One machine stands for the row and for the record; a wrong password moves both with it.
  induction guesses generalizing machine known unknown row attempt with
  | nil =>
      refine ⟨rfl, ?_, rfl⟩
      intro result tried
      cases tried
  | cons pair guesses ih =>
      have first := matched pair List.mem_cons_self
      obtain ⟨tells, sameHasher, looked, row', stands', sameUser⟩ :=
        Login.yields_known stands first.own first.before lasting
      obtain ⟨tells', looked', sameAccounts, attempt', recorded', sameEmail⟩ :=
        Login.yields_unknown recorded first.other
      dsimp only at tells looked stands' tells' looked' recorded'
      rw [first.wrong] at tells looked stands'
      rw [first.sameInstant] at tells' looked' recorded'
      change _ = known.hasher at sameHasher
      have later : ∀ pair ∈ guesses,
          Matched known.hasher row'.email row'.passwordHash attempt'.email pair := by
        intro pair member
        rw [sameUser.email, sameUser.passwordHash, sameEmail]
        exact matched pair (List.mem_cons_of_mem _ member)
      rw [← sameHasher] at later
      obtain ⟨same, attempts, accounts⟩ := ih ⟨stands'.found, stands'.follows⟩
        ⟨recorded'.unfound, recorded'.current, recorded'.follows⟩ later
      have work : Scene.verifications ⟨known, []⟩ = Scene.verifications ⟨unknown, []⟩ := rfl
      rw [List.map_cons, List.map_cons, signIns, signIns]
      refine ⟨?_, ?_, accounts.trans sameAccounts⟩
      · rw [tells_unique tells tells', looked, looked', work, same]
      · intro result tried
        rcases List.mem_cons.mp tried with rfl | member
        · rw [looked]
          have seen := attempt_of_tells tells
          rw [← Nat.zero_add (machine.step policy false pair.1.now).1.verifications] at seen
          exact seen
        · exact attempts result member

/-- Wrong passwords get the same answers, after the same work, whether or not the email has
an account; and nobody who has none comes to have one. -/
theorem alike_of_wrong (positive : 1 ≤ policy.threshold) (lasting : 0 < policy.lockSpan.nanos)
    {store : Memory} {known unknown : Service.Local} {account : NewAccount} {id : AccountId}
    {created : Account} {createdAt : Instant} {ghost : Email}
    (active : account.status = .active)
    (creation : store.createAccount account id createdAt = .ok (created, known.store))
    (unfound : unknown.store.findAccount ghost = none)
    (untried : unknown.store.findAttempts ghost = none) (guesses : List (Login × Login))
    (matched : ∀ pair ∈ guesses,
      Matched known.hasher account.email account.passwordHash ghost pair) :
    (signIns policy (guesses.map (·.1)) known).1 = (signIns policy (guesses.map (·.2)) unknown).1 ∧
      (∀ result ∈ (signIns policy (guesses.map (·.1)) known).1, Attempt result) ∧
      (signIns policy (guesses.map (·.2)) unknown).2.store.accounts = unknown.store.accounts := by
  obtain ⟨_free, rfl, after⟩ := Memory.createAccount_eq_ok.mp creation
  have stands : (Account.create account id createdAt).Stands policy {} ⟨known, []⟩ := by
    refine ⟨?_, Account.follows_create id positive active⟩
    change known.store.findAccount _ = _
    rw [after, Memory.findAccount_withAccount, if_pos rfl]
  have recorded : (AttemptRecord.fresh ghost).Stands policy {} ⟨unknown, []⟩ := by
    refine ⟨unfound, ?_, AttemptRecord.follows_fresh ghost positive⟩
    change (unknown.store.findAttempts ghost).getD _ = _
    rw [untried]
    rfl
  exact alike_of_stands lasting guesses stands recorded matched

def guessed : List (Login × Login) :=
  [Instant.epoch, .epoch, .epoch, .deadline .epoch (.ofSeconds 10),
    .deadline .epoch (.ofSeconds 9)].map
    fun now => (⟨"ada@b.org", "wrong", now⟩, ⟨"eve@b.org", "guess", now⟩)

theorem alike_of_wrong_guessed :
    (signIns ⟨2, .ofSeconds 10⟩ (guessed.map (·.1)) (serviceOn oneAccount false)).1
      = (signIns ⟨2, .ofSeconds 10⟩ (guessed.map (·.2)) (serviceOn .empty false)).1 := by
  have ada : Email.parse "ada@b.org" = .ok ⟨"ada@b.org"⟩ := rfl
  have eve : Email.parse "eve@b.org" = .ok ⟨"eve@b.org"⟩ := rfl
  have wrong (hash : String) (password : Password) :
      (serviceOn oneAccount false).hasher.verify hash password = false := rfl
  have matched : ∀ pair ∈ guessed,
      Matched (serviceOn oneAccount false).hasher ⟨"ada@b.org"⟩ "" ⟨"eve@b.org"⟩ pair := by
    intro pair member
    obtain ⟨now, tried, rfl⟩ := List.mem_map.mp member
    have before : ∀ now ∈ [Instant.epoch, .epoch, .epoch, .deadline .epoch (.ofSeconds 10),
        .deadline .epoch (.ofSeconds 9)], now < Instant.latest := by decide
    exact ⟨ada, eve, wrong _ _, rfl, before now tried⟩
  have creation : Memory.empty.createAccount
      { name := ⟨"Ada"⟩, email := ⟨"ada@b.org"⟩, passwordHash := "" } ⟨0⟩ .epoch
        = .ok (.create { name := ⟨"Ada"⟩, email := ⟨"ada@b.org"⟩, passwordHash := "" } ⟨0⟩ .epoch,
          (serviceOn oneAccount false).store) := rfl
  have positive : 1 ≤ (⟨2, .ofSeconds 10⟩ : LockoutPolicy).threshold := by decide
  have lasting : 0 < (⟨2, .ofSeconds 10⟩ : LockoutPolicy).lockSpan.nanos := by decide
  have unfound : (serviceOn .empty false).store.findAccount ⟨"eve@b.org"⟩ = none := rfl
  have untried : (serviceOn .empty false).store.findAttempts ⟨"eve@b.org"⟩ = none := rfl
  obtain ⟨same, _attempts, _accounts⟩ :=
    alike_of_wrong positive lasting rfl creation unfound untried guessed matched
  exact same

end Latchkey.SignIn
