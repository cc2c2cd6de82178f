/-
Sign-ins one after another on an account as runs of the lockout machine. After any number
of them, right and wrong ones mixed and with clocks that may go backwards, the answers are
those of the machine and the row shows its state.
-/

import Mathlib.Data.List.Forall2
import Latchkey.Proofs.SignIn.Schedule
import Latchkey.Proofs.SignIn.Sequential

namespace Latchkey

open Lockout (Machine)
open Store (Memory)
open Time (Instant)

/-- Whether the lock fields of a row are just what a state of the machine says, of whose level
the row has 32 bits. -/
structure Account.Shows (machine : Machine) (row : Account) : Prop where
  failures : row.failures = machine.count
  lockedUntil : row.lockedUntil = machine.deadline
  lockLevel : row.lockLevel = .ofNat machine.level
  level : machine.level < UInt32.size → row.lockLevel.toNat = machine.level
  status : row.status = if machine.deadline = none then .active else .locked

theorem Account.Follows.shows {policy : LockoutPolicy} {machine : Machine} {row : Account}
    (follows : row.Follows policy machine) : row.Shows machine where
  failures := follows.failures
  lockedUntil := follows.lockedUntil
  lockLevel := follows.lockLevel
  level := by
    intro few
    rw [follows.lockLevel]
    exact UInt32.toNat_ofNat_of_lt' few
  status := follows.status

/-- Whether a sign-in came to an answer, with as many looks at the password as it takes. -/
def Lockout.Machine.Answer.Matches (answer : Machine.Answer)
    (result : Except Failure Token.Pair × Nat) : Prop :=
  answer.Tells result.1 ∧ result.2 = answer.verifications

namespace SignIn

def Login.input (hasher : Service.Hasher) (passwordHash : String) (login : Login) : Bool × Instant :=
  (hasher.verify passwordHash (.typed login.password), login.now)

theorem signIns_append (policy : LockoutPolicy) (earlier later : List Login)
    (service : Service.Local) :
    (signIns policy (earlier ++ later) service).2
      = (signIns policy later (signIns policy earlier service).2).2 := by
  induction earlier generalizing service with
  | nil => rfl
  | cons login earlier ih => exact ih _

variable {policy : LockoutPolicy} {machine : Machine}

theorem signIns_follow (lasting : 0 < policy.lockSpan.nanos) (logins : List Login)
    {service : Service.Local} {row : Account} (stands : row.Stands policy machine ⟨service, []⟩)
    (mine : ∀ login ∈ logins, login.Owns row.email)
    (before : ∀ login ∈ logins, login.now < .latest) :
    let told := Machine.run policy (logins.map (·.input service.hasher row.passwordHash)) machine
    List.Forall₂ Machine.Answer.Matches told.1 (signIns policy logins service).1 ∧
      ∃ row' : Account, row'.Stands policy told.2 ⟨(signIns policy logins service).2, []⟩ ∧
        row.SameUser row' := by
  induction logins generalizing machine service row with
  | nil => exact ⟨.nil, row, stands, rfl, rfl⟩
  | cons login logins ih =>
      obtain ⟨tells, sameHasher, looked, row', stands', sameUser⟩ :=
        Login.yields_known stands (mine login List.mem_cons_self) (before login List.mem_cons_self)
          lasting
      have mine' : ∀ login ∈ logins, login.Owns row'.email := by
        intro login member
        rw [sameUser.email]
        exact mine login (List.mem_cons_of_mem _ member)
      obtain ⟨matched, last, lastStands, sameLast⟩ := ih ⟨stands'.found, stands'.follows⟩ mine'
        fun login member => before login (List.mem_cons_of_mem _ member)
      change _ = service.hasher at sameHasher
      rw [sameHasher, sameUser.passwordHash] at matched lastStands
      refine ⟨.cons ⟨tells, ?_⟩ matched, last, lastStands, sameUser.trans sameLast⟩
      exact looked.trans (Nat.zero_add _)

theorem signIns_locked (lasting : 0 < policy.lockSpan.nanos) {service : Service.Local}
    {row : Account} {login : Login} {deadline : Instant}
    (stands : row.Stands policy machine ⟨service, []⟩) (mine : login.Owns row.email)
    (before : login.now < .latest) (held : machine.deadline = some deadline)
    (ahead : login.now < deadline) : (signIns policy [login] service).2 = service := by
  have attended := Login.yields_row stands.found mine before lasting
  apply attended.unchanged deadline
  rw [stands.follows.lockState]
  exact LockState.of_eq_lockedUntil.mpr ⟨held, ahead⟩

/-- Sign-ins on a new account, one after another, are a run of the lockout machine: their
answers are its answers, after each of them the row shows its state, and those that it
refuses for a lock change nothing. -/
theorem signIns_run_machine (positive : 1 ≤ policy.threshold) (lasting : 0 < policy.lockSpan.nanos)
    {store : Memory} {service : Service.Local} {account : NewAccount} {id : AccountId}
    {created : Account} {createdAt : Instant} (active : account.status = .active)
    (creation : store.createAccount account id createdAt = .ok (created, service.store))
    (logins : List Login) (mine : ∀ login ∈ logins, login.Owns account.email)
    (before : ∀ login ∈ logins, login.now < .latest) :
    let told (logins : List Login) :=
      Machine.run policy (logins.map (·.input service.hasher account.passwordHash)) {}
    List.Forall₂ Machine.Answer.Matches (told logins).1 (signIns policy logins service).1 ∧
      ∀ earlier later, logins = earlier ++ later →
        (∃ row, (signIns policy earlier service).2.store.findAccount account.email = some row ∧
          row.Shows (told earlier).2) ∧
        ∀ login rest deadline, later = login :: rest →
          (told earlier).2.deadline = some deadline → login.now < deadline →
          (signIns policy (earlier ++ [login]) service).2 = (signIns policy earlier service).2 := by
  obtain ⟨_free, rfl, after⟩ := Memory.createAccount_eq_ok.mp creation
  have stands : (Account.create account id createdAt).Stands policy {} ⟨service, []⟩ := by
    refine ⟨?_, Account.follows_create id positive active⟩
    change service.store.findAccount _ = _
    rw [after, Memory.findAccount_withAccount, if_pos rfl]
  refine ⟨(signIns_follow lasting logins stands mine before).1, ?_⟩
  rintro earlier later rfl
  obtain ⟨_matched, row, rowStands, sameUser⟩ := signIns_follow lasting earlier stands
    (fun login member => mine login (List.mem_append_left later member))
    fun login member => before login (List.mem_append_left later member)
  have sameEmail : row.email = account.email := sameUser.email
  constructor
  · exact ⟨row, sameEmail ▸ rowStands.found, rowStands.follows.shows⟩
  · rintro login rest deadline rfl held ahead
    have member : login ∈ earlier ++ login :: rest :=
      List.mem_append_right earlier List.mem_cons_self
    rw [signIns_append]
    exact signIns_locked lasting rowStands (sameEmail ▸ mine login member) (before login member)
      held ahead

def keeperAccount : NewAccount where
  name := ⟨"Ada"⟩
  email := ⟨"ada@b.org"⟩
  passwordHash := Service.Hasher.plain.hash (.typed "a") []

def keeper : Service.Local :=
  { serviceOn (Memory.empty.withAccount (.create keeperAccount ⟨0⟩ .epoch)) false with
    hasher := .plain }

/-- A success between failures, a lock that is met and one that has run out, and last a
clock that goes back. -/
def mixedInputs : List (Bool × Instant) :=
  [(false, .epoch), (true, .epoch), (false, .epoch), (false, .epoch),
    (true, .deadline .epoch (.ofSeconds 5)), (true, .deadline .epoch (.ofSeconds 10)),
    (false, .deadline .epoch (.ofSeconds 9))]

def mixedLogins : List Login :=
  mixedInputs.map fun input => ⟨"ada@b.org", if input.1 then "a" else "b", input.2⟩

theorem input_mixedLogins :
    mixedLogins.map (·.input keeper.hasher keeperAccount.passwordHash) = mixedInputs := by
  have right : keeper.hasher.verify keeperAccount.passwordHash (.typed "a") = true :=
    (Service.Hasher.verify_plain_iff _ _ []).mpr rfl
  have wrong : keeper.hasher.verify keeperAccount.passwordHash (.typed "b") = false := by
    rw [← Bool.not_eq_true]
    intro verified
    have same := congrArg Password.text ((Service.Hasher.verify_plain_iff _ _ []).mp verified)
    have a : Text.nfkc "a" = "a" := Text.nfkc_of_plain (by decide)
    have b : Text.nfkc "b" = "b" := Text.nfkc_of_plain (by decide)
    change Text.nfkc "a" = Text.nfkc "b" at same
    rw [a, b] at same
    revert same
    decide
  unfold mixedLogins
  rw [List.map_map]
  apply List.map_id'' 
  rintro ⟨verdict, now⟩
  cases verdict with
  | true => exact congrArg (·, now) right
  | false => exact congrArg (·, now) wrong

theorem signIns_run_machine_mixed :
    List.Forall₂ Machine.Answer.Matches
        [.refused, .admitted, .refused, .refused, .locked ⟨10, 0, by decide, by decide⟩, .admitted,
          .refused]
        (signIns ⟨2, .ofSeconds 10⟩ mixedLogins keeper).1 ∧
      ∃ row, (signIns ⟨2, .ofSeconds 10⟩ mixedLogins keeper).2.store.findAccount ⟨"ada@b.org"⟩
          = some row ∧
        row.Shows { count := 1, deadline := none, level := 1 } := by
  have creation : Memory.empty.createAccount keeperAccount ⟨0⟩ .epoch
      = .ok (.create keeperAccount ⟨0⟩ .epoch, keeper.store) := rfl
  have ada : Email.parse "ada@b.org" = .ok ⟨"ada@b.org"⟩ := rfl
  have mine : ∀ login ∈ mixedLogins, login.Owns keeperAccount.email := by
    intro login member
    obtain ⟨input, _tried, rfl⟩ := List.mem_map.mp member
    exact ada
  have before : ∀ login ∈ mixedLogins, login.now < .latest := by decide
  have positive : 1 ≤ (⟨2, .ofSeconds 10⟩ : LockoutPolicy).threshold := by decide
  have lasting : 0 < (⟨2, .ofSeconds 10⟩ : LockoutPolicy).lockSpan.nanos := by decide
  obtain ⟨matched, shown⟩ :=
    signIns_run_machine positive lasting rfl creation mixedLogins mine before
  have told : Machine.run ⟨2, .ofSeconds 10⟩
      (mixedLogins.map (·.input keeper.hasher keeperAccount.passwordHash)) {}
        = ([.refused, .admitted, .refused, .refused, .locked ⟨10, 0, by decide, by decide⟩,
            .admitted, .refused], { count := 1, deadline := none, level := 1 }) := by
    rw [input_mixedLogins]
    decide
  obtain ⟨row, found, shows⟩ := (shown mixedLogins [] (List.append_nil _).symm).1
  dsimp only at matched shows
  rw [told] at matched shows
  exact ⟨matched, row, found, shows⟩

end SignIn

end Latchkey
