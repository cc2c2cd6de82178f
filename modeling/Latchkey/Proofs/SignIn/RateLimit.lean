/-
Guessing takes time. Wrong passwords with one email, tried one after another while time
does not go back, keep the pace of the lockout machine, whether or not the email has an
account. So the number of those that are looked at is bounded by the time that went by. A
leap second counts in it where one of them falls into it, and does not where none does.
-/

import Latchkey.Proofs.Lockout.Pace
import Latchkey.Proofs.SignIn.Schedule
import Latchkey.Proofs.SignIn.Sequential

namespace Latchkey.SignIn

open Lockout (Machine)
open Store (Memory)
open Time (Instant)

/-- How many of the sign-ins looked at a password. -/
def looks (results : List (Except Failure Token.Pair × Nat)) : Nat :=
  results.countP fun result => 0 < result.2

theorem looks_cons {result : Except Failure Token.Pair × Nat}
    {results : List (Except Failure Token.Pair × Nat)} (once : result.2 ≤ 1) :
    looks (result :: results) = result.2 + looks results := by
  unfold looks
  rw [List.countP_cons, Nat.add_comm]
  congr 1
  by_cases looked : 0 < result.2
  · rw [if_pos (decide_eq_true looked)]
    omega
  · rw [if_neg (by simpa using looked)]
    omega

/-- Whether no failures count against an email: on its account, or on its record where it
has no account. -/
structure Uncounted (store : Memory) (email : Email) : Prop where
  account : ∀ row, store.findAccount email = some row →
    row.email = email ∧ row.failures = 0 ∧ row.lockedUntil = none
  record : store.findAccount email = none →
    (store.attemptsOf email).email = email ∧ (store.attemptsOf email).failures = 0 ∧
      (store.attemptsOf email).lockedUntil = none

structure Wrong (service : Service.Local) (email : Email) (login : Login) : Prop where
  own : login.Owns email
  wrong : ∀ row, service.store.findAccount email = some row →
    service.hasher.verify row.passwordHash (.typed login.password) = false

/-- Whether the account of an email, or its record where it has none, goes by the machine. -/
inductive Kept (policy : LockoutPolicy) (machine : Machine) (email : Email)
    (service : Service.Local) : Prop
  | account {row : Account} : service.store.findAccount email = some row → row.email = email →
      row.Counts machine → Kept policy machine email service
  | record {attempt : AttemptRecord} : attempt.Stands policy machine ⟨service, []⟩ →
      attempt.email = email → Kept policy machine email service

variable {policy : LockoutPolicy} {machine : Machine} {email : Email} {service : Service.Local}

theorem Uncounted.kept (uncounted : Uncounted service.store email)
    (positive : 1 ≤ policy.threshold) : Kept policy {} email service := by
  cases found : service.store.findAccount email with
  | some row =>
      obtain ⟨own, none, unlocked⟩ := uncounted.account row found
      exact .account found own ⟨none, unlocked, fun _locked _missing => none⟩
  | none =>
      obtain ⟨own, none, unlocked⟩ := uncounted.record found
      have bounded : (service.store.attemptsOf email).failures < policy.threshold := by omega
      refine .record ⟨?_, ?_, ⟨fun _locked => none, bounded⟩, none, unlocked⟩ own
      · rw [own]
        exact found
      · rw [own]

theorem Kept.step (kept : Kept policy machine email service) {login : Login}
    (wrong : Wrong service email login) (before : login.now < .latest)
    (lasting : 0 < policy.lockSpan.nanos) :
    let stepped := machine.step policy false login.now
    login.Yields policy ⟨service, []⟩ fun _outcome after =>
      after.verifications = stepped.1.verifications ∧
        Kept policy stepped.2 email after.service ∧
        ∀ other, Wrong service email other → Wrong after.service email other := by
  cases kept with
  | @account row found own counts =>
      subst own
      have stored : (⟨service, []⟩ : Scene).service.store.findAccount row.email = some row := found
      have attended := Login.yields_row stored wrong.own before lasting
      rw [wrong.wrong row found] at attended
      obtain ⟨counts', answer⟩ := counts.signedIn_wrong policy login.now
      have sameUser := Account.sameUser_signedIn policy false login.now row
      refine ⟨?_, .account attended.found sameUser.email counts', ?_⟩
      · rw [attended.verifications, answer]
        exact Nat.zero_add _
      · intro other wrongOther
        refine ⟨wrongOther.own, ?_⟩
        intro row' found'
        rw [attended.found] at found'
        cases found'
        rw [attended.hasher, sameUser.passwordHash]
        exact wrongOther.wrong row found
  | @record attempt stands own =>
      subst own
      obtain ⟨_tells, looked, sameAccounts, attempt', stands', sameEmail⟩ :=
        Login.yields_unknown stands wrong.own
      refine ⟨looked.trans (Nat.zero_add _),
        .record ⟨stands'.unfound, stands'.current, stands'.follows⟩ sameEmail, ?_⟩
      intro other wrongOther
      refine ⟨wrongOther.own, ?_⟩
      intro row found
      have unfound := stands'.unfound
      rw [sameEmail, found] at unfound
      cases unfound

theorem Kept.paced (lasting : 0 < policy.lockSpan.nanos) {leaps : Finset Int} {begun : Int}
    {looked : Nat} {earlier last : Instant} (logins : List Login)
    (kept : Kept policy machine email service)
    (paced : machine.Paced policy leaps begun (earlier.clock leaps) looked)
    (wrong : ∀ login ∈ logins, Wrong service email login)
    (ordered : logins.Pairwise fun earlier later => earlier.now ≤ later.now)
    (since : ∀ login ∈ logins, earlier ≤ login.now)
    (until' : ∀ login ∈ logins, login.now ≤ last ∧ login.now.Counted leaps)
    (inTime : earlier ≤ last) (counted : earlier.Counted leaps) (before : last < .latest) :
    ∃ after : Machine, after.Paced policy leaps begun (last.clock leaps)
      (looked + looks (signIns policy logins service).1) := by
  induction logins generalizing machine service looked earlier with
  | nil => exact ⟨machine, paced.mono (Instant.clock_mono counted inTime)⟩
  | cons login logins ih =>
      obtain ⟨inTimeNow, countedNow⟩ := until' login List.mem_cons_self
      have early : login.now < .latest := Int.lt_of_le_of_lt inTimeNow before
      have stepped :=
        paced.step (since login List.mem_cons_self) early counted countedNow lasting
      obtain ⟨work, kept', wrong'⟩ := kept.step (wrong login List.mem_cons_self) early lasting
      -- The next sign-in is measured from this one.
      obtain ⟨next, rest⟩ := List.pairwise_cons.mp ordered
      obtain ⟨after, pacedAfter⟩ := ih kept' stepped
        (fun other member => wrong' other (wrong other (List.mem_cons_of_mem _ member))) rest next
        (fun other member => until' other (List.mem_cons_of_mem _ member)) inTimeNow countedNow
      refine ⟨after, ?_⟩
      rw [signIns, looks_cons (work ▸ Machine.Answer.verifications_le_one _), work, ← Nat.add_assoc]
      exact pacedAfter

def leapsOf (logins : List Login) : Finset Int :=
  ((logins.filter fun login => login.now.IsLeap).map (·.now.second)).toFinset

theorem counted_leapsOf {logins : List Login} {login : Login} (member : login ∈ logins) :
    login.now.Counted (leapsOf logins) := by
  intro leap
  rw [leapsOf, List.mem_toFinset]
  exact List.mem_map.mpr ⟨login, List.mem_filter.mpr ⟨member, decide_eq_true leap⟩, rfl⟩

theorem leapsOf_eq_empty {logins : List Login} (outside : ∀ login ∈ logins, ¬login.now.IsLeap) :
    leapsOf logins = ∅ := by
  have none : logins.filter (fun login => login.now.IsLeap) = [] := by
    rw [List.filter_eq_nil_iff]
    intro login member leap
    exact outside login member (of_decide_eq_true leap)
  rw [leapsOf, none]
  rfl

/-- Of wrong passwords with an email against which no failures count, tried one after
another while time does not go back, as many are looked at as the threshold says and again
as many for each lock span that went by. Time goes on during the leap seconds into which
some of them fall. -/
theorem looks_le_paced (positive : 1 ≤ policy.threshold) (lasting : 0 < policy.lockSpan.nanos)
    (uncounted : Uncounted service.store email) (first : Login) (rest : List Login)
    (wrong : ∀ login ∈ first :: rest, Wrong service email login)
    (ordered : (first :: rest).Pairwise fun earlier later => earlier.now ≤ later.now)
    {last : Instant} (reached : ∀ login ∈ first :: rest, login.now ≤ last)
    (before : last < .latest) :
    let leaps := leapsOf (first :: rest)
    let looked := looks (signIns policy (first :: rest) service).1
    (looked : Int) ≤ policy.threshold *
        (1 + (last.clock leaps - first.now.clock leaps) / policy.lockSpan.nanos) ∧
      ((∀ login ∈ first :: rest, ¬login.now.IsLeap) →
        (looked : Int) ≤ policy.threshold *
          (1 + (last.toNanos - first.now.toNanos) / policy.lockSpan.nanos)) := by
  have since : ∀ login ∈ first :: rest, first.now ≤ login.now := by
    intro login member
    rcases List.mem_cons.mp member with rfl | later
    · exact Int.le_refl _
    · exact (List.pairwise_cons.mp ordered).1 login later
  obtain ⟨after, paced⟩ := (uncounted.kept positive).paced lasting (first :: rest)
    (Machine.paced_fresh positive (leapsOf (first :: rest)) _) wrong ordered since
    (fun login member => ⟨reached login member, counted_leapsOf member⟩)
    (reached first List.mem_cons_self) (counted_leapsOf List.mem_cons_self) before
  have bound := paced.looks_le lasting
  rw [Nat.zero_add] at bound
  refine ⟨bound, ?_⟩
  intro outside
  rw [leapsOf_eq_empty outside, Instant.clock_empty, Instant.clock_empty] at bound
  exact bound

/-- Guesses ten seconds apart, as the locks run out, the middle one within a leap second. -/
def aroundLeap : List Login :=
  [⟨49, 500000000, by decide, by decide⟩, ⟨59, 1000000000, by decide, by decide⟩,
    ⟨69, 0, by decide, by decide⟩].map fun now => ⟨"ada@b.org", "wrong", now⟩

theorem wrong_aroundLeap :
    ∀ login ∈ aroundLeap, Wrong (serviceOn oneAccount false) ⟨"ada@b.org"⟩ login := by
  have ada : Email.parse "ada@b.org" = .ok ⟨"ada@b.org"⟩ := rfl
  intro login member
  obtain ⟨now, _tried, rfl⟩ := List.mem_map.mp member
  exact ⟨ada, fun _row _found => rfl⟩

theorem uncounted_oneAccount : Uncounted oneAccount ⟨"ada@b.org"⟩ where
  account := by
    intro row found
    cases found
    exact ⟨rfl, rfl, rfl⟩
  record := fun unfound => nomatch unfound

theorem looks_le_paced_aroundLeap :
    (looks (signIns ⟨1, .ofSeconds 10⟩ aroundLeap (serviceOn oneAccount false)).1 : Int) ≤ 3 := by
  have positive : 1 ≤ (⟨1, .ofSeconds 10⟩ : LockoutPolicy).threshold := by decide
  have lasting : 0 < (⟨1, .ofSeconds 10⟩ : LockoutPolicy).lockSpan.nanos := by decide
  have ordered : aroundLeap.Pairwise fun earlier later => earlier.now ≤ later.now := by decide
  have reached : ∀ login ∈ aroundLeap, login.now ≤ ⟨69, 0, by decide, by decide⟩ := by decide
  have bound := (looks_le_paced positive lasting uncounted_oneAccount _ _ wrong_aroundLeap ordered
    reached (by decide)).1
  exact bound

/-- Leap seconds left out, the time that went by does not bound the guesses. -/
theorem not_looks_le_plain :
    ¬∀ (policy : LockoutPolicy) (service : Service.Local) (email : Email) (first last : Login)
        (between : List Login) (ends : Instant),
      1 ≤ policy.threshold → 0 < policy.lockSpan.nanos → Uncounted service.store email →
      (∀ login ∈ first :: between ++ [last], Wrong service email login) →
      ((first :: between ++ [last]).Pairwise fun earlier later => earlier.now ≤ later.now) →
      ¬first.now.IsLeap → ¬last.now.IsLeap → last.now.add? policy.lockSpan = some ends →
      ends ≤ .latest →
      (looks (signIns policy (first :: between ++ [last]) service).1 : Int)
        ≤ policy.threshold *
          (1 + (last.now.toNanos - first.now.toNanos) / policy.lockSpan.nanos) := by
  intro claim
  have bound := claim ⟨1, .ofSeconds 10⟩ (serviceOn oneAccount false) ⟨"ada@b.org"⟩
    ⟨"ada@b.org", "wrong", ⟨49, 500000000, by decide, by decide⟩⟩
    ⟨"ada@b.org", "wrong", ⟨69, 0, by decide, by decide⟩⟩
    [⟨"ada@b.org", "wrong", ⟨59, 1000000000, by decide, by decide⟩⟩]
    ⟨79, 0, by decide, by decide⟩ (by decide) (by decide) uncounted_oneAccount wrong_aroundLeap
    (by decide) (by decide) (by decide) (by decide) (by decide)
  have looked : looks (signIns ⟨1, .ofSeconds 10⟩ aroundLeap (serviceOn oneAccount false)).1 = 3 := by
    decide +kernel
  change (looks (signIns ⟨1, .ofSeconds 10⟩ aroundLeap (serviceOn oneAccount false)).1 : Int) ≤ _
    at bound
  rw [looked] at bound
  revert bound
  decide

end Latchkey.SignIn
