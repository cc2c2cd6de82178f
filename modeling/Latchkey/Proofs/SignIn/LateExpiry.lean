/-
Locks that have run out by the time they are met. Before the verdict a lock that has run
out is lifted; after it, a row that is read again may hold one, engaged by a sign-in that
began earlier, and neither the count nor the success lifts it. The check before the write
refuses such a row, and that is the only way in which a sign-in fails internally.
-/

import Latchkey.Proofs.SignIn.Length
import Latchkey.Proofs.SignIn.Schedule

namespace Latchkey.SignIn

open Lockout (Step)
open Session (Move Run)
open Store (Memory)
open Time (Instant)

/-- Whether a sign-in came upon a lock that has run out, after the verdict, and had
something to write that leaves it in place. -/
def MeetsExpired (policy : LockoutPolicy) (now : Instant) (reached : Standing) : Prop :=
  ∃ row right, reached.reread = some row ∧ reached.verdict = some right ∧
    row.lockState now = .expired ∧
    (right = true → row.hasFailures = true) ∧ (right = false → policy.threshold ≠ 1)

/-- The outcomes that a caller is told to expect. -/
inductive Expected : Except Failure Token.Pair → Prop
  | pair (pair : Token.Pair) : Expected (.ok pair)
  | wrongCredentials : Expected (.error .wrongCredentials)
  | locked (deadline : Instant) : Expected (.error (.locked deadline))
  | stale : Expected (.error .staleWrite)

variable {policy : LockoutPolicy} {now : Instant} {reached : Standing}

theorem not_meetsExpired_of_reread (unread : reached.reread = none) :
    ¬MeetsExpired policy now reached := by
  rintro ⟨row, right, reread, _rest⟩
  rw [unread] at reread
  cases reread

theorem not_meetsExpired_of_verdict (unverified : reached.verdict = none) :
    ¬MeetsExpired policy now reached := by
  rintro ⟨row, right, _reread, verdict, _rest⟩
  rw [unverified] at verdict
  cases verdict

theorem refused_iff {row : Account} {right : Bool} (settles : Settles now reached right row)
    (consistent : row.LockConsistent policy) (before : now < .latest)
    (lasting : 0 < policy.lockSpan.nanos) :
    (stepAfter (some right)).Applies now row ∧
        ((stepAfter (some right)).change policy now row).validate now ≠ .ok () ↔
      MeetsExpired policy now reached := by
  rw [Ne, Step.validate_change consistent before lasting]
  constructor
  · rintro ⟨applies, refused⟩
    obtain ⟨expired, unlifted⟩ := Classical.not_imp.mp refused
    rcases settles.unlocked_or_reread with ⟨_unread, unlocked⟩ | reread
    · rw [unlocked] at expired
      cases expired
    · refine ⟨row, right, reread, settles.verdict, expired, ?_, ?_⟩
      · rintro rfl
        exact applies
      · rintro rfl single
        exact unlifted (Or.inr ⟨rfl, single⟩)
  · rintro ⟨met, verdict, reread, same, expired, counted, several⟩
    cases settles.verdict.symm.trans same
    have rowMet : met = row := by
      rcases settles.unlocked_or_reread with ⟨unread, _unlocked⟩ | own
      · rw [unread] at reread
        cases reread
      · exact Option.some.inj (reread.symm.trans own)
    subst rowMet
    cases right with
    | true =>
        refine ⟨counted rfl, fun lifts => ?_⟩
        rcases lifts expired with lift | ⟨count, _single⟩
        · cases lift
        · cases count
    | false =>
        refine ⟨fun deadline locked => ?_, fun lifts => ?_⟩
        · rw [expired] at locked
          cases locked
        · rcases lifts expired with lift | ⟨_count, single⟩
          · cases lift
          · exact several rfl single

/-- A step that passed the check on a row that it relied on did not meet such a lock. -/
theorem not_meetsExpired_of_valid {row : Account} {right : Bool}
    (settles : Settles now reached right row)
    (fits : reached.reread = some row → row.LockConsistent policy) (before : now < .latest)
    (lasting : 0 < policy.lockSpan.nanos)
    (valid : (stepAfter (some right)).Applies now row →
      ((stepAfter (some right)).change policy now row).validate now = .ok ()) :
    ¬MeetsExpired policy now reached := by
  rcases settles.unlocked_or_reread with ⟨unread, _unlocked⟩ | reread
  · exact not_meetsExpired_of_reread unread
  · intro met
    obtain ⟨applies, refused⟩ := (refused_iff settles (fits reread) before lasting).mpr met
    exact refused (valid applies)

theorem Ending.expected_or_internal {outcome : Except Failure Token.Pair}
    (ending : Ending policy now reached outcome) (healthy : reached.faulty = false)
    (rowFits : ∀ row, reached.row = some row → row.LockConsistent policy)
    (rereadFits : ∀ row, reached.reread = some row → row.LockConsistent policy)
    (before : now < .latest) (lasting : 0 < policy.lockSpan.nanos) :
    Expected outcome ∧ ¬MeetsExpired policy now reached ∨
      (∃ detail, outcome = .error (.internal detail)) ∧ MeetsExpired policy now reached := by
  have unmet {row : Account} {right : Bool} (settles : Settles now reached right row)
      (valid : (stepAfter (some right)).Applies now row →
        ((stepAfter (some right)).change policy now row).validate now = .ok ()) :=
    not_meetsExpired_of_valid settles (rereadFits row) before lasting valid
  cases ending with
  | malformed nothing =>
      rw [nothing]
      exact Or.inl ⟨.wrongCredentials, not_meetsExpired_of_reread rfl⟩
  | faulty faulty =>
      rw [healthy] at faulty
      cases faulty
  | locked _held unverified =>
      exact Or.inl ⟨.locked _, not_meetsExpired_of_verdict unverified⟩
  | staleLift unverified => exact Or.inl ⟨.stale, not_meetsExpired_of_verdict unverified⟩
  | counted _held settles _failures valid =>
      exact Or.inl ⟨.wrongCredentials, unmet settles fun _applies => valid⟩
  | @overtaken row deadline _held settles _failures locked =>
      refine Or.inl ⟨.wrongCredentials, unmet settles fun applies => ?_⟩
      exact absurd locked (applies deadline)
  | admitted _held _sameLock settles _failures valid =>
      exact Or.inl ⟨.pair _, unmet settles valid⟩
  | invalid held settles _failures applies refused =>
      obtain ⟨detail, rfl⟩ := Account.validate_eq_error refused
      refine Or.inr ⟨⟨detail, rfl⟩, ?_⟩
      refine (refused_iff settles (rowFits _ held) before lasting).mp ⟨applies, ?_⟩
      rw [refused]
      exact fun same => nomatch same
  | stale settles _failures valid => exact Or.inl ⟨.stale, unmet settles fun _applies => valid⟩
  | unknownLocked _missing unread => exact Or.inl ⟨.locked _, not_meetsExpired_of_reread unread⟩
  | unknownCounted _missing unread | unknownOvertaken _missing unread =>
      exact Or.inl ⟨.wrongCredentials, not_meetsExpired_of_reread unread⟩
  | unknownStale _missing unread => exact Or.inl ⟨.stale, not_meetsExpired_of_reread unread⟩

variable {Call : Type} [DecidableEq Call] {store : Memory} {logins : Call → Login}
  {session : SignIns Call}

/-- Among sign-ins side by side, each comes to its end, and it ends as expected exactly when
it does not meet a lock that has run out; then it fails internally. -/
theorem expected_iff (users : store.OfNewUsers) (positive : 1 ≤ policy.threshold)
    (lasting : 0 < policy.lockSpan.nanos) (before : ∀ call, (logins call).now < .latest)
    (run : Run Memory.Answers (begun policy store logins) session) (call : Call)
    (healthy : (standing (session.heard call)).faulty = false) :
    (session.heard call).length ≤ 16 ∧
      ((∀ outcome, session.calls call ≠ .done outcome) →
        ∃ move : Move Memory.Answers session, move.call = call) ∧
      ∀ outcome, session.calls call = .done outcome →
        (Expected outcome ↔
          ¬MeetsExpired policy (logins call).now (standing (session.heard call))) ∧
        ((∃ detail, outcome = .error (.internal detail)) ↔
          MeetsExpired policy (logins call).now (standing (session.heard call))) := by
  have sound := sound_of_run users positive run
  refine ⟨(limited_of_run run call).1, ?_, ?_⟩
  · intro unfinished
    exact Session.exists_move Memory.exists_answer unfinished
  · intro outcome ended
    have known := sound.known call
    rcases (sound.obedient.ended ended).expected_or_internal healthy
      (fun row held => (known.row row held).1) known.reread (before call) lasting
      with ⟨expected, unmet⟩ | ⟨⟨detail, rfl⟩, met⟩
    · refine ⟨⟨fun _expected => unmet, fun _unmet => expected⟩, ?_, fun met => absurd met unmet⟩
      rintro ⟨detail, rfl⟩
      cases expected
    · refine ⟨⟨?_, fun unmet => absurd met unmet⟩, fun _internal => met, fun _met => ⟨detail, rfl⟩⟩
      intro expected
      cases expected

def wrongPasswords (call : Racer) : Login :=
  ⟨"ada@b.org", "wrong", if call = .late then ⟨60, 0, by decide, by decide⟩ else .epoch⟩

/-- A wrong password a minute later than two others, looked at before the second of them
locks the account and told to the store after it. -/
def lateExpiry : SignIns Racer :=
  follow (fun _ => false) (begun ⟨2, .ofSeconds 10⟩ oneAccount wrongPasswords)
    [.first, .first, .first, .late, .late, .second, .second, .second, .late, .late]

theorem wrongPasswords_before (call : Racer) : (wrongPasswords call).now < .latest := by
  cases call <;> decide

theorem lateExpiry_internal : ∃ detail, lateExpiry.calls .late = .done (.error (.internal detail)) := by
  let detail := "invalid lock state: status=locked lock_until=Some(1970-01-01T00:00:10Z)"
  have ended : endedWith (isFailure (.internal detail)) lateExpiry .late = true := by decide +kernel
  obtain ⟨outcome, reached, failed⟩ := exists_of_endedWith ended
  cases outcome with
  | ok pair => cases failed
  | error failure => exact ⟨detail, reached.trans (by rw [of_decide_eq_true failed])⟩

theorem expected_iff_lateExpiry :
    (standing (lateExpiry.heard .late)).faulty = false ∧
      ∀ outcome, lateExpiry.calls .late = .done outcome →
        (Expected outcome ↔
          ¬MeetsExpired ⟨2, .ofSeconds 10⟩ (wrongPasswords .late).now
            (standing (lateExpiry.heard .late))) := by
  have healthy : (standing (lateExpiry.heard .late)).faulty = false := by decide +kernel
  have ends := expected_iff oneAccount_ofNewUsers (by decide) (by decide) wrongPasswords_before
    (run_follow .start _) Racer.late healthy
  exact ⟨healthy, fun outcome ended => (ends.2.2 outcome ended).1⟩

/-- Not every sign-in ends as expected, though the hasher and the issuer do their work. -/
theorem not_every_end_expected :
    ¬∀ (policy : LockoutPolicy) (store : Memory) (logins : Racer → Login)
        (session : SignIns Racer),
      1 ≤ policy.threshold → 0 < policy.lockSpan.nanos → (∀ call, (logins call).now < .latest) →
      store.OfNewUsers → Run Memory.Answers (begun policy store logins) session →
      ∀ call outcome, (standing (session.heard call)).faulty = false →
        session.calls call = .done outcome → Expected outcome := by
  intro claim
  obtain ⟨detail, ended⟩ := lateExpiry_internal
  have healthy : (standing (lateExpiry.heard .late)).faulty = false := by decide +kernel
  have expected := claim _ oneAccount _ lateExpiry (by decide) (by decide) wrongPasswords_before
    oneAccount_ofNewUsers (run_follow .start _) .late _ healthy ended
  cases expected

end Latchkey.SignIn
