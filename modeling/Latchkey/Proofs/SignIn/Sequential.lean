/-
Sign-ins one after another. Alone with the store, every write of a step is taken at once,
so that a sign-in is one step of the lockout machine: with an account on its row, with an
email that has none on its record.
-/

import Latchkey.Proofs.Lockout.Rounds
import Latchkey.Proofs.Lockout.SignedIn
import Latchkey.Proofs.Service.Yields
import Latchkey.Proofs.SignIn.Conduct

namespace Latchkey

open Lockout (Machine Step)
open Store (Memory)
open Time (Instant)

namespace Scene

def isVerification : Exchange Service → Bool
  | ⟨.verify _ _, _⟩ => true
  | _ => false

def verifications (scene : Scene) : Nat := scene.noted.countP isVerification

structure Quiet (before after : Scene) : Prop where
  hasher : after.service.hasher = before.service.hasher
  verifications : after.verifications = before.verifications

variable {first second third : Scene}

theorem Quiet.refl (scene : Scene) : Quiet scene scene := ⟨rfl, rfl⟩

theorem Quiet.trans (left : Quiet first second) (right : Quiet second third) : Quiet first third :=
  ⟨right.hasher.trans left.hasher, right.verifications.trans left.verifications⟩

theorem quiet_next {exchange : Exchange Service} (quiet : isVerification exchange = false)
    (scene : Scene) (store : Memory) : Quiet scene (scene.next exchange store) := by
  refine ⟨rfl, ?_⟩
  unfold verifications next
  rw [List.countP_cons, quiet]
  simp

theorem verifications_verify (scene : Scene) (hash : String) (password : Password)
    (reply : Except Failure Bool) (store : Memory) :
    (scene.next ⟨.verify hash password, reply⟩ store).verifications = scene.verifications + 1 := by
  unfold verifications next
  rw [List.countP_cons]
  rfl

end Scene

open Scene (Quiet quiet_next)

variable {policy : LockoutPolicy} {machine : Machine} {now : Instant} {scene : Scene}

/-- Whether a row stands under its email and follows the machine. -/
structure Account.Stands (policy : LockoutPolicy) (machine : Machine) (row : Account)
    (scene : Scene) : Prop where
  found : scene.service.store.findAccount row.email = some row
  follows : row.Follows policy machine

namespace Lockout

theorem apply_yields (policy : LockoutPolicy) (writes : Nat) {step : Step} {row : Account}
    (found : scene.service.store.findAccount row.email = some row) (applies : step.Applies now row)
    (valid : (step.change policy now row).validate now = .ok ()) :
    (apply (step.transition policy now) now (writes + 1) row).Yields scene fun outcome after =>
      outcome = .ok (step.change policy now row).next ∧
        after.service.store.findAccount row.email = some (step.change policy now row).next ∧
        Quiet scene after := by
  have relocks := step.change_onlyRelocks policy now row
  have transitionAt : step.transition policy now row = .ok (some (step.change policy now row)) :=
    Step.transition_eq_some.mpr ⟨applies, rfl⟩
  have taken := Memory.writeLock_current found relocks
  rw [apply_valid writes transitionAt valid, Procedure.yields_bind, Procedure.yields_ask,
    Procedure.answer_writeLock taken]
  refine ⟨rfl, ?_, quiet_next rfl scene _⟩
  exact (Memory.findAccount_withAccount _ _ _).trans (if_pos relocks.email.symm)

theorem gate_yields {row : Account}
    (found : scene.service.store.findAccount row.email = some row) :
    (gate row now).Yields scene fun outcome after =>
      (∃ deadline, row.lockState now = .lockedUntil deadline ∧
        outcome = .error (.locked deadline) ∧ after = scene) ∨
      (∀ deadline, row.lockState now ≠ .lockedUntil deadline) ∧
        outcome = .ok (row.opened now) ∧
        after.service.store.findAccount row.email = some (row.opened now) ∧ Quiet scene after := by
  unfold gate
  cases lockAt : row.lockState now with
  | lockedUntil deadline => exact Or.inl ⟨deadline, rfl, rfl, rfl⟩
  | unlocked =>
      rw [Account.opened_of_unlocked lockAt]
      exact Or.inr ⟨(fun deadline locked => nomatch locked), rfl, found, Quiet.refl scene⟩
  | expired =>
      have applies : Step.lift.Applies now row := lockAt
      rw [Account.opened_of_expired lockAt]
      apply (apply_yields .standard 2 found applies (row.validate_liftLock now)).mono
      intro outcome after lifted
      exact Or.inr ⟨(fun deadline locked => nomatch locked), lifted⟩

theorem recordFailure_yields {row : Account}
    (found : scene.service.store.findAccount row.email = some row)
    (unlocked : row.lockState now = .unlocked) (before : now < .latest)
    (lasting : 0 < policy.lockSpan.nanos) :
    (recordFailure policy row now).Yields scene fun outcome after =>
      outcome = .ok (row.settled policy false now) ∧
        after.service.store.findAccount row.email = some (row.settled policy false now) ∧
        Quiet scene after := by
  have applies : Step.count.Applies now row := by
    intro deadline locked
    rw [unlocked] at locked
    cases locked
  apply (apply_yields policy 2 found applies
    (Step.validate_change_of_unlocked .count unlocked before lasting)).mono
  intro outcome after written
  exact written

theorem recordSuccess_yields {row : Account}
    (found : scene.service.store.findAccount row.email = some row)
    (unlocked : row.lockState now = .unlocked) (before : now < .latest)
    (lasting : 0 < policy.lockSpan.nanos) :
    (recordSuccess row now).Yields scene fun outcome after =>
      outcome = .ok (row.settled policy true now) ∧
        after.service.store.findAccount row.email = some (row.settled policy true now) ∧
        Quiet scene after := by
  by_cases counted : row.hasFailures = true
  · have applies : Step.forget.Applies now row := counted
    rw [Account.settled_right_of_failures counted]
    apply (apply_yields policy 2 found applies
      (Step.validate_change_of_unlocked .forget unlocked before lasting)).mono
    intro outcome after written
    exact written
  · have idle : Step.forget.transition policy now row = .ok none :=
      Step.transition_eq_none.mpr ⟨counted, fun lift => nomatch lift⟩
    change (apply (Step.forget.transition policy now) now (2 + 1) row).Yields scene _
    rw [Account.settled_right_of_none counted, apply_idle 2 idle]
    exact ⟨rfl, found, Quiet.refl scene⟩

end Lockout

def Lockout.Machine.Answer.Tells : Machine.Answer → Except Failure Token.Pair → Prop
  | locked deadline, outcome => outcome = .error (.locked deadline)
  | refused, outcome => outcome = .error .wrongCredentials
  | admitted, outcome => ∃ pair, outcome = .ok pair

namespace SignIn

theorem issuePair_yields (identity : Identity) :
    (Procedure.issuePair identity).Yields scene fun outcome after =>
      (∃ pair, outcome = .ok pair) ∧ after.service.store = scene.service.store ∧
        Quiet scene after :=
  ⟨⟨_, rfl⟩, rfl, rfl, rfl⟩

/-- What a sign-in by itself comes to on a row: its answer, how often it looked at the
password, and the row that it leaves. One that a lock refuses leaves everything as it is. -/
structure Attended (policy : LockoutPolicy) (right : Bool) (now : Instant) (row : Account)
    (scene : Scene) (outcome : Except Failure Token.Pair) (after : Scene) : Prop where
  tells : (Machine.Answer.to (row.lockState now) right).Tells outcome
  verifications : after.verifications
    = scene.verifications + (Machine.Answer.to (row.lockState now) right).verifications
  hasher : after.service.hasher = scene.service.hasher
  found : after.service.store.findAccount row.email = some (row.signedIn policy right now)
  unchanged : ∀ deadline, row.lockState now = .lockedUntil deadline →
    after.service = scene.service

namespace Attended

variable {right : Bool} {row : Account} {outcome : Except Failure Token.Pair} {after : Scene}

theorem of_locked {deadline : Instant} (locked : row.lockState now = .lockedUntil deadline)
    (found : scene.service.store.findAccount row.email = some row) :
    Attended policy right now row scene (.error (.locked deadline)) scene := by
  constructor
  · rw [locked]
    rfl
  · rw [locked]
    rfl
  · rfl
  · rw [Account.signedIn_locked locked]
    exact found
  · intro _deadline _locked
    rfl

theorem of_open (notLocked : ∀ deadline, row.lockState now ≠ .lockedUntil deadline)
    (tells : (if right then .admitted else .refused : Machine.Answer).Tells outcome)
    (looked : after.verifications = scene.verifications + 1)
    (sameHasher : after.service.hasher = scene.service.hasher)
    (settled : after.service.store.findAccount row.email
      = some ((row.opened now).settled policy right now)) :
    Attended policy right now row scene outcome after := by
  have answer : Machine.Answer.to (row.lockState now) right
      = if right then .admitted else .refused := Machine.Answer.to_open notLocked
  constructor
  · rw [answer]
    exact tells
  · rw [answer, looked]
    cases right <;> rfl
  · exact sameHasher
  · rw [Account.signedIn_open notLocked]
    exact settled
  · intro deadline locked
    exact absurd locked (notLocked deadline)

end Attended

theorem withAccount_yields {row : Account}
    (found : scene.service.store.findAccount row.email = some row) (password : Password)
    (before : now < .latest) (lasting : 0 < policy.lockSpan.nanos) :
    (withAccount policy row password now).Yields scene
      (Attended policy (scene.service.hasher.verify row.passwordHash password) now row scene) := by
  unfold withAccount
  rw [Procedure.yields_bind]
  apply (Lockout.gate_yields found).mono
  rintro outcome gated (⟨deadline, locked, rfl, rfl⟩ | ⟨notLocked, rfl, opened, quiet⟩)
  · exact Attended.of_locked locked found
  · have unlocked := Account.lockState_opened notLocked
    have sameUser := row.sameUser_opened now
    dsimp only
    rw [Procedure.yields_bind, Procedure.yields_verify, quiet.hasher, sameUser.passwordHash]
    rw [← sameUser.email] at opened
    have judged (right : Bool) :
        (gated.next ⟨.verify row.passwordHash password, .ok right⟩
          gated.service.store).service.store.findAccount (row.opened now).email
            = some (row.opened now) := opened
    have looked (right : Bool) : (gated.next ⟨.verify row.passwordHash password, .ok right⟩
        gated.service.store).verifications = scene.verifications + 1 := by
      rw [Scene.verifications_verify, quiet.verifications]
    cases scene.service.hasher.verify row.passwordHash password with
    | true =>
        change (Lockout.recordSuccess _ _ >>= _ : Procedure Token.Pair).Yields _ _
        rw [Procedure.yields_bind]
        apply (Lockout.recordSuccess_yields (judged true) unlocked before lasting).mono
        rintro outcome recorded ⟨rfl, settled, quiet'⟩
        apply (issuePair_yields _).mono
        rintro outcome issued ⟨admitted, sameStore, quiet''⟩
        have quietAfter := quiet'.trans quiet''
        rw [← sameStore, sameUser.email] at settled
        exact Attended.of_open notLocked admitted (quietAfter.verifications.trans (looked true))
          (quietAfter.hasher.trans quiet.hasher) settled
    | false =>
        change (Lockout.recordFailure _ _ _ >>= _ : Procedure Token.Pair).Yields _ _
        rw [Procedure.yields_bind]
        apply (Lockout.recordFailure_yields (judged false) unlocked before lasting).mono
        rintro outcome recorded ⟨rfl, settled, quiet'⟩
        rw [sameUser.email] at settled
        exact Attended.of_open notLocked rfl (quiet'.verifications.trans (looked false))
          (quiet'.hasher.trans quiet.hasher) settled

end SignIn

structure AttemptRecord.Stands (policy : LockoutPolicy) (machine : Machine) (attempt : AttemptRecord)
    (scene : Scene) : Prop where
  unfound : scene.service.store.findAccount attempt.email = none
  current : scene.service.store.attemptsOf attempt.email = attempt
  follows : attempt.Follows policy machine

theorem AttemptRecord.Stands.of_store_eq {attempt : AttemptRecord} {after : Scene}
    (stands : attempt.Stands policy machine scene)
    (sameStore : after.service.store = scene.service.store) :
    attempt.Stands policy machine after := by
  refine ⟨?_, ?_, stands.follows⟩
  · rw [sameStore]
    exact stands.unfound
  · rw [sameStore]
    exact stands.current

namespace Lockout

theorem loadAttempts_yields {ends : Except Failure AttemptRecord → Scene → Prop} (email : Email) :
    (loadAttempts email).Yields scene ends ↔
      ends (.ok (scene.service.store.attemptsOf email))
        (scene.next ⟨.findAttempts email, .ok (scene.service.store.findAttempts email)⟩
          scene.service.store) := by
  unfold loadAttempts
  rw [Procedure.yields_bind, Procedure.yields_findAttempts]
  rfl

theorem gateUnknown_yields {attempt : AttemptRecord} (stands : attempt.Stands policy machine scene) :
    (gateUnknown attempt.email now).Yields scene fun outcome after =>
      after.service.store = scene.service.store ∧ Quiet scene after ∧
        ((∃ deadline, LockState.of machine.deadline now = .lockedUntil deadline ∧
          outcome = .error (.locked deadline)) ∨
        (∀ deadline, LockState.of machine.deadline now ≠ .lockedUntil deadline) ∧
          outcome = .ok attempt) := by
  unfold gateUnknown
  rw [Procedure.yields_bind, loadAttempts_yields, stands.current, ← stands.follows.lockState]
  have quiet : Quiet scene (scene.next
      ⟨.findAttempts attempt.email, .ok (scene.service.store.findAttempts attempt.email)⟩
      scene.service.store) := quiet_next rfl scene _
  dsimp only
  cases lockAt : attempt.lockState now with
  | lockedUntil deadline => exact ⟨rfl, quiet, Or.inl ⟨deadline, rfl, rfl⟩⟩
  | unlocked => exact ⟨rfl, quiet, Or.inr ⟨(fun deadline locked => nomatch locked), rfl⟩⟩
  | expired => exact ⟨rfl, quiet, Or.inr ⟨(fun deadline locked => nomatch locked), rfl⟩⟩

theorem recordUnknownFailure_yields {attempt : AttemptRecord}
    (stands : attempt.Stands policy machine scene)
    (notLocked : ∀ deadline, attempt.lockState now ≠ .lockedUntil deadline) :
    (recordUnknownFailure policy attempt now).Yields scene fun outcome after =>
      ∃ attempt', outcome = .ok attempt' ∧
        attempt'.Stands policy (machine.lift.fail policy now) after ∧
        attempt'.email = attempt.email ∧
        after.service.store.accounts = scene.service.store.accounts ∧ Quiet scene after := by
  have sameEmail : (attempt.registerFailure policy now).email = attempt.email :=
    AttemptRecord.registerFailure_email
  have sameVersion : (attempt.registerFailure policy now).version = attempt.version :=
    AttemptRecord.registerFailure_version
  have taken := Memory.writeAttempts_current stands.current sameEmail sameVersion
  change (countUnknown policy now (2 + 1) attempt).Yields scene _
  rw [countUnknown_open 2 notLocked, Procedure.yields_bind, Procedure.yields_ask,
    Procedure.answer_writeAttempts taken]
  refine ⟨_, rfl, ⟨?_, ?_, (stands.follows.registerFailure notLocked).version _⟩, sameEmail, rfl,
    quiet_next rfl scene _⟩
  · rw [AttemptRecord.next_email, sameEmail]
    exact stands.unfound
  · exact (Memory.attemptsOf_withAttempts _ _ _).trans (if_pos rfl)

end Lockout

namespace SignIn

theorem refuseUnknown_yields {attempt : AttemptRecord} (stands : attempt.Stands policy machine scene)
    (password : Password) :
    (refuseUnknown policy attempt.email password now).Yields scene fun outcome after =>
      let stepped := machine.step policy false now
      stepped.1.Tells outcome ∧
        after.verifications = scene.verifications + stepped.1.verifications ∧
        after.service.store.accounts = scene.service.store.accounts ∧
        ∃ attempt' : AttemptRecord,
          attempt'.Stands policy stepped.2 after ∧ attempt'.email = attempt.email := by
  unfold refuseUnknown
  rw [Procedure.yields_bind]
  apply (Lockout.gateUnknown_yields stands).mono
  rintro outcome gated ⟨sameStore, quiet, ⟨deadline, locked, rfl⟩ | ⟨notLocked, rfl⟩⟩
  · obtain ⟨held, ahead⟩ := LockState.of_eq_lockedUntil.mp locked
    dsimp only
    rw [Machine.step_locked held ahead]
    exact ⟨rfl, quiet.verifications, congrArg Memory.accounts sameStore, attempt,
      stands.of_store_eq sameStore, rfl⟩
  · dsimp only
    rw [Machine.step_open notLocked]
    rw [Procedure.yields_bind, Procedure.yields_verify]
    change (Lockout.recordUnknownFailure _ _ _ >>= _ : Procedure Token.Pair).Yields _ _
    rw [Procedure.yields_bind]
    have judged : attempt.Stands policy machine (gated.next
        ⟨.verify dummyHash password, .ok (gated.service.hasher.verify dummyHash password)⟩
        gated.service.store) := stands.of_store_eq sameStore
    have open' : ∀ deadline, attempt.lockState now ≠ .lockedUntil deadline := by
      rw [stands.follows.lockState]
      exact notLocked
    apply (Lockout.recordUnknownFailure_yields judged open').mono
    rintro outcome recorded ⟨attempt', rfl, stands', sameEmail, sameAccounts, quiet'⟩
    refine ⟨rfl, ?_, ?_, attempt', stands', sameEmail⟩
    · change recorded.verifications = _
      rw [quiet'.verifications, Scene.verifications_verify, quiet.verifications]
      rfl
    · exact sameAccounts.trans (congrArg Memory.accounts sameStore)

namespace Login

def Yields (policy : LockoutPolicy) (login : Login) (scene : Scene)
    (ends : Except Failure Token.Pair → Scene → Prop) : Prop :=
  ends ((login.dialogue policy).runIn Scene.answer scene).1
    ((login.dialogue policy).runIn Scene.answer scene).2

theorem yields_of_owns {login : Login} {email : Email} (mine : login.Owns email)
    {ends : Except Failure Token.Pair → Scene → Prop}
    (yields : (do
      match ← Procedure.findAccount email with
      | none => refuseUnknown policy email (.typed login.password) login.now
      | some account => withAccount policy account (.typed login.password) login.now :
        Procedure Token.Pair).Yields scene ends) :
    login.Yields policy scene ends := by
  unfold Owns at mine
  unfold Yields dialogue withPassword
  rw [mine]
  exact yields

theorem yields_row {row : Account} {login : Login}
    (found : scene.service.store.findAccount row.email = some row) (mine : login.Owns row.email)
    (before : login.now < .latest) (lasting : 0 < policy.lockSpan.nanos) :
    login.Yields policy scene
      (Attended policy (scene.service.hasher.verify row.passwordHash (.typed login.password))
        login.now row scene) := by
  apply yields_of_owns mine
  rw [Procedure.yields_bind, Procedure.yields_findAccount, found]
  have quiet : Quiet scene
      (scene.next ⟨.findAccount row.email, .ok (some row)⟩ scene.service.store) :=
    quiet_next rfl scene _
  have read : (scene.next ⟨.findAccount row.email, .ok (some row)⟩
      scene.service.store).service.store.findAccount row.email = some row := found
  apply (withAccount_yields read (.typed login.password) before lasting).mono
  intro outcome after attended
  exact { attended with verifications := quiet.verifications ▸ attended.verifications }

theorem yields_known {row : Account} {login : Login} (stands : row.Stands policy machine scene)
    (mine : login.Owns row.email) (before : login.now < .latest)
    (lasting : 0 < policy.lockSpan.nanos) :
    login.Yields policy scene fun outcome after =>
      let right := scene.service.hasher.verify row.passwordHash (.typed login.password)
      let stepped := machine.step policy right login.now
      stepped.1.Tells outcome ∧
        after.service.hasher = scene.service.hasher ∧
        after.verifications = scene.verifications + stepped.1.verifications ∧
        ∃ row' : Account, row'.Stands policy stepped.2 after ∧ row.SameUser row' := by
  have attended := yields_row stands.found mine before lasting
  have sameUser := Account.sameUser_signedIn policy
    (scene.service.hasher.verify row.passwordHash (.typed login.password)) login.now row
  dsimp only
  rw [Machine.step_answer, ← stands.follows.lockState]
  refine ⟨attended.tells, attended.hasher, attended.verifications, _, ⟨?_, ?_⟩, sameUser⟩
  · rw [sameUser.email]
    exact attended.found
  · exact stands.follows.signedIn before lasting

theorem yields_unknown {attempt : AttemptRecord} {login : Login}
    (stands : attempt.Stands policy machine scene) (mine : login.Owns attempt.email) :
    login.Yields policy scene fun outcome after =>
      let stepped := machine.step policy false login.now
      stepped.1.Tells outcome ∧
        after.verifications = scene.verifications + stepped.1.verifications ∧
        after.service.store.accounts = scene.service.store.accounts ∧
        ∃ attempt' : AttemptRecord,
          attempt'.Stands policy stepped.2 after ∧ attempt'.email = attempt.email := by
  apply yields_of_owns mine
  rw [Procedure.yields_bind, Procedure.yields_findAccount, stands.unfound]
  have found : attempt.Stands policy machine
      (scene.next ⟨.findAccount attempt.email, .ok none⟩ scene.service.store) :=
    ⟨stands.unfound, stands.current, stands.follows⟩
  have quiet : Quiet scene
      (scene.next ⟨.findAccount attempt.email, .ok none⟩ scene.service.store) :=
    quiet_next rfl scene _
  apply (refuseUnknown_yields found (.typed login.password)).mono
  intro outcome after stepped
  rw [quiet.verifications] at stepped
  exact stepped

end Login

/-- Sign-ins one after another: each outcome with the number of passwords that were looked
at, and the service after them. -/
def signIns (policy : LockoutPolicy) :
    List Login → Service.Local → List (Except Failure Token.Pair × Nat) × Service.Local
  | [], service => ([], service)
  | login :: logins, service =>
      let ran := (login.dialogue policy).runIn Scene.answer ⟨service, []⟩
      let rest := signIns policy logins ran.2.service
      ((ran.1, ran.2.verifications) :: rest.1, rest.2)

end SignIn

end Latchkey
