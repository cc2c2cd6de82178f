/-
Procedures that run by themselves on the service in one process. What a procedure comes to
is told by a postcondition on its outcome and on the scene it leaves: the service as it is
then, with the exchanges that it had.
-/

import Latchkey.Proofs.Dialogue.Alone
import Latchkey.Proofs.Store.Answers

namespace Latchkey

open Store (Memory)

/-- The service in one process with the exchanges that it had, the latest first. -/
structure Scene where
  service : Service.Local
  noted : List (Exchange Service) := []

namespace Scene

def answer (request : Service.Request) : StateM Scene (Service.Reply request) := fun scene =>
  let answered := Service.Local.answer request scene.service
  (answered.1, ⟨answered.2, ⟨request, answered.1⟩ :: scene.noted⟩)

def next (scene : Scene) (exchange : Exchange Service) (store : Memory) : Scene :=
  ⟨{ scene.service with store }, exchange :: scene.noted⟩

end Scene

namespace Procedure

variable {α β : Type} {scene : Scene}

/-- Whether a procedure that runs by itself ends so that a postcondition holds. -/
def Yields (procedure : Procedure α) (scene : Scene) (ends : Except Failure α → Scene → Prop) :
    Prop :=
  ends (procedure.run.runIn Scene.answer scene).1 (procedure.run.runIn Scene.answer scene).2

theorem Yields.mono {procedure : Procedure α} {ends weaker : Except Failure α → Scene → Prop}
    (yields : procedure.Yields scene ends)
    (weaken : ∀ outcome after, ends outcome after → weaker outcome after) :
    procedure.Yields scene weaker := weaken _ _ yields

theorem yields_bind {ends : Except Failure β → Scene → Prop} {procedure : Procedure α}
    {following : α → Procedure β} :
    (procedure >>= following).Yields scene ends ↔
      procedure.Yields scene fun outcome after =>
        match outcome with
        | .ok value => (following value).Yields after ends
        | .error failure => ends (.error failure) after := by
  unfold Yields
  exact endsSo_bind

theorem yields_ask {ends : Except Failure α → Scene → Prop} {request : Service.Request}
    {reply : Service.Reply request → Except Failure α} :
    (ask request reply).Yields scene ends ↔
      ends (reply (Scene.answer request scene).1) (Scene.answer request scene).2 := Iff.rfl

theorem yields_findAccount {ends : Except Failure (Option Account) → Scene → Prop}
    (email : Email) :
    (findAccount email).Yields scene ends ↔
      ends (.ok (scene.service.store.findAccount email))
        (scene.next ⟨.findAccount email, .ok (scene.service.store.findAccount email)⟩
          scene.service.store) := Iff.rfl

theorem yields_findAttempts {ends : Except Failure (Option AttemptRecord) → Scene → Prop}
    (email : Email) :
    (findAttempts email).Yields scene ends ↔
      ends (.ok (scene.service.store.findAttempts email))
        (scene.next ⟨.findAttempts email, .ok (scene.service.store.findAttempts email)⟩
          scene.service.store) := Iff.rfl

theorem yields_verify {ends : Except Failure Bool → Scene → Prop} (hash : String)
    (password : Password) :
    (verify hash password).Yields scene ends ↔
      ends (.ok (scene.service.hasher.verify hash password))
        (scene.next ⟨.verify hash password, .ok (scene.service.hasher.verify hash password)⟩
          scene.service.store) := Iff.rfl

theorem answer_writeLock {changed written : Account} {after : Memory}
    (taken : scene.service.store.writeLock changed = .ok (written, after)) :
    Scene.answer (.writeLock changed) scene
      = (.ok written, scene.next ⟨.writeLock changed, .ok written⟩ after) := by
  have told : Service.Local.answer (.writeLock changed) scene.service
      = (.ok written, { scene.service with store := after }) :=
    Service.Local.onStore_ok (fun store => store.writeLock changed) taken
  unfold Scene.answer
  rw [told]
  rfl

theorem answer_writeAttempts {changed written : AttemptRecord} {after : Memory}
    (taken : scene.service.store.writeAttempts changed = .ok (written, after)) :
    Scene.answer (.writeAttempts changed) scene
      = (.ok written, scene.next ⟨.writeAttempts changed, .ok written⟩ after) := by
  have told : Service.Local.answer (.writeAttempts changed) scene.service
      = (.ok written, { scene.service with store := after }) :=
    Service.Local.onStore_ok (fun store => store.writeAttempts changed) taken
  unfold Scene.answer
  rw [told]
  rfl

end Procedure

end Latchkey
