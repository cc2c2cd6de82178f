/-
The store in memory as one that many callers share. A request is answered as a whole:
what it asks of the store is told by the operations of the store, and what it asks of
others leaves the store as it is. Of the others only the kind of failure is known: the
hasher fails with an internal failure and the issuer with a failure to sign. The service
in one process answers every request in this way.
-/

import Latchkey.Proofs.Dialogue.Contract
import Latchkey.Service.Local

namespace Latchkey

open Time (Instant)

/-- The answers that a dialogue may come to. -/
inductive Dialogue.MayEnd {interface : Interface} {α : Type} : Dialogue interface α → α → Prop
  | done (value : α) : MayEnd (.done value) value
  | ask {request : interface.Request} {next : interface.Reply request → Dialogue interface α}
      {value : α} (reply : interface.Reply request) :
      MayEnd (next reply) value → MayEnd (.ask request next) value

namespace Service.Local

variable {α : Type} {service : Service.Local}

theorem onStore_ok (operation : Store.Memory → Except Failure (α × Store.Memory)) {value : α} {after : Store.Memory}
    (taken : operation service.store = .ok (value, after)) :
    onStore operation service = (.ok value, { service with store := after }) := by
  simp only [onStore, modifyGet, MonadStateOf.modifyGet, StateT.modifyGet, taken]
  rfl

theorem onStore_error (operation : Store.Memory → Except Failure (α × Store.Memory))
    {failure : Failure} (refused : operation service.store = .error failure) :
    onStore operation service = (.error failure, service) := by
  simp only [onStore, modifyGet, MonadStateOf.modifyGet, StateT.modifyGet, refused]
  rfl

end Service.Local

namespace Store.Memory

/-- An operation on the store as a reply and a store after it. -/
def Concludes {α : Type} (store : Memory) (operation : Except Failure (α × Memory))
    (reply : Except Failure α) (after : Memory) : Prop :=
  match operation with
  | .error failure => reply = .error failure ∧ after = store
  | .ok (value, changed) => reply = .ok value ∧ after = changed

theorem Concludes.cases {α : Type} {store after : Memory} {operation : Except Failure (α × Memory)}
    {reply : Except Failure α} (concluded : store.Concludes operation reply after) :
    (∃ failure, operation = .error failure ∧ reply = .error failure ∧ after = store) ∨
      ∃ value, operation = .ok (value, after) ∧ reply = .ok value := by
  unfold Concludes at concluded
  cases operation with
  | error failure => exact Or.inl ⟨failure, rfl, concluded⟩
  | ok done =>
      obtain ⟨value, changed⟩ := done
      obtain ⟨told, rfl⟩ := concluded
      exact Or.inr ⟨value, rfl, told⟩

def Answers (store : Memory) :
    (request : Service.Request) → Service.Reply request → Memory → Prop
  | .findAccount email, reply, after => reply = .ok (store.findAccount email) ∧ after = store
  | .createAccount account, reply, after =>
      ∃ id now, store.Concludes (store.createAccount account id now) reply after
  | .createAccountWith account issue, reply, after =>
      ∃ id now, (store.createAccountWith account id now issue).MayEnd (reply, after)
  | .writeLock account, reply, after => store.Concludes (store.writeLock account) reply after
  | .findAttempts email, reply, after => reply = .ok (store.findAttempts email) ∧ after = store
  | .writeAttempts attempt, reply, after =>
      store.Concludes (store.writeAttempts attempt) reply after
  | .verify _ _, reply, after =>
      ((∃ right, reply = .ok right) ∨ ∃ detail, reply = .error (.internal detail)) ∧
        after = store
  | .sign _, reply, after =>
      ((∃ token, reply = .ok token) ∨ ∃ detail, reply = .error (.signingFailed detail)) ∧
        after = store
  | .hash _, _, after => after = store
  | .readToken _ _, _, after => after = store
  | .exchange _, _, after => after = store
  | .random _, _, after => after = store
  | .clock, _, after => after = store

private theorem onStore_concludes {α : Type} (service : Service.Local)
    (operation : Memory → Except Failure (α × Memory)) :
    service.store.Concludes (operation service.store)
      (Service.Local.onStore operation service).1
      (Service.Local.onStore operation service).2.store := by
  cases operated : operation service.store with
  | error failure =>
      rw [Service.Local.onStore_error operation operated]
      exact ⟨rfl, rfl⟩
  | ok concluded =>
      rw [Service.Local.onStore_ok operation operated]
      exact ⟨rfl, rfl⟩

private theorem runIn_sign {α : Type} (dialogue : Dialogue Signing α) (service : Service.Local) :
    dialogue.MayEnd (dialogue.runIn Service.Local.sign service).1 ∧
      (dialogue.runIn Service.Local.sign service).2.store = service.store := by
  induction dialogue generalizing service with
  | done value => exact ⟨.done value, rfl⟩
  | ask request next ih =>
      have signed := ih (Service.Local.sign request service).1 (Service.Local.sign request service).2
      exact ⟨.ask _ signed.1, signed.2⟩

theorem answers_of_local (request : Service.Request) (service : Service.Local) :
    service.store.Answers request (Service.Local.answer request service).1
      (Service.Local.answer request service).2.store := by
  cases request with
  | findAccount email => exact ⟨rfl, rfl⟩
  | createAccount account =>
      refine ⟨AccountId.ofRandom (service.supply service.draws 16), service.now, ?_⟩
      exact onStore_concludes { service with draws := service.draws + 1 } fun store =>
        store.createAccount account (AccountId.ofRandom (service.supply service.draws 16)) service.now
  | createAccountWith account issue =>
      have signed := runIn_sign
        (service.store.createAccountWith account
          (AccountId.ofRandom (service.supply service.draws 16)) service.now issue)
        { service with draws := service.draws + 1 }
      exact ⟨AccountId.ofRandom (service.supply service.draws 16), service.now, signed.1⟩
  | writeLock account => exact onStore_concludes service fun store => store.writeLock account
  | findAttempts email => exact ⟨rfl, rfl⟩
  | writeAttempts attempt => exact onStore_concludes service fun store => store.writeAttempts attempt
  | hash password => rfl
  | verify hash password => exact ⟨Or.inl ⟨_, rfl⟩, rfl⟩
  | sign request => exact ⟨Or.inl ⟨_, rfl⟩, rfl⟩
  | readToken kind token => rfl
  | exchange code => rfl
  | random count => rfl
  | clock => rfl

theorem exists_answer (store : Memory) (request : Service.Request) :
    ∃ reply after, store.Answers request reply after := by
  let service : Service.Local :=
    { issuer := ⟨[], "", "", .ofSeconds 0, .ofSeconds 0⟩
      hasher := .plain
      exchange := fun _code => .error .wrongCredentials
      now := .epoch
      supply := fun _draw _count => []
      store }
  exact ⟨_, _, answers_of_local request service⟩

end Store.Memory

end Latchkey
