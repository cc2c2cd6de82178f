/-
Company for the store in memory whose answers are settled beforehand, with any of them a
failure. Every choice of answers is a company, so that what holds in all companies holds
wherever a request may fail.
-/

import Latchkey.Proofs.Dialogue.Alone
import Latchkey.Proofs.Dialogue.Schedule
import Latchkey.Proofs.Service.Manner

namespace Latchkey

open Store (Memory)
open Time (Instant)

structure Company where
  told : (request : Service.Request) → Service.Reply request
  newId : AccountId
  now : Instant

def Store.Memory.conclusion {α : Type} (store : Memory) :
    Except Failure (α × Memory) → Except Failure α × Memory
  | .error failure => (.error failure, store)
  | .ok (value, after) => (.ok value, after)

namespace Company

def manner (company : Company) : Manner := fun request reply => reply = company.told request

def sign (company : Company) (request : Signing.Request) : Id (Signing.Reply request) :=
  company.told (.sign request)

def answer (company : Company) (request : Service.Request) :
    StateM Memory (Service.Reply request) := fun store =>
  match request with
  | .findAccount email => (.ok (store.findAccount email), store)
  | .createAccount account =>
      store.conclusion (store.createAccount account company.newId company.now)
  | .createAccountWith account issue =>
      (store.createAccountWith account company.newId company.now issue).runIn company.sign
  | .writeLock account => store.conclusion (store.writeLock account)
  | .findAttempts email => (.ok (store.findAttempts email), store)
  | .writeAttempts attempt => store.conclusion (store.writeAttempts attempt)
  | request => (company.told request, store)

variable (company : Company) (store : Memory)

private theorem concludes_conclusion {α : Type} (operation : Except Failure (α × Memory)) :
    store.Concludes operation (store.conclusion operation).1 (store.conclusion operation).2 := by
  cases operation <;> exact ⟨rfl, rfl⟩

theorem endsBy_runIn {α : Type} (dialogue : Dialogue Signing α) :
    dialogue.EndsBy company.manner.signs (dialogue.runIn company.sign) := by
  induction dialogue with
  | done value => exact .done value
  | ask request next ih => exact .ask _ rfl (ih _)

theorem runIn_relay {α : Type} (dialogue : Dialogue Signing α) :
    (dialogue.relay Service.Request.sign fun _ reply => reply : Dialogue Service α).runIn
        company.answer store
      = (dialogue.runIn company.sign, store) := by
  induction dialogue with
  | done value => rfl
  | ask request next ih => exact ih _

theorem serves (request : Service.Request) :
    store.Serves company.manner request (company.answer request store).1
      (company.answer request store).2 := by
  cases request with
  | createAccount account =>
      exact ⟨company.newId, company.now, concludes_conclusion store _⟩
  | createAccountWith account issue =>
      exact ⟨company.newId, company.now, company.endsBy_runIn _⟩
  | writeLock account => exact concludes_conclusion store _
  | writeAttempts attempt => exact concludes_conclusion store _
  | findAccount _ | findAttempts _ | hash _ | verify _ _ | sign _ | readToken _ _ | exchange _
  | random _ | clock => exact ⟨rfl, rfl⟩

def responder : @Session.Responder Memory Service (Memory.Serves company.manner) where
  reply := fun store request => (company.answer request store).1
  after := fun store request => (company.answer request store).2
  answered := company.serves

variable {company store}

theorem endsSo_findAccount {ends : Except Failure (Option Account) → Memory → Prop}
    (email : Email) :
    (Procedure.findAccount email).EndsSo company.answer store ends ↔
      ends (.ok (store.findAccount email)) store := Iff.rfl

theorem endsSo_hash {ends : Except Failure String → Memory → Prop} (password : Password) :
    (Procedure.hash password).EndsSo company.answer store ends ↔
      ends (company.told (.hash password)) store := Iff.rfl

theorem endsSo_exchange {ends : Except Failure ProviderUser → Memory → Prop} (code : String) :
    (Procedure.exchange code).EndsSo company.answer store ends ↔
      ends (company.told (.exchange code)) store := Iff.rfl

theorem endsSo_secret {ends : Except Failure String → Memory → Prop} (count : Nat) :
    (Procedure.secret count).EndsSo company.answer store ends ↔
      ends ((Secret.ofBytes (company.told (.random count))).mapError Secret.Fault.failure)
        store := Iff.rfl

theorem endsSo_issuePair (identity : Identity) :
    (Procedure.issuePair identity).EndsSo company.answer store fun outcome after =>
      after = store ∧ ∀ pair, outcome = .ok pair → company.manner.Issues identity pair := by
  have run : (Procedure.issuePair identity).run.runIn company.answer store
      = ((Signing.pair identity).runIn company.sign, store) :=
    company.runIn_relay store (Signing.pair identity)
  have issued := company.endsBy_runIn (Signing.pair identity)
  unfold Procedure.EndsSo
  rw [run]
  refine ⟨rfl, ?_⟩
  intro pair same
  change (Signing.pair identity).runIn company.sign = _ at same
  rw [same] at issued
  exact Manner.endsBy_pair_ok.mp issued

/-- A provider that vouches for one user, a hasher and an issuer that never fail. -/
def vouching : Company where
  told
    | .exchange _ => .ok { email := " Ada@B.org", emailVerified := true }
    | .hash _ => .ok "hashed"
    | .verify _ _ => .ok true
    | .sign request => .ok (request.kind.name ++ " for " ++ request.identity.email.text)
    | .random count => List.replicate count 0
    | .clock => .epoch
    | .findAccount _ => .ok none
    | .findAttempts _ => .ok none
    | .createAccount _ => .error .staleWrite
    | .createAccountWith _ _ => .error .staleWrite
    | .writeLock _ => .error .staleWrite
    | .writeAttempts _ => .error .staleWrite
    | .readToken _ _ => .error .accessTokenRejected
  newId := ⟨1⟩
  now := .epoch

end Company

end Latchkey
