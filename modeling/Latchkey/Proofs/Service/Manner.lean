/-
The store in memory with others around it of whom nothing is assumed: the hasher, the
issuer, the provider and the rest answer in any manner, and fail when they please. What is
done to the store is told by its operations. An account that is created together with its
tokens is there once both are issued; where one is not, the store is as it was.
-/

import Latchkey.Proofs.Store.Answers
import Latchkey.Proofs.Store.Keeping

namespace Latchkey

open Time (Instant)

/-- The answers that a dialogue may come to where its requests are answered in certain ways
only. -/
inductive Dialogue.EndsBy {interface : Interface} {α : Type}
    (may : (request : interface.Request) → interface.Reply request → Prop) :
    Dialogue interface α → α → Prop
  | done (value : α) : EndsBy may (.done value) value
  | ask {request : interface.Request} {next : interface.Reply request → Dialogue interface α}
      {value : α} (reply : interface.Reply request) :
      may request reply → EndsBy may (next reply) value → EndsBy may (.ask request next) value

namespace Dialogue

variable {interface : Interface} {α β : Type}
  {may : (request : interface.Request) → interface.Reply request → Prop}

theorem endsBy_done {value other : α} : EndsBy may (.done value) other ↔ other = value := by
  constructor
  · rintro ⟨⟩
    rfl
  · rintro rfl
    exact .done other

theorem endsBy_ask {request : interface.Request}
    {next : interface.Reply request → Dialogue interface α} {value : α} :
    EndsBy may (.ask request next) value ↔
      ∃ reply, may request reply ∧ EndsBy may (next reply) value := by
  constructor
  · rintro (_ | ⟨reply, answered, ended⟩)
    exact ⟨reply, answered, ended⟩
  · rintro ⟨reply, answered, ended⟩
    exact .ask reply answered ended

theorem endsBy_bind {dialogue : Dialogue interface α} {following : α → Dialogue interface β}
    {value : β} :
    EndsBy may (dialogue >>= following) value ↔
      ∃ first, EndsBy may dialogue first ∧ EndsBy may (following first) value := by
  induction dialogue with
  | done first => simp [endsBy_done]
  | ask request next ih =>
      rw [ask_bind, endsBy_ask]
      constructor
      · rintro ⟨reply, answered, ended⟩
        obtain ⟨first, reached, rest⟩ := (ih reply).mp ended
        exact ⟨first, .ask reply answered reached, rest⟩
      · rintro ⟨first, reached, rest⟩
        obtain ⟨reply, answered, before⟩ := endsBy_ask.mp reached
        exact ⟨reply, answered, (ih reply).mpr ⟨first, before, rest⟩⟩

theorem mayEnd_iff_endsBy {dialogue : Dialogue interface α} {value : α} :
    dialogue.MayEnd value ↔ dialogue.EndsBy (fun _request _reply => True) value := by
  constructor
  · intro ended
    induction ended with
    | done value => exact .done value
    | ask reply _ended ih => exact .ask reply trivial ih
  · intro ended
    induction ended with
    | done value => exact .done value
    | ask reply _answered _ended ih => exact .ask reply ih

end Dialogue

/-- Whether a failure says what only the store can tell: that an email is taken, or that an
account is missing. -/
def Failure.isOfStore : Failure → Bool
  | emailTaken | accountMissing => true
  | _ => false

/-- How those around the store may answer each request. -/
abbrev Manner := (request : Service.Request) → Service.Reply request → Prop

namespace Manner

def signs (manner : Manner) (request : Signing.Request) (reply : Signing.Reply request) : Prop :=
  manner (.sign request) reply

structure Issues (manner : Manner) (identity : Identity) (pair : Token.Pair) : Prop where
  access : manner.signs ⟨.access, identity⟩ (.ok pair.access)
  refresh : manner.signs ⟨.refresh, identity⟩ (.ok pair.refresh)

/-- Whether those around the store leave it to the store to speak of its accounts. -/
structure LeavesToStore (manner : Manner) : Prop where
  hash : ∀ password failure,
    manner (.hash password) (.error failure) → failure.isOfStore = false
  exchange : ∀ code failure, manner (.exchange code) (.error failure) → failure.isOfStore = false
  sign : ∀ request failure, manner (.sign request) (.error failure) → failure.isOfStore = false

variable {manner : Manner} {identity : Identity}

theorem endsBy_pair_ok {pair : Token.Pair} :
    (Signing.pair identity).EndsBy manner.signs (.ok pair) ↔ manner.Issues identity pair := by
  constructor
  · intro ended
    obtain ⟨first, accessTold, ended⟩ := Dialogue.endsBy_ask.mp ended
    cases first with
    | error failure => cases Dialogue.endsBy_done.mp ended
    | ok access =>
        obtain ⟨second, refreshTold, ended⟩ := Dialogue.endsBy_ask.mp ended
        cases second with
        | error failure => cases Dialogue.endsBy_done.mp ended
        | ok refresh =>
            cases Dialogue.endsBy_done.mp ended
            exact ⟨accessTold, refreshTold⟩
  · intro issues
    exact .ask (.ok pair.access) issues.access (.ask (.ok pair.refresh) issues.refresh (.done _))

theorem exists_sign_of_endsBy_pair {failure : Failure}
    (ended : (Signing.pair identity).EndsBy manner.signs (.error failure)) :
    ∃ kind, manner (.sign ⟨kind, identity⟩) (.error failure) := by
  obtain ⟨first, accessTold, ended⟩ := Dialogue.endsBy_ask.mp ended
  cases first with
  | error _ =>
      cases Dialogue.endsBy_done.mp ended
      exact ⟨.access, accessTold⟩
  | ok access =>
      obtain ⟨second, refreshTold, ended⟩ := Dialogue.endsBy_ask.mp ended
      cases second with
      | error _ =>
          cases Dialogue.endsBy_done.mp ended
          exact ⟨.refresh, refreshTold⟩
      | ok refresh => cases Dialogue.endsBy_done.mp ended

end Manner

namespace Store.Memory

def Serves (manner : Manner) (store : Memory) :
    (request : Service.Request) → Service.Reply request → Memory → Prop
  | .findAccount email, reply, after => reply = .ok (store.findAccount email) ∧ after = store
  | .createAccount account, reply, after =>
      ∃ id now, store.Concludes (store.createAccount account id now) reply after
  | .createAccountWith account issue, reply, after =>
      ∃ id now, (store.createAccountWith account id now issue).EndsBy manner.signs (reply, after)
  | .writeLock account, reply, after => store.Concludes (store.writeLock account) reply after
  | .findAttempts email, reply, after => reply = .ok (store.findAttempts email) ∧ after = store
  | .writeAttempts attempt, reply, after =>
      store.Concludes (store.writeAttempts attempt) reply after
  | request, reply, after => manner request reply ∧ after = store

variable {manner : Manner} {store after : Memory}

/-- The ways in which an account is created together with what is issued for it, or not. -/
inductive CreatedWith {α : Type} (store : Memory) (account : NewAccount)
    (issued : Account → Except Failure α → Prop) : Except Failure (Account × α) → Memory → Prop
  | taken {row : Account} :
      store.findAccount account.email = some row →
      CreatedWith store account issued (.error .emailTaken) store
  | undone {id : AccountId} {now : Instant} {failure : Failure} :
      issued (.create account id now) (.error failure) →
      CreatedWith store account issued (.error failure) store
  | kept {id : AccountId} {now : Instant} {value : α} :
      store.findAccount account.email = none →
      issued (.create account id now) (.ok value) →
      CreatedWith store account issued (.ok (.create account id now, value))
        (store.withAccount (.create account id now))

/-- To take the account away again is to have the store as it was: nobody was let in
between. -/
theorem endsBy_createAccountWith {interface : Interface} {α : Type}
    {may : (request : interface.Request) → interface.Reply request → Prop} {account : NewAccount}
    {id : AccountId} {now : Instant} {issue : Account → Dialogue interface (Except Failure α)}
    {reply : Except Failure (Account × α)} :
    (store.createAccountWith account id now issue).EndsBy may (reply, after) ↔
      store.findAccount account.email ≠ none ∧ reply = .error .emailTaken ∧ after = store ∨
        store.findAccount account.email = none ∧
          ∃ issued, (issue (.create account id now)).EndsBy may issued ∧
            match issued with
            | .error failure => reply = .error failure ∧ after = store
            | .ok value =>
                reply = .ok (.create account id now, value) ∧
                  after = store.withAccount (.create account id now) := by
  unfold createAccountWith createAccount
  cases absent : store.findAccount account.email with
  | some row => simp [Dialogue.endsBy_done]
  | none =>
      have undone : (store.withAccount (.create account id now)).withoutAccount
          (Account.create account id now).email = store :=
        congrArg (fun accounts => { store with accounts }) (ByEmail.remove_put absent _)
      simp only [ne_eq, not_true_eq_false, false_and, true_and, false_or]
      rw [Dialogue.endsBy_bind]
      constructor
      · intro ended
        obtain ⟨issued, told, ended⟩ := ended
        refine ⟨issued, told, ?_⟩
        cases issued with
        | error failure =>
            have finished := Prod.mk.inj (Dialogue.endsBy_done.mp ended)
            rw [undone] at finished
            exact finished
        | ok value => exact Prod.mk.inj (Dialogue.endsBy_done.mp ended)
      · intro issuing
        obtain ⟨issued, told, same⟩ := issuing
        refine ⟨issued, told, ?_⟩
        cases issued with
        | error failure =>
            obtain ⟨rfl, rfl⟩ := same
            apply Dialogue.endsBy_done.mpr
            rw [undone]
        | ok value =>
            obtain ⟨rfl, rfl⟩ := same
            exact Dialogue.endsBy_done.mpr rfl

theorem createdWith_of_endsBy {interface : Interface} {α : Type}
    {may : (request : interface.Request) → interface.Reply request → Prop} {account : NewAccount}
    {id : AccountId} {now : Instant} {issue : Account → Dialogue interface (Except Failure α)}
    {reply : Except Failure (Account × α)}
    (ended : (store.createAccountWith account id now issue).EndsBy may (reply, after)) :
    store.CreatedWith account (fun created => (issue created).EndsBy may) reply after := by
  rcases endsBy_createAccountWith.mp ended with ⟨taken, rfl, rfl⟩ | ⟨absent, issued, told, same⟩
  · obtain ⟨row, found⟩ := Option.ne_none_iff_exists'.mp taken
    exact .taken found
  · cases issued with
    | error failure =>
        obtain ⟨rfl, rfl⟩ := same
        exact .undone told
    | ok value =>
        obtain ⟨rfl, rfl⟩ := same
        exact .kept absent told

theorem Serves.createdWith {account : NewAccount}
    {issue : Account → Dialogue Signing (Except Failure Token.Pair)}
    {reply : Except Failure (Account × Token.Pair)}
    (served : store.Serves manner (.createAccountWith account issue) reply after) :
    store.CreatedWith account (fun created => (issue created).EndsBy manner.signs) reply after := by
  obtain ⟨id, now, ended⟩ := served
  exact createdWith_of_endsBy ended

private theorem Concludes.changes {α : Type} {operation : Except Failure (α × Memory)}
    {reply : Except Failure α} (concluded : store.Concludes operation reply after)
    (changes : ∀ value changed, operation = .ok (value, changed) → store.Changes changed) :
    store.Changes after := by
  cases operation with
  | error failure =>
      obtain ⟨_reply, rfl⟩ := concluded
      exact .idle rfl
  | ok concluded' =>
      obtain ⟨_reply, rfl⟩ := concluded
      exact changes _ _ rfl

theorem Serves.changes {request : Service.Request} {reply : Service.Reply request}
    (served : store.Serves manner request reply after) : store.Changes after := by
  cases request with
  | createAccount account =>
      obtain ⟨id, now, concluded⟩ := served
      exact concluded.changes fun _created _changed => changes_of_createAccount
  | createAccountWith account issue =>
      cases Serves.createdWith served with
      | taken _there => exact .idle rfl
      | undone _issued => exact .idle rfl
      | kept absent _issued => exact .created account _ _ absent
  | writeLock account =>
      exact Concludes.changes served fun _written _changed => changes_of_writeLock
  | writeAttempts attempt =>
      exact Concludes.changes served fun _written _changed => changes_of_writeAttempts
  | findAccount _ | findAttempts _ | hash _ | verify _ _ | sign _ | readToken _ _ | exchange _
  | random _ | clock =>
      obtain ⟨_reply, rfl⟩ := served
      exact .idle rfl

theorem serves_of_answers {request : Service.Request} {reply : Service.Reply request}
    (answered : store.Answers request reply after) :
    store.Serves (fun _request _reply => True) request reply after := by
  cases request with
  | createAccountWith account issue =>
      obtain ⟨id, now, ended⟩ := answered
      exact ⟨id, now, Dialogue.mayEnd_iff_endsBy.mp ended⟩
  | findAccount _ | createAccount _ | writeLock _ | findAttempts _ | writeAttempts _ =>
      exact answered
  | verify _ _ | sign _ => exact ⟨trivial, answered.2⟩
  | hash _ | readToken _ _ | exchange _ | random _ | clock => exact ⟨trivial, answered⟩

end Store.Memory

end Latchkey
