/-
Everything that is ever asked of the store in memory, in any sequence. An operation either
does what its name says, and nothing else, or fails, and then the store is as it was; which
of the two happens is told by the store before it and, where a callback takes part, by what
that comes to. Throughout, each account and each record stands in the one place of its email.
-/

import Latchkey.Proofs.Service.Company

namespace Latchkey

open Time (Instant)

/-- Whether an account is a stored one with the lock fields of another and the next version. -/
structure Account.Relocks (stored given written : Account) : Prop where
  remains : stored.Remains written
  status : written.status = given.status
  failures : written.failures = given.failures
  lockedUntil : written.lockedUntil = given.lockedUntil
  lockLevel : written.lockLevel = given.lockLevel
  lastFailure : written.lastFailure = given.lastFailure
  updatedAt : written.updatedAt = given.updatedAt
  version : written.version = stored.version + 1

namespace Store.Memory

variable {interface : Interface} {α : Type} {store before after : Memory}

/-- The callback of a creation may ask others for something on its way. -/
inductive Operation (interface : Interface) (α : Type) where
  | findAccount (email : Email)
  | createAccount (account : NewAccount) (id : AccountId) (now : Instant)
  | createAccountWith (account : NewAccount) (id : AccountId) (now : Instant)
      (callback : Account → Dialogue interface (Except Failure α))
  | writeLock (account : Account)
  | findAttempts (email : Email)
  | writeAttempts (attempt : AttemptRecord)

namespace Operation

abbrev Value : Operation interface α → Type
  | findAccount _ => Option Account
  | createAccount _ _ _ => Account
  | createAccountWith _ _ _ _ => Account × α
  | writeLock _ => Account
  | findAttempts _ => Option AttemptRecord
  | writeAttempts _ => AttemptRecord

def perform (store : Memory) : (operation : Operation interface α) →
    Dialogue interface (Except Failure operation.Value × Memory)
  | findAccount email => .done (.ok (store.findAccount email), store)
  | createAccount account id now => .done (store.conclusion (store.createAccount account id now))
  | createAccountWith account id now callback => store.createAccountWith account id now callback
  | writeLock account => .done (store.conclusion (store.writeLock account))
  | findAttempts email => .done (.ok (store.findAttempts email), store)
  | writeAttempts attempt => .done (store.conclusion (store.writeAttempts attempt))

def isOnAccounts : Operation interface α → Bool
  | findAccount _ | createAccount _ _ _ | createAccountWith _ _ _ _ | writeLock _ => true
  | findAttempts _ | writeAttempts _ => false

end Operation

structure GainsAccount (before : Memory) (account : Account) (after : Memory) : Prop where
  accounts : ∀ email, after.findAccount email =
    if email = account.email then some account else before.findAccount email
  attempts : after.attempts = before.attempts

structure GainsAttempts (before : Memory) (attempt : AttemptRecord) (after : Memory) : Prop where
  attempts : ∀ email, after.findAttempts email =
    if email = attempt.email then some attempt else before.findAttempts email
  accounts : after.accounts = before.accounts

namespace Operation

/-- What an operation that succeeds has done, and on which condition. -/
def Does (before after : Memory) : (operation : Operation interface α) → operation.Value → Prop
  | findAccount email, found => found = before.findAccount email ∧ after = before
  | createAccount account id now, created =>
      before.findAccount account.email = none ∧ created = .create account id now ∧
        before.GainsAccount created after
  | createAccountWith account id now callback, (created, value) =>
      before.findAccount account.email = none ∧ created = .create account id now ∧
        (callback created).MayEnd (.ok value) ∧ before.GainsAccount created after
  | writeLock account, written =>
      ∃ stored, before.findAccount account.email = some stored ∧ stored.id = account.id ∧
        stored.version = account.version ∧ stored.Relocks account written ∧
          before.GainsAccount written after
  | findAttempts email, found => found = before.findAttempts email ∧ after = before
  | writeAttempts attempt, written =>
      before.attemptVersion attempt.email = attempt.version ∧
        written = { attempt with version := attempt.version + 1 } ∧
          before.GainsAttempts written after

/-- Why an operation fails, and with what. -/
def Fails (before : Memory) : Operation interface α → Failure → Prop
  | findAccount _, _ => False
  | createAccount account _ _, failure =>
      before.findAccount account.email ≠ none ∧ failure = .emailTaken
  | createAccountWith account id now callback, failure =>
      before.findAccount account.email ≠ none ∧ failure = .emailTaken ∨
        before.findAccount account.email = none ∧
          (callback (.create account id now)).MayEnd (.error failure)
  | writeLock account, failure =>
      failure = .accountMissing ∧
          (∀ stored, before.findAccount account.email = some stored → stored.id ≠ account.id) ∨
        failure = .staleWrite ∧ ∃ stored, before.findAccount account.email = some stored ∧
          stored.id = account.id ∧ stored.version ≠ account.version
  | findAttempts _, _ => False
  | writeAttempts attempt, failure =>
      failure = .staleWrite ∧ before.attemptVersion attempt.email ≠ attempt.version

end Operation

/-- Whether each account and each record stands in the one place of its email. -/
structure Orderly (store : Memory) : Prop where
  accounts : store.accounts.Orderly (·.email)
  attempts : store.attempts.Orderly (·.email)

structure Step (interface : Interface) (α : Type) where
  operation : Operation interface α
  before : Memory
  outcome : Except Failure operation.Value
  after : Memory
  performed : (operation.perform before).MayEnd (outcome, after)

structure Step.Lawful (step : Step interface α) : Prop where
  orderlyBefore : step.before.Orderly
  orderlyAfter : step.after.Orderly
  succeeded : ∀ value, step.outcome = .ok value →
    step.operation.Does step.before step.after value
  failed : ∀ failure, step.outcome = .error failure →
    step.after = step.before ∧ step.operation.Fails step.before failure
  otherShelf :
    if step.operation.isOnAccounts then step.after.attempts = step.before.attempts
    else step.after.accounts = step.before.accounts
  lockTaken_iff : ∀ account, step.operation = .writeLock account →
    (step.outcome.isOk = true ↔
      ∃ stored, step.before.findAccount account.email = some stored ∧ stored.id = account.id ∧
        stored.version = account.version)
  attemptsTaken_iff : ∀ attempt, step.operation = .writeAttempts attempt →
    (step.outcome.isOk = true ↔ step.before.attemptVersion attempt.email = attempt.version)

theorem orderly_empty : Memory.empty.Orderly :=
  ⟨ByEmail.orderly_empty _, ByEmail.orderly_empty _⟩

theorem gainsAccount_withAccount (store : Memory) (account : Account) :
    store.GainsAccount account (store.withAccount account) :=
  ⟨findAccount_withAccount store account, rfl⟩

theorem Orderly.withAccount (orderly : store.Orderly) (account : Account) :
    (store.withAccount account).Orderly := ⟨orderly.accounts.put rfl, orderly.attempts⟩

theorem Orderly.withAttempts (orderly : store.Orderly) (attempt : AttemptRecord) :
    (store.withAttempts attempt).Orderly := ⟨orderly.accounts, orderly.attempts.put rfl⟩

theorem gainsAttempts_withAttempts (store : Memory) (attempt : AttemptRecord) :
    store.GainsAttempts attempt (store.withAttempts attempt) :=
  ⟨findAttempts_withAttempts store attempt, rfl⟩

theorem Orderly.put_relocked (orderly : store.Orderly) {stored account : Account}
    (found : store.findAccount account.email = some stored) :
    ({ store with accounts := store.accounts.put account.email (relocked stored account) } :
      Memory) = store.withAccount (relocked stored account) := by
  have own : stored.email = account.email := orderly.accounts.own_of_find found
  change _ = ({ store with
    accounts := store.accounts.put stored.email (relocked stored account) } : Memory)
  rw [own]

theorem relocks_relocked (stored account : Account) :
    stored.Relocks account (relocked stored account) where
  remains := .relocked stored account
  status := rfl
  failures := rfl
  lockedUntil := rfl
  lockLevel := rfl
  lastFailure := rfl
  updatedAt := rfl
  version := rfl

theorem conclusion_eq_ok {operation : Except Failure (α × Memory)} {value : α} :
    store.conclusion operation = (.ok value, after) ↔ operation = .ok (value, after) := by
  cases operation with
  | error failure => simp [conclusion]
  | ok concluded => simp [conclusion, Prod.ext_iff]

theorem conclusion_eq_error {operation : Except Failure (α × Memory)} {failure : Failure} :
    store.conclusion operation = (.error failure, after) ↔
      operation = .error failure ∧ after = store := by
  cases operation with
  | error reason => simp [conclusion, eq_comm]
  | ok concluded => simp [conclusion]

theorem mayEnd_done {value other : α} :
    (.done value : Dialogue interface α).MayEnd other ↔ other = value := by
  rw [Dialogue.mayEnd_iff_endsBy, Dialogue.endsBy_done]

theorem mayEnd_runIn (answer : (request : interface.Request) → Id (interface.Reply request))
    (dialogue : Dialogue interface α) : dialogue.MayEnd (dialogue.runIn answer) := by
  induction dialogue with
  | done value => exact .done value
  | ask request next ih => exact .ask _ (ih _)

/-- The shelf that an operation is on is as it was, or one value more or newer stands there. -/
inductive Operation.Writes (before : Memory) : Operation interface α → Memory → Prop
  | nothing (operation : Operation interface α) : Writes before operation before
  | account {operation : Operation interface α} (account : Account) :
      operation.isOnAccounts = true → Writes before operation (before.withAccount account)
  | attempts {operation : Operation interface α} (attempt : AttemptRecord) :
      operation.isOnAccounts = false → Writes before operation (before.withAttempts attempt)

theorem Operation.Writes.orderly {operation : Operation interface α}
    (writes : operation.Writes before after) (orderly : before.Orderly) : after.Orderly := by
  cases writes with
  | nothing => exact orderly
  | account account _onAccounts => exact orderly.withAccount account
  | attempts attempt _onAttempts => exact orderly.withAttempts attempt

theorem Operation.Writes.otherShelf {operation : Operation interface α}
    (writes : operation.Writes before after) :
    if operation.isOnAccounts then after.attempts = before.attempts
    else after.accounts = before.accounts := by
  cases writes with
  | nothing => split <;> rfl
  | account account onAccounts => rw [if_pos onAccounts]; rfl
  | attempts attempt onAttempts => rw [onAttempts]; rfl

def Operation.ComesTo (before after : Memory) (operation : Operation interface α) :
    Except Failure operation.Value → Prop
  | .ok value => operation.Does before after value
  | .error failure => after = before ∧ operation.Fails before failure

private theorem createAccount_comesTo {account : NewAccount} {id : AccountId} {now : Instant}
    {outcome : Except Failure Account}
    (performed : ((.createAccount account id now : Operation interface α).perform before).MayEnd
      (outcome, after)) :
    (.createAccount account id now : Operation interface α).Writes before after ∧
      (.createAccount account id now : Operation interface α).ComesTo before after outcome := by
  have concluded := (mayEnd_done.mp performed).symm
  cases outcome with
  | error failure =>
      obtain ⟨refused, rfl⟩ := conclusion_eq_error.mp concluded
      refine ⟨.nothing _, rfl, ?_⟩
      unfold Memory.createAccount at refused
      cases there : after.findAccount account.email with
      | none =>
          rw [there] at refused
          cases refused
      | some row =>
          rw [there] at refused
          cases refused
          exact ⟨by rw [there]; exact Option.some_ne_none row, rfl⟩
  | ok created =>
      obtain ⟨absent, rfl, rfl⟩ := createAccount_eq_ok.mp (conclusion_eq_ok.mp concluded)
      exact ⟨.account _ rfl, absent, rfl, gainsAccount_withAccount before _⟩

private theorem createAccountWith_comesTo {account : NewAccount} {id : AccountId} {now : Instant}
    {callback : Account → Dialogue interface (Except Failure α)}
    {outcome : Except Failure (Account × α)}
    (performed : ((.createAccountWith account id now callback :
      Operation interface α).perform before).MayEnd (outcome, after)) :
    (.createAccountWith account id now callback : Operation interface α).Writes before after ∧
      (.createAccountWith account id now callback :
        Operation interface α).ComesTo before after outcome := by
  have ended := Dialogue.mayEnd_iff_endsBy.mp performed
  rcases endsBy_createAccountWith.mp ended with ⟨taken, rfl, rfl⟩ | ⟨absent, issued, told, same⟩
  · exact ⟨.nothing _, rfl, Or.inl ⟨taken, rfl⟩⟩
  · have mayEnd := Dialogue.mayEnd_iff_endsBy.mpr told
    cases issued with
    | error failure =>
        obtain ⟨rfl, rfl⟩ := same
        exact ⟨.nothing _, rfl, Or.inr ⟨absent, mayEnd⟩⟩
    | ok value =>
        obtain ⟨rfl, rfl⟩ := same
        exact ⟨.account _ rfl, absent, rfl, mayEnd, gainsAccount_withAccount before _⟩

private theorem writeLock_comesTo (orderly : before.Orderly) {account : Account}
    {outcome : Except Failure Account}
    (performed : ((.writeLock account : Operation interface α).perform before).MayEnd
      (outcome, after)) :
    (.writeLock account : Operation interface α).Writes before after ∧
      (.writeLock account : Operation interface α).ComesTo before after outcome := by
  have concluded := (mayEnd_done.mp performed).symm
  cases outcome with
  | error failure =>
      obtain ⟨refused, rfl⟩ := conclusion_eq_error.mp concluded
      exact ⟨.nothing _, rfl, writeLock_eq_error.mp refused⟩
  | ok written =>
      obtain ⟨stored, found, sameId, current, rfl, rfl⟩ :=
        writeLock_eq_ok.mp (conclusion_eq_ok.mp concluded)
      rw [orderly.put_relocked found]
      exact ⟨.account _ rfl, stored, found, sameId, current, relocks_relocked stored account,
        gainsAccount_withAccount before _⟩

private theorem writeAttempts_comesTo {attempt : AttemptRecord}
    {outcome : Except Failure AttemptRecord}
    (performed : ((.writeAttempts attempt : Operation interface α).perform before).MayEnd
      (outcome, after)) :
    (.writeAttempts attempt : Operation interface α).Writes before after ∧
      (.writeAttempts attempt : Operation interface α).ComesTo before after outcome := by
  have concluded := (mayEnd_done.mp performed).symm
  cases outcome with
  | error failure =>
      obtain ⟨refused, rfl⟩ := conclusion_eq_error.mp concluded
      exact ⟨.nothing _, rfl, writeAttempts_eq_error.mp refused⟩
  | ok written =>
      obtain ⟨current, rfl, rfl⟩ := writeAttempts_eq_ok.mp (conclusion_eq_ok.mp concluded)
      exact ⟨.attempts { attempt with version := attempt.version + 1 } rfl, current, rfl,
        gainsAttempts_withAttempts before { attempt with version := attempt.version + 1 }⟩

theorem Operation.comesTo (orderly : before.Orderly) (operation : Operation interface α)
    {outcome : Except Failure operation.Value}
    (performed : (operation.perform before).MayEnd (outcome, after)) :
    operation.Writes before after ∧ operation.ComesTo before after outcome := by
  cases operation with
  | findAccount email =>
      cases mayEnd_done.mp performed
      exact ⟨.nothing _, rfl, rfl⟩
  | createAccount account id now => exact createAccount_comesTo performed
  | createAccountWith account id now callback => exact createAccountWith_comesTo performed
  | writeLock account => exact writeLock_comesTo orderly performed
  | findAttempts email =>
      cases mayEnd_done.mp performed
      exact ⟨.nothing _, rfl, rfl⟩
  | writeAttempts attempt => exact writeAttempts_comesTo performed

theorem Step.lawful (step : Step interface α) (orderly : step.before.Orderly) : step.Lawful := by
  obtain ⟨operation, before, outcome, after, performed⟩ := step
  obtain ⟨writes, comesTo⟩ : operation.Writes before after ∧
      operation.ComesTo before after outcome := operation.comesTo orderly performed
  refine ⟨orderly, writes.orderly orderly, ?_, ?_, writes.otherShelf, ?_, ?_⟩
  · intro value same
    change outcome = .ok value at same
    rw [same] at comesTo
    exact comesTo
  · intro failure same
    change outcome = .error failure at same
    rw [same] at comesTo
    exact comesTo
  · intro account same
    subst same
    cases outcome with
    | ok written =>
        obtain ⟨stored, found, sameId, current, _done⟩ := comesTo
        exact iff_of_true rfl ⟨stored, found, sameId, current⟩
    | error failure =>
        refine iff_of_false Bool.false_ne_true ?_
        intro expected
        obtain ⟨stored, found, sameId, current⟩ := expected
        rcases comesTo.2 with ⟨_missing, otherIds⟩ | ⟨_stale, row, there, _sameId, other⟩
        · exact otherIds stored found sameId
        · rw [found] at there
          cases there
          exact other current
  · intro attempt same
    subst same
    cases outcome with
    | ok written => exact iff_of_true rfl comesTo.1
    | error failure => exact iff_of_false Bool.false_ne_true comesTo.2.2

/-- The store after steps of which the latest stands first, the first one on an empty store. -/
def latest : List (Step interface α) → Memory
  | [] => .empty
  | step :: _ => step.after

/-- Whether each step starts from the store that those before it left. -/
def Follow : List (Step interface α) → Prop
  | [] => True
  | step :: earlier => step.before = latest earlier ∧ Follow earlier

theorem orderly_latest {steps : List (Step interface α)} (follow : Follow steps) :
    (latest steps).Orderly := by
  induction steps with
  | nil => exact orderly_empty
  | cons step earlier ih =>
      obtain ⟨linked, before⟩ := follow
      exact (step.lawful (linked ▸ ih before)).orderlyAfter

/-- Whatever is asked of a store from when it is empty, in whatever order: every operation keeps
to what it promises, and one that fails changes nothing. -/
theorem lawful_of_follow {steps : List (Step interface α)} (follow : Follow steps)
    {step : Step interface α} (member : step ∈ steps) : step.Lawful := by
  induction steps with
  | nil => cases member
  | cons last earlier ih =>
      obtain ⟨linked, before⟩ := follow
      rcases List.mem_cons.mp member with rfl | among
      · exact step.lawful (linked ▸ orderly_latest before)
      · exact ih before among

def Step.played (answer : (request : interface.Request) → Id (interface.Reply request))
    (before : Memory) (operation : Operation interface α) : Step interface α where
  operation := operation
  before := before
  outcome := ((operation.perform before).runIn answer).1
  after := ((operation.perform before).runIn answer).2
  performed := mayEnd_runIn answer _

def played (answer : (request : interface.Request) → Id (interface.Reply request)) :
    List (Operation interface α) → List (Step interface α)
  | [] => []
  | operation :: earlier =>
      .played answer (latest (played answer earlier)) operation :: played answer earlier

theorem follow_played (answer : (request : interface.Request) → Id (interface.Reply request))
    (operations : List (Operation interface α)) : Follow (played answer operations) := by
  induction operations with
  | nil => trivial
  | cons operation earlier ih => exact ⟨rfl, ih⟩

/-- One account, then another whose tokens cannot be signed. -/
def unsigned : List (Step Signing Token.Pair) :=
  played (fun _request => .error (.signingFailed "no key"))
    [.createAccountWith { name := ⟨"Bob"⟩, email := ⟨"bob@b.org"⟩, passwordHash := "" }
        (.ofRandom [2]) .epoch (fun account => Signing.pair account.identity),
      .createAccount { name := ⟨"Ada"⟩, email := ⟨"ada@b.org"⟩, passwordHash := "" }
        (.ofRandom [1]) .epoch]

theorem lawful_of_follow_unsigned :
    Follow unsigned ∧ ∃ step ∈ unsigned, step.outcome.isOk = false ∧ step.after.size = 1 ∧
      step.Lawful := by
  have follow : Follow unsigned := follow_played _ _
  have last : Step.played _ _ _ ∈ unsigned := List.mem_cons_self
  exact ⟨follow, _, last, rfl, rfl, lawful_of_follow follow last⟩

end Store.Memory

end Latchkey
