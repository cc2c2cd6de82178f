/-
Stores as they are before anybody signs in: every account was created for a user, and no
email has a record. The lock fields of such accounts fit together.
-/

import Latchkey.Proofs.Lockout.Attempts
import Latchkey.Proofs.Lockout.Consistency

namespace Latchkey

open Time (Instant)

/-- An account as it is when a user has just got it. -/
structure Account.IsNewFor (account : Account) (email : Email) : Prop where
  email : account.email = email
  role : account.role = .user
  status : account.status = .active
  failures : account.failures = 0
  lockedUntil : account.lockedUntil = none
  lockLevel : account.lockLevel = 0
  lastFailure : account.lastFailure = none
  version : account.version = 0

theorem Account.IsNewFor.create {account : NewAccount} (user : account.role = .user)
    (active : account.status = .active) (id : AccountId) (now : Instant) :
    (Account.create account id now).IsNewFor account.email :=
  ⟨rfl, user, active, rfl, rfl, rfl, rfl, rfl⟩

namespace Store.Memory

/-- Whether a store came about by creating accounts for users, one after another. -/
inductive OfNewUsers : Memory → Prop
  | empty : OfNewUsers .empty
  | create {store after : Memory} {created : Account} (name : DisplayName) (email : Email)
      (passwordHash : String) (id : AccountId) (now : Instant) :
      OfNewUsers store →
      store.createAccount { name, email, passwordHash } id now = .ok (created, after) →
      OfNewUsers after

variable {store after : Memory} {policy : LockoutPolicy}

theorem createAccount_eq_ok {account : NewAccount} {id : AccountId} {now : Instant}
    {created : Account} :
    store.createAccount account id now = .ok (created, after) ↔
      store.findAccount account.email = none ∧ created = Account.create account id now ∧
        after = store.withAccount (Account.create account id now) := by
  unfold createAccount
  cases store.findAccount account.email with
  | none => simp [eq_comm]
  | some taken => simp

namespace OfNewUsers

theorem findAttempts (users : store.OfNewUsers) (email : Email) :
    store.findAttempts email = none := by
  induction users with
  | empty => rfl
  | create name taken passwordHash id now _users created ih =>
      obtain ⟨_free, _created, rfl⟩ := createAccount_eq_ok.mp created
      exact ih

theorem attemptsOf (users : store.OfNewUsers) (email : Email) :
    store.attemptsOf email = .fresh email := by
  unfold Memory.attemptsOf
  rw [users.findAttempts]
  rfl

theorem keyed (users : store.OfNewUsers) : store.Keyed := by
  induction users with
  | empty =>
      constructor
      · intro email row found
        cases found
      · intro email attempt found
        cases found
  | create name email passwordHash id now _users created ih =>
      obtain ⟨_free, _created, rfl⟩ := createAccount_eq_ok.mp created
      exact ih.withAccount _

theorem exists_create (users : store.OfNewUsers) {email : Email} {row : Account}
    (found : store.findAccount email = some row) :
    ∃ account id now, account.status = .active ∧ row = Account.create account id now := by
  induction users with
  | empty => cases found
  | create name own passwordHash id now _users created ih =>
      obtain ⟨_free, _created, rfl⟩ := createAccount_eq_ok.mp created
      rw [findAccount_withAccount] at found
      split at found
      · cases found
        exact ⟨{ name, email := own, passwordHash }, id, now, rfl, rfl⟩
      · exact ih found

theorem lockConsistent (users : store.OfNewUsers) (positive : 1 ≤ policy.threshold) {email : Email}
    {row : Account} (found : store.findAccount email = some row) : row.LockConsistent policy := by
  obtain ⟨account, id, now, active, rfl⟩ := users.exists_create found
  exact Account.lockConsistent_create id now positive active

end OfNewUsers

end Store.Memory

end Latchkey
