/-
Rows that were read from the store in memory and written back on a condition. A row that
was seen once is never newer than the one under its email, and it is that one where the
versions agree. So a conditional write of a seen row replaces just that row or comes too
late, and no row that anybody saw is taken for another afterwards.
-/

import Latchkey.Store.Memory

namespace Latchkey

def Account.next (account : Account) : Account := { account with version := account.version + 1 }

def AttemptRecord.next (attempt : AttemptRecord) : AttemptRecord :=
  { attempt with version := attempt.version + 1 }

namespace Account

@[simp] theorem next_failures (account : Account) : account.next.failures = account.failures := rfl

@[simp] theorem next_lockLevel (account : Account) : account.next.lockLevel = account.lockLevel := rfl

end Account

namespace AttemptRecord

@[simp] theorem next_email (attempt : AttemptRecord) : attempt.next.email = attempt.email := rfl

@[simp] theorem next_failures (attempt : AttemptRecord) :
    attempt.next.failures = attempt.failures := rfl

end AttemptRecord

/-- Whether an account differs from a row at most in its lock fields. -/
def Account.OnlyRelocks (row changed : Account) : Prop :=
  changed = { row with
    status := changed.status
    failures := changed.failures
    lockedUntil := changed.lockedUntil
    lockLevel := changed.lockLevel
    lastFailure := changed.lastFailure
    updatedAt := changed.updatedAt }

theorem Account.OnlyRelocks.email {row changed : Account} (relocks : row.OnlyRelocks changed) :
    changed.email = row.email := by rw [relocks]

theorem Account.OnlyRelocks.id {row changed : Account} (relocks : row.OnlyRelocks changed) :
    changed.id = row.id := by rw [relocks]

theorem Account.OnlyRelocks.version {row changed : Account} (relocks : row.OnlyRelocks changed) :
    changed.version = row.version := by rw [relocks]

namespace Store.Memory

theorem relocked_of_onlyRelocks {row changed : Account} (relocks : row.OnlyRelocks changed) :
    relocked row changed = changed.next := by
  rw [relocks]
  rfl

def withAttempts (store : Memory) (attempt : AttemptRecord) : Memory :=
  { store with attempts := store.attempts.put attempt.email attempt }

/-- The record of an email as a caller comes to hold it: a fresh one where none is stored. -/
def attemptsOf (store : Memory) (email : Email) : AttemptRecord :=
  (store.findAttempts email).getD (.fresh email)

@[simp] theorem findAccount_withAccount (store : Memory) (account : Account) (email : Email) :
    (store.withAccount account).findAccount email
      = if email = account.email then some account else store.findAccount email :=
  ByEmail.find?_put _ _ _ _

@[simp] theorem findAttempts_withAttempts (store : Memory) (attempt : AttemptRecord)
    (email : Email) :
    (store.withAttempts attempt).findAttempts email
      = if email = attempt.email then some attempt else store.findAttempts email :=
  ByEmail.find?_put _ _ _ _

theorem attemptsOf_withAttempts (store : Memory) (attempt : AttemptRecord) (email : Email) :
    (store.withAttempts attempt).attemptsOf email
      = if email = attempt.email then attempt else store.attemptsOf email := by
  unfold attemptsOf
  rw [findAttempts_withAttempts]
  split <;> rfl

structure Keyed (store : Memory) : Prop where
  account : ∀ email account, store.findAccount email = some account → account.email = email
  attempt : ∀ email attempt, store.findAttempts email = some attempt → attempt.email = email

theorem Keyed.withAccount {store : Memory} (keyed : store.Keyed) (account : Account) :
    (store.withAccount account).Keyed where
  account := by
    intro email found present
    rw [findAccount_withAccount] at present
    split at present
    · cases present
      exact Eq.symm ‹_›
    · exact keyed.account email found present
  attempt := keyed.attempt

theorem Keyed.withAttempts {store : Memory} (keyed : store.Keyed) (attempt : AttemptRecord) :
    (store.withAttempts attempt).Keyed where
  account := keyed.account
  attempt := by
    intro email found present
    rw [findAttempts_withAttempts] at present
    split at present
    · cases present
      exact Eq.symm ‹_›
    · exact keyed.attempt email found present

theorem Keyed.attemptsOf_email {store : Memory} (keyed : store.Keyed) (email : Email) :
    (store.attemptsOf email).email = email := by
  unfold attemptsOf
  cases found : store.findAttempts email with
  | none => rfl
  | some attempt => exact keyed.attempt email attempt found

/-- Whether a row is or was under its email, as far as its version tells. -/
def Seen (store : Memory) (row : Account) : Prop :=
  ∃ stored, store.findAccount row.email = some stored ∧ stored.id = row.id ∧
    row.version ≤ stored.version ∧ (row.version = stored.version → stored = row)

theorem Keyed.seen {store : Memory} (keyed : store.Keyed) {email : Email} {row : Account}
    (found : store.findAccount email = some row) : store.Seen row := by
  have own := keyed.account email row found
  subst own
  exact ⟨row, found, rfl, Int.le_refl _, fun _same => rfl⟩

theorem writeLock_current {store : Memory} {row changed : Account}
    (found : store.findAccount row.email = some row) (relocks : row.OnlyRelocks changed) :
    store.writeLock changed = .ok (changed.next, store.withAccount changed.next) := by
  have sameEmail : changed.next.email = changed.email := rfl
  unfold Memory.writeLock withAccount
  rw [relocks.email, found, relocks.id, relocks.version, sameEmail, relocks.email]
  simp only [if_true, relocked_of_onlyRelocks relocks]

/-- A conditional write of a seen row comes too late or replaces exactly that row. -/
theorem Seen.writeLock {store : Memory} {row changed : Account} (seen : store.Seen row)
    (relocks : row.OnlyRelocks changed) :
    store.writeLock changed = .error .staleWrite ∨
      store.findAccount row.email = some row ∧
        store.writeLock changed = .ok (changed.next, store.withAccount changed.next) := by
  obtain ⟨stored, found, sameId, _older, same⟩ := seen
  by_cases current : stored.version = row.version
  · have isRow := same current.symm
    subst isRow
    exact Or.inr ⟨found, writeLock_current found relocks⟩
  · left
    unfold Memory.writeLock
    rw [relocks.email, found, relocks.id, relocks.version]
    simp only [sameId, if_true, if_neg current]

theorem Seen.after_write {store : Memory} {row changed other : Account}
    (found : store.findAccount row.email = some row) (relocks : row.OnlyRelocks changed)
    (seen : store.Seen other) : (store.withAccount changed.next).Seen other := by
  obtain ⟨stored, storedFound, storedId, older, same⟩ := seen
  have sameEmail : changed.next.email = row.email := relocks.email
  have sameId : changed.next.id = row.id := relocks.id
  have newer : changed.next.version = row.version + 1 := congrArg (· + 1) relocks.version
  unfold Seen
  rw [findAccount_withAccount]
  by_cases own : other.email = changed.next.email
  · rw [own, sameEmail, found] at storedFound
    cases storedFound
    refine ⟨changed.next, if_pos own, sameId.trans storedId, ?_, ?_⟩
    · omega
    · intro claimed
      omega
  · exact ⟨stored, by rw [if_neg own]; exact storedFound, storedId, older, same⟩

theorem seen_withAccount (store : Memory) (account : Account) :
    (store.withAccount account).Seen account := by
  refine ⟨account, ?_, rfl, Int.le_refl _, fun _same => rfl⟩
  rw [findAccount_withAccount, if_pos rfl]

def SeenAttempts (store : Memory) (attempt : AttemptRecord) : Prop :=
  attempt.version ≤ store.attemptVersion attempt.email ∧
    (attempt.version = store.attemptVersion attempt.email →
      store.attemptsOf attempt.email = attempt)

theorem attemptVersion_eq (store : Memory) (email : Email) :
    store.attemptVersion email = (store.attemptsOf email).version := by
  unfold attemptVersion attemptsOf
  cases store.findAttempts email <;> rfl

theorem Keyed.seenAttempts {store : Memory} (keyed : store.Keyed) (email : Email) :
    store.SeenAttempts (store.attemptsOf email) := by
  unfold SeenAttempts
  rw [keyed.attemptsOf_email, attemptVersion_eq]
  exact ⟨Int.le_refl _, fun _same => rfl⟩

theorem writeAttempts_current {store : Memory} {attempt changed : AttemptRecord}
    (current : store.attemptsOf attempt.email = attempt) (sameEmail : changed.email = attempt.email)
    (sameVersion : changed.version = attempt.version) :
    store.writeAttempts changed = .ok (changed.next, store.withAttempts changed.next) := by
  have version : store.attemptVersion changed.email = changed.version := by
    rw [attemptVersion_eq, sameEmail, current, sameVersion]
  exact if_pos version

theorem SeenAttempts.writeAttempts {store : Memory} {attempt changed : AttemptRecord}
    (seen : store.SeenAttempts attempt) (sameEmail : changed.email = attempt.email)
    (sameVersion : changed.version = attempt.version) :
    store.writeAttempts changed = .error .staleWrite ∨
      store.attemptsOf attempt.email = attempt ∧
        store.writeAttempts changed = .ok (changed.next, store.withAttempts changed.next) := by
  by_cases version : store.attemptVersion attempt.email = attempt.version
  · have current := seen.2 version.symm
    exact Or.inr ⟨current, writeAttempts_current current sameEmail sameVersion⟩
  · left
    unfold Memory.writeAttempts
    rw [sameEmail, sameVersion, if_neg version]

theorem SeenAttempts.after_write {store : Memory} {attempt changed other : AttemptRecord}
    (current : store.attemptsOf attempt.email = attempt) (sameEmail : changed.email = attempt.email)
    (sameVersion : changed.version = attempt.version) (seen : store.SeenAttempts other) :
    (store.withAttempts changed.next).SeenAttempts other := by
  have nextEmail : changed.next.email = attempt.email := sameEmail
  have newer : changed.next.version = attempt.version + 1 := congrArg (· + 1) sameVersion
  unfold SeenAttempts at seen ⊢
  rw [attemptVersion_eq] at seen ⊢
  by_cases own : other.email = changed.next.email
  · have held : (store.withAttempts changed.next).attemptsOf other.email = changed.next := by
      rw [attemptsOf_withAttempts, if_pos own]
    have older := seen.1
    rw [own, nextEmail, current] at older
    rw [held]
    constructor
    · omega
    · intro claimed
      omega
  · have held : (store.withAttempts changed.next).attemptsOf other.email
        = store.attemptsOf other.email := by
      rw [attemptsOf_withAttempts, if_neg own]
    rw [held]
    exact seen

theorem seenAttempts_withAttempts (store : Memory) (attempt : AttemptRecord) :
    (store.withAttempts attempt).SeenAttempts attempt := by
  have held : (store.withAttempts attempt).attemptsOf attempt.email = attempt := by
    rw [attemptsOf_withAttempts, if_pos rfl]
  unfold SeenAttempts
  rw [attemptVersion_eq, held]
  exact ⟨Int.le_refl _, fun _same => rfl⟩

end Store.Memory

end Latchkey
