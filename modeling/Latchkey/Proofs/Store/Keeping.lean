/-
What a store never loses. There is at most one account for each email, and an account that
is there stays: nothing takes it away, and nothing but its lock fields changes. All that is
ever done to the accounts is told once, and both follow from it.
-/

import Latchkey.Proofs.Store.NewUsers

namespace Latchkey

open Time (Instant)

/-- Whether an account is still the one that a row once was; the lock fields may differ. -/
structure Account.Remains (row current : Account) : Prop where
  id : current.id = row.id
  email : current.email = row.email
  name : current.name = row.name
  passwordHash : current.passwordHash = row.passwordHash
  role : current.role = row.role
  createdAt : current.createdAt = row.createdAt

namespace Account.Remains

variable {row current later : Account}

theorem refl (row : Account) : row.Remains row := ⟨rfl, rfl, rfl, rfl, rfl, rfl⟩

theorem trans (first : row.Remains current) (second : current.Remains later) :
    row.Remains later where
  id := second.id.trans first.id
  email := second.email.trans first.email
  name := second.name.trans first.name
  passwordHash := second.passwordHash.trans first.passwordHash
  role := second.role.trans first.role
  createdAt := second.createdAt.trans first.createdAt

theorem identity (remains : row.Remains current) : current.identity = row.identity := by
  unfold Account.identity
  rw [remains.id, remains.email, remains.role]

theorem relocked (stored account : Account) :
    stored.Remains (Store.Memory.relocked stored account) := ⟨rfl, rfl, rfl, rfl, rfl, rfl⟩

end Account.Remains

namespace Store

namespace ByEmail

variable {α : Type} {email : Email} {value : α} {entries : List (Email × α)}

def Distinct (shelf : ByEmail α) : Prop := (shelf.entries.map (·.1)).Nodup

theorem findIn_eq_none : findIn email entries = none ↔ ∀ entry ∈ entries, entry.1 ≠ email := by
  induction entries with
  | nil => simp [findIn]
  | cons entry entries ih =>
      by_cases same : entry.1 = email
      · simp [findIn, same]
      · simp [findIn, same, ih]

theorem mem_of_findIn (found : findIn email entries = some value) : (email, value) ∈ entries := by
  induction entries with
  | nil => cases found
  | cons entry entries ih =>
      rw [findIn] at found
      split at found
      case isTrue same =>
        cases found
        subst same
        exact List.mem_cons_self
      case isFalse _other => exact List.mem_cons_of_mem _ (ih found)

theorem mem_putIn {entry : Email × α} (present : entry ∈ putIn email value entries) :
    entry = (email, value) ∨ entry ∈ entries := by
  induction entries with
  | nil => exact Or.inl (List.mem_singleton.mp present)
  | cons head entries ih =>
      rw [putIn] at present
      split at present
      case isTrue _same =>
        rcases List.mem_cons.mp present with atHead | inTail
        · exact Or.inl atHead
        · exact Or.inr (List.mem_cons_of_mem _ inTail)
      case isFalse _other =>
        rcases List.mem_cons.mp present with atHead | inTail
        · exact Or.inr (atHead ▸ List.mem_cons_self)
        · exact (ih inTail).imp_right (List.mem_cons_of_mem _)

theorem putIn_of_absent (absent : findIn email entries = none) (value : α) :
    putIn email value entries = entries ++ [(email, value)] := by
  induction entries with
  | nil => rfl
  | cons entry entries ih =>
      by_cases same : entry.1 = email
      · simp [findIn, same] at absent
      · rw [findIn, if_neg same] at absent
        simp [putIn, same, ih absent]

theorem Distinct.put {shelf : ByEmail α} (distinct : shelf.Distinct) (email : Email) (value : α) :
    (shelf.put email value).Distinct := by
  obtain ⟨entries⟩ := shelf
  change ((putIn email value entries).map (·.1)).Nodup
  change (entries.map (·.1)).Nodup at distinct
  induction entries with
  | nil => exact List.nodup_cons.mpr ⟨List.not_mem_nil, List.nodup_nil⟩
  | cons head entries ih =>
      rw [List.map_cons, List.nodup_cons] at distinct
      obtain ⟨fresh, rest⟩ := distinct
      rw [putIn]
      split
      case isTrue same =>
        subst same
        exact List.nodup_cons.mpr ⟨fresh, rest⟩
      case isFalse other =>
        refine List.nodup_cons.mpr ⟨?_, ih rest⟩
        intro again
        obtain ⟨entry, present, same⟩ := List.mem_map.mp again
        rcases mem_putIn present with written | before
        · subst written
          exact other same.symm
        · exact fresh (List.mem_map.mpr ⟨entry, before, same⟩)

/-- Whether each email has one place, and only values whose own email it is stand there. -/
structure Orderly (emailOf : α → Email) (shelf : ByEmail α) : Prop where
  distinct : shelf.Distinct
  own : ∀ entry ∈ shelf.entries, emailOf entry.2 = entry.1

theorem orderly_empty (emailOf : α → Email) : (empty : ByEmail α).Orderly emailOf where
  distinct := List.nodup_nil
  own := by
    intro entry present
    cases present

theorem Orderly.put {emailOf : α → Email} {shelf : ByEmail α} (orderly : shelf.Orderly emailOf)
    (own : emailOf value = email) : (shelf.put email value).Orderly emailOf where
  distinct := orderly.distinct.put email value
  own := by
    intro entry present
    rcases mem_putIn present with written | before
    · subst written
      exact own
    · exact orderly.own entry before

theorem Orderly.own_of_find {emailOf : α → Email} {shelf : ByEmail α}
    (orderly : shelf.Orderly emailOf) (found : shelf.find? email = some value) :
    emailOf value = email := orderly.own (email, value) (mem_of_findIn found)

end ByEmail

namespace Memory

variable {store after later : Memory} {email : Email} {row : Account}

/-- All the accounts with an email, wherever they stand. -/
def accountsWith (store : Memory) (email : Email) : List Account :=
  (store.accounts.entries.map (·.2)).filter (·.email = email)

structure OnePlaceEach (store : Memory) : Prop where
  distinct : store.accounts.Distinct
  own : ∀ entry ∈ store.accounts.entries, entry.2.email = entry.1

theorem onePlaceEach_empty : Memory.empty.OnePlaceEach where
  distinct := List.nodup_nil
  own := by
    intro entry present
    cases present

namespace OnePlaceEach

theorem email_of_find (places : store.OnePlaceEach) (found : store.findAccount email = some row) :
    row.email = email := places.own (email, row) (ByEmail.mem_of_findIn found)

private theorem filter_eq_findIn {entries : List (Email × Account)}
    (distinct : (entries.map (·.1)).Nodup) (own : ∀ entry ∈ entries, entry.2.email = entry.1)
    (email : Email) :
    (entries.map (·.2)).filter (·.email = email) = (ByEmail.findIn email entries).toList := by
  induction entries with
  | nil => rfl
  | cons head entries ih =>
      rw [List.map_cons, List.nodup_cons] at distinct
      obtain ⟨fresh, rest⟩ := distinct
      have following := ih rest fun entry present => own entry (List.mem_cons_of_mem _ present)
      have ofHead : head.2.email = head.1 := own head List.mem_cons_self
      rw [List.map_cons, List.filter_cons, ofHead, following, ByEmail.findIn]
      by_cases same : head.1 = email
      · have noOther : ByEmail.findIn email entries = none := by
          rw [ByEmail.findIn_eq_none]
          intro entry present again
          exact fresh (List.mem_map.mpr ⟨entry, present, again.trans same.symm⟩)
        simp [same, noOther]
      · simp [same]

theorem accountsWith_eq (places : store.OnePlaceEach) (email : Email) :
    store.accountsWith email = (store.findAccount email).toList :=
  filter_eq_findIn places.distinct places.own email

private theorem put (places : store.OnePlaceEach) {account : Account}
    (own : account.email = email) :
    ({ store with accounts := store.accounts.put email account } : Memory).OnePlaceEach := by
  have orderly : store.accounts.Orderly (·.email) := ⟨places.distinct, places.own⟩
  have kept := orderly.put own
  exact ⟨kept.distinct, kept.own⟩

end OnePlaceEach

/-- All that is done to the accounts of a store: nothing, a creation where there was no
account, or a write of the lock fields of the account that is there. -/
inductive Changes (store : Memory) : Memory → Prop
  | idle {after : Memory} : after.accounts = store.accounts → Changes store after
  | created (account : NewAccount) (id : AccountId) (now : Instant) :
      store.findAccount account.email = none →
      Changes store (store.withAccount (.create account id now))
  | relocked {stored : Account} (account : Account) :
      store.findAccount account.email = some stored →
      Changes store { store with
        accounts := store.accounts.put account.email (Memory.relocked stored account) }

def Keeps (store later : Memory) : Prop :=
  ∀ email row, store.findAccount email = some row →
    ∃ current, later.findAccount email = some current ∧ row.Remains current

theorem Keeps.refl (store : Memory) : store.Keeps store :=
  fun _email row found => ⟨row, found, .refl row⟩

theorem Keeps.trans (first : store.Keeps after) (second : after.Keeps later) :
    store.Keeps later := by
  intro email row found
  obtain ⟨current, there, remains⟩ := first email row found
  obtain ⟨last, still, same⟩ := second email current there
  exact ⟨last, still, remains.trans same⟩

theorem Changes.keeps (changes : store.Changes after) : store.Keeps after := by
  intro email row found
  cases changes with
  | idle same =>
      refine ⟨row, ?_, .refl row⟩
      unfold findAccount
      rw [same]
      exact found
  | created account id now absent =>
      have other : email ≠ (Account.create account id now).email := by
        intro same
        rw [same] at found
        exact Option.some_ne_none row (found.symm.trans absent)
      refine ⟨row, ?_, .refl row⟩
      rw [findAccount_withAccount, if_neg other]
      exact found
  | @relocked stored account there =>
      unfold findAccount
      rw [ByEmail.find?_put]
      by_cases same : email = account.email
      · rw [same, there] at found
        cases found
        exact ⟨_, if_pos same, .relocked row account⟩
      · exact ⟨row, (if_neg same).trans found, .refl row⟩

theorem Changes.onePlaceEach (changes : store.Changes after) (places : store.OnePlaceEach) :
    after.OnePlaceEach := by
  cases changes with
  | idle same =>
      constructor
      · rw [same]
        exact places.distinct
      · rw [same]
        exact places.own
  | created account id now _absent => exact places.put rfl
  | @relocked stored account there =>
      have own : stored.email = account.email := places.email_of_find there
      exact places.put own

/-- A write of lock fields is taken just when an account is there that has the same id and the
same version. -/
theorem writeLock_eq_ok {account written : Account} :
    store.writeLock account = .ok (written, after) ↔
      ∃ stored, store.findAccount account.email = some stored ∧ stored.id = account.id ∧
        stored.version = account.version ∧ written = relocked stored account ∧
          after = { store with accounts := store.accounts.put account.email written } := by
  unfold writeLock
  constructor
  · intro wrote
    split at wrote
    case h_1 _absent => cases wrote
    case h_2 stored found =>
      split at wrote
      case isFalse _otherId => cases wrote
      case isTrue sameId =>
        split at wrote
        case isFalse _stale => cases wrote
        case isTrue current =>
          cases wrote
          exact ⟨stored, found, sameId, current, rfl, rfl⟩
  · intro taken
    obtain ⟨stored, found, sameId, current, rfl, rfl⟩ := taken
    simp only [found, if_pos sameId, if_pos current]

theorem writeLock_eq_error {account : Account} {failure : Failure} :
    store.writeLock account = .error failure ↔
      failure = .accountMissing ∧
          (∀ stored, store.findAccount account.email = some stored → stored.id ≠ account.id) ∨
        failure = .staleWrite ∧ ∃ stored, store.findAccount account.email = some stored ∧
          stored.id = account.id ∧ stored.version ≠ account.version := by
  unfold writeLock
  cases store.findAccount account.email with
  | none => simp [eq_comm]
  | some stored =>
      by_cases sameId : stored.id = account.id
      · by_cases current : stored.version = account.version
        · simp [sameId, current]
        · simpa [sameId, current] using eq_comm
      · simpa [sameId] using eq_comm

theorem changes_of_writeLock {account written : Account}
    (wrote : store.writeLock account = .ok (written, after)) : store.Changes after := by
  obtain ⟨stored, found, _sameId, _current, rfl, rfl⟩ := writeLock_eq_ok.mp wrote
  exact .relocked account found

theorem changes_of_createAccount {account : NewAccount} {id : AccountId} {now : Instant}
    {created : Account} (made : store.createAccount account id now = .ok (created, after)) :
    store.Changes after := by
  obtain ⟨absent, rfl, rfl⟩ := createAccount_eq_ok.mp made
  exact .created account id now absent

theorem writeAttempts_eq_ok {attempt written : AttemptRecord} :
    store.writeAttempts attempt = .ok (written, after) ↔
      store.attemptVersion attempt.email = attempt.version ∧
        written = { attempt with version := attempt.version + 1 } ∧
          after = { store with attempts := store.attempts.put attempt.email written } := by
  unfold writeAttempts
  constructor
  · intro wrote
    split at wrote
    case isTrue current =>
      cases wrote
      exact ⟨current, rfl, rfl⟩
    case isFalse _stale => cases wrote
  · intro taken
    obtain ⟨current, rfl, rfl⟩ := taken
    exact if_pos current

theorem writeAttempts_eq_error {attempt : AttemptRecord} {failure : Failure} :
    store.writeAttempts attempt = .error failure ↔
      failure = .staleWrite ∧ store.attemptVersion attempt.email ≠ attempt.version := by
  unfold writeAttempts
  by_cases current : store.attemptVersion attempt.email = attempt.version
  · simp [current]
  · simp [current, eq_comm]

theorem changes_of_writeAttempts {attempt written : AttemptRecord}
    (wrote : store.writeAttempts attempt = .ok (written, after)) : store.Changes after := by
  obtain ⟨_current, _written, rfl⟩ := writeAttempts_eq_ok.mp wrote
  exact .idle rfl

end Memory

end Store

end Latchkey
