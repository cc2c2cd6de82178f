/-
Accounts and attempt records on their way into rows and back. What is bound for the columns of
a table reads back as what was written, with the counters cut off where the database ends, and
a row is read as it stands or not at all.
-/

import Mathlib.Algebra.Group.Nat.Defs
import Mathlib.Tactic.SplitIfs
import Latchkey.Store.Postgres

namespace Latchkey

theorem Role.ofCode?_eq_some {code : String} {role : Role} :
    ofCode? code = some role ↔ code = role.code := by
  constructor
  · intro known
    unfold ofCode? at known
    split_ifs at known with isUser isAdmin
    · cases known
      exact isUser
    · cases known
      exact isAdmin
  · rintro rfl
    exact ofCode?_code role

theorem Status.ofCode?_eq_some {code : String} {status : Status} :
    ofCode? code = some status ↔ code = status.code := by
  constructor
  · intro known
    unfold ofCode? at known
    split_ifs at known with isActive isInactive isLocked
    · cases known
      exact isActive
    · cases known
      exact isInactive
    · cases known
      exact isLocked
  · rintro rfl
    exact ofCode?_code status

theorem Role.exists_code_iff {code : String} :
    (∃ role : Role, code = role.code) ↔ code ∈ ["user", "admin"] := by
  constructor
  · rintro ⟨role, rfl⟩
    cases role <;> decide
  · intro known
    simp only [List.mem_cons, List.not_mem_nil, or_false] at known
    rcases known with rfl | rfl
    · exact ⟨.user, rfl⟩
    · exact ⟨.admin, rfl⟩

theorem Status.exists_code_iff {code : String} :
    (∃ status : Status, code = status.code) ↔ code ∈ ["active", "inactive", "locked"] := by
  constructor
  · rintro ⟨status, rfl⟩
    cases status <;> decide
  · intro known
    simp only [List.mem_cons, List.not_mem_nil, or_false] at known
    rcases known with rfl | rfl | rfl
    · exact ⟨.active, rfl⟩
    · exact ⟨.inactive, rfl⟩
    · exact ⟨.locked, rfl⟩

namespace Store.Postgres

open Time (Instant)

theorem toNatClampNeg_of_nonneg {value : Int32} (nonneg : 0 ≤ value) :
    (value.toNatClampNeg : Int) = value.toInt := by
  rw [← Int32.toNat_toInt, Int.toNat_of_nonneg (Int32.le_iff_toInt_le.mp nonneg)]

theorem readCount_of_toInt (column : String) {value : Int32} {count : UInt32}
    (shown : value.toInt = count.toNat) : readCount column value = .ok count := by
  have nonneg : 0 ≤ value := by
    rw [Int32.le_iff_toInt_le, shown]
    exact Int.natCast_nonneg _
  have same : value.toUInt32 = count := by
    rw [← UInt32.toNat_inj, Int32.toNat_toUInt32_of_le nonneg, ← Int32.toNat_toInt, shown,
      Int.toNat_natCast]
  rw [readCount, if_pos nonneg, same]

theorem toInt_storedCount (count : Nat) : (storedCount count).toInt = (min count maxCount : Nat) := by
  unfold storedCount maxCount
  exact Int32.toInt_ofInt_of_le (by omega) (by omega)

theorem toNat_ofNat_min (count : Nat) :
    (UInt32.ofNat (min count maxCount)).toNat = min count maxCount := by
  have fits : maxCount < UInt32.size := by decide
  exact UInt32.toNat_ofNat_of_lt' (Nat.lt_of_le_of_lt (Nat.min_le_right count maxCount) fits)

theorem readCount_storedCount (column : String) (count : Nat) :
    readCount column (storedCount count) = .ok (.ofNat (min count maxCount)) := by
  apply readCount_of_toInt
  rw [toInt_storedCount, toNat_ofNat_min]

theorem countIn_of_numberIn {cells : Cells} {column : String} {value : Int32}
    (bound : numberIn cells column = .ok value.toInt) : countIn cells column = .ok value := by
  rw [countIn, bound]
  change (if (Int32.ofInt value.toInt).toInt = value.toInt then
    Except.ok (Int32.ofInt value.toInt) else _) = _
  rw [Int32.ofInt_toInt, if_pos rfl]

/-- Every column of an account is read from the value that was bound for it. -/
theorem AccountRow.ofCells_values (row : AccountRow) :
    AccountRow.ofCells (accountColumns.zip row.values) = .ok row := by
  have failuresRead : countIn (accountColumns.zip row.values) "failed_login_attempts"
      = .ok row.failures := countIn_of_numberIn rfl
  have levelRead : countIn (accountColumns.zip row.values) "lock_escalation_level"
      = .ok row.lockLevel := countIn_of_numberIn rfl
  unfold ofCells
  rw [failuresRead, levelRead]
  obtain ⟨id, name, email, passwordHash, role, status, failures, lockedUntil, lockLevel,
    lastFailure, version, createdAt, updatedAt⟩ := row
  cases lockedUntil <;> cases lastFailure <;> rfl

theorem AttemptRow.ofCells_values (row : AttemptRow) (version : Int) :
    AttemptRow.ofCells (attemptColumns.zip (row.values ++ [.number version])) =
      .ok { row with version } := by
  have failuresRead : countIn (attemptColumns.zip (row.values ++ [.number version]))
      "failed_login_attempts" = .ok row.failures := countIn_of_numberIn rfl
  unfold ofCells
  rw [failuresRead]
  obtain ⟨email, failures, lockedUntil, lastFailure, version⟩ := row
  cases lockedUntil <;> cases lastFailure <;> rfl

theorem AccountRow.account_of_read {row : AccountRow} {role : Role} {status : Status}
    {failures lockLevel : UInt32} (roleRead : Role.ofCode? row.role = some role)
    (statusRead : Status.ofCode? row.status = some status)
    (failuresRead : readCount "failed_login_attempts" row.failures = .ok failures)
    (levelRead : readCount "lock_escalation_level" row.lockLevel = .ok lockLevel) :
    row.account = .ok
      { id := row.id, name := ⟨row.name⟩, email := ⟨row.email⟩, passwordHash := row.passwordHash
        role, status, failures := failures.toNat, lockedUntil := row.lockedUntil, lockLevel
        lastFailure := row.lastFailure, version := row.version, createdAt := row.createdAt
        updatedAt := row.updatedAt } := by
  simp [AccountRow.account, roleRead, statusRead, failuresRead, levelRead, bind, Except.bind, pure,
    Except.pure]

theorem AccountRow.account_ofAccount (account : Account) :
    (AccountRow.ofAccount account).account =
      .ok { account with
        failures := min account.failures maxCount
        lockLevel := .ofNat (min account.lockLevel.toNat maxCount) } := by
  have failuresRead := readCount_storedCount "failed_login_attempts" account.failures
  have levelRead := readCount_storedCount "lock_escalation_level" account.lockLevel.toNat
  have role : Role.ofCode? (ofAccount account).role = some account.role := Role.ofCode?_code _
  have status : Status.ofCode? (ofAccount account).status = some account.status :=
    Status.ofCode?_code _
  rw [account_of_read role status failuresRead levelRead, toNat_ofNat_min]
  rfl

theorem AttemptRow.record_ofRecord (attempt : AttemptRecord) (version : Int) :
    AttemptRow.record { AttemptRow.ofRecord attempt with version } =
      .ok { attempt with failures := min attempt.failures maxCount, version } := by
  have failuresRead := readCount_storedCount "failed_login_attempts" attempt.failures
  change (readCount _ (storedCount attempt.failures) >>= _) = _
  rw [failuresRead]
  change Except.ok _ = _
  rw [toNat_ofNat_min]
  rfl

/-- What is bound to insert an account reads back as the account, with its counters cut off. -/
theorem accountOfCells_inserting (account : Account) :
    accountOfCells (accountColumns.zip (inserting account).parameters) =
      .ok { account with
        failures := min account.failures maxCount
        lockLevel := .ofNat (min account.lockLevel.toNat maxCount) } := by
  rw [inserting, Statement.parameters, accountOfCells, AccountRow.ofCells_values]
  exact AccountRow.account_ofAccount account

theorem accountOfCells_inserting_of_lt {account : Account} (failures : account.failures < 2 ^ 31)
    (lockLevel : account.lockLevel.toNat < 2 ^ 31) :
    accountOfCells (accountColumns.zip (inserting account).parameters) = .ok account := by
  have keptFailures : min account.failures maxCount = account.failures :=
    Nat.min_eq_left (Nat.le_of_lt_succ failures)
  have keptLevel : min account.lockLevel.toNat maxCount = account.lockLevel.toNat :=
    Nat.min_eq_left (Nat.le_of_lt_succ lockLevel)
  rw [accountOfCells_inserting, keptFailures, keptLevel, UInt32.ofNat_toNat]

/-- Both statements that write an attempt record bind the same for the columns before the
version. -/
theorem take_parameters_saving (attempt : AttemptRecord) :
    (saving attempt).parameters.take 4 = (AttemptRow.ofRecord attempt).values := by
  unfold saving
  split <;> rfl

theorem recordOfCells_saved (attempt : AttemptRecord) (version : Int) :
    recordOfCells
        (attemptColumns.zip ((saving attempt).parameters.take 4 ++ [.number version])) =
      .ok { attempt with failures := min attempt.failures maxCount, version } := by
  rw [take_parameters_saving, recordOfCells, AttemptRow.ofCells_values]
  exact AttemptRow.record_ofRecord attempt version

structure AccountRow.IsReadable (row : AccountRow) : Prop where
  role : row.role ∈ ["user", "admin"]
  status : row.status ∈ ["active", "inactive", "locked"]
  failures : 0 ≤ row.failures
  lockLevel : 0 ≤ row.lockLevel

/-- Whether a row says of each column exactly what an account says, its counters included. -/
structure AccountRow.Shows (row : AccountRow) (account : Account) : Prop where
  columns : row = { AccountRow.ofAccount account with
    failures := row.failures, lockLevel := row.lockLevel }
  failures : row.failures.toInt = account.failures
  lockLevel : row.lockLevel.toInt = account.lockLevel.toNat

theorem AccountRow.Shows.account_eq {row : AccountRow} {account : Account}
    (shows : row.Shows account) : row.account = .ok account := by
  have small : account.failures < UInt32.size := by
    have bounded := Int32.toInt_lt row.failures
    rw [shows.failures] at bounded
    unfold UInt32.size
    omega
  have counted : (UInt32.ofNat account.failures).toNat = account.failures :=
    UInt32.toNat_ofNat_of_lt' small
  have role : Role.ofCode? row.role = some account.role := by
    rw [shows.columns]
    exact Role.ofCode?_code account.role
  have status : Status.ofCode? row.status = some account.status := by
    rw [shows.columns]
    exact Status.ofCode?_code account.status
  rw [account_of_read role status (readCount_of_toInt _ (shows.failures.trans (congrArg _ counted.symm)))
    (readCount_of_toInt _ shows.lockLevel), counted, shows.columns]
  rfl

theorem AccountRow.IsReadable.exists_shows {row : AccountRow} (readable : row.IsReadable) :
    ∃ account, row.Shows account := by
  obtain ⟨role, sameRole⟩ := Role.exists_code_iff.mpr readable.role
  obtain ⟨status, sameStatus⟩ := Status.exists_code_iff.mpr readable.status
  let account : Account :=
    { id := row.id, name := ⟨row.name⟩, email := ⟨row.email⟩, passwordHash := row.passwordHash, role
      status, failures := row.failures.toNatClampNeg, lockedUntil := row.lockedUntil
      lockLevel := row.lockLevel.toUInt32, lastFailure := row.lastFailure, version := row.version
      createdAt := row.createdAt, updatedAt := row.updatedAt }
  refine ⟨account, ?_, ?_, ?_⟩
  · unfold ofAccount
    rw [← sameRole, ← sameStatus]
  · exact (toNatClampNeg_of_nonneg readable.failures).symm
  · change _ = ((row.lockLevel.toUInt32.toNat : Nat) : Int)
    rw [Int32.toNat_toUInt32_of_le readable.lockLevel, toNatClampNeg_of_nonneg readable.lockLevel]

theorem AccountRow.exists_refused {row : AccountRow} (unreadable : ¬row.IsReadable) :
    ∃ detail, row.account = .error (.internal detail) := by
  unfold AccountRow.account
  -- a row is refused for the first of its columns that cannot be read
  cases role : Role.ofCode? row.role with
  | none => exact ⟨_, rfl⟩
  | some known =>
    have knownRole := Role.exists_code_iff.mp ⟨known, Role.ofCode?_eq_some.mp role⟩
    cases status : Status.ofCode? row.status with
    | none => exact ⟨_, rfl⟩
    | some known =>
      have knownStatus := Status.exists_code_iff.mp ⟨known, Status.ofCode?_eq_some.mp status⟩
      by_cases failures : 0 ≤ row.failures
      · have lockLevel : ¬0 ≤ row.lockLevel := fun lockLevel =>
          unreadable ⟨knownRole, knownStatus, failures, lockLevel⟩
        simp [readCount, failures, lockLevel, bind, Except.bind, pure, Except.pure]
      · simp [readCount, failures, bind, Except.bind, pure, Except.pure]

/-- What is bound to insert an account reads back as the account with each counter cut off at
the greatest one that the database holds, so as the same account if both are below that, and
what is bound for a new account as this account; what is bound to write an attempt record reads
back alike with whatever version the row then has. A row with known codes and counters that are
not negative is read as exactly the account that it shows; any other is refused as an internal
failure. -/
theorem bound_reads_back :
    (∀ account : Account,
      let read := accountOfCells (accountColumns.zip (inserting account).parameters)
      read = .ok { account with
        failures := min account.failures (2 ^ 31 - 1)
        lockLevel := .ofNat (min account.lockLevel.toNat (2 ^ 31 - 1)) } ∧
      (read = .ok account ↔ account.failures < 2 ^ 31 ∧ account.lockLevel.toNat < 2 ^ 31)) ∧
    (∀ (account : NewAccount) (id : AccountId) (now : Instant),
      accountOfCells (accountColumns.zip (insertion account id now).parameters) =
        .ok (.create account id now)) ∧
    (∀ (attempt : AttemptRecord) (version : Int),
      recordOfCells (attemptColumns.zip ((saving attempt).parameters.take 4 ++ [.number version])) =
        .ok { attempt with failures := min attempt.failures (2 ^ 31 - 1), version }) ∧
    ∀ row : AccountRow,
      (row.IsReadable ∧ ∃ account, row.Shows account ∧ row.account = .ok account) ∨
        (¬row.IsReadable ∧ ∃ detail, row.account = .error (.internal detail)) := by
  refine ⟨fun account => ⟨accountOfCells_inserting account, ?_, ?_⟩, ?_, recordOfCells_saved, ?_⟩
  · intro same
    rw [accountOfCells_inserting] at same
    have failures := congrArg Account.failures (Except.ok.inj same)
    have lockLevel := congrArg (fun read => read.lockLevel.toNat) (Except.ok.inj same)
    change min account.failures maxCount = account.failures at failures
    change (UInt32.ofNat (min account.lockLevel.toNat maxCount)).toNat = account.lockLevel.toNat
      at lockLevel
    rw [toNat_ofNat_min] at lockLevel
    unfold maxCount at failures lockLevel
    omega
  · rintro ⟨failures, lockLevel⟩
    exact accountOfCells_inserting_of_lt failures lockLevel
  · intro account id now
    have none : 0 < 2 ^ 31 := by decide
    exact accountOfCells_inserting_of_lt none none
  · intro row
    by_cases readable : row.IsReadable
    · obtain ⟨account, shows⟩ := readable.exists_shows
      exact Or.inl ⟨readable, account, shows, shows.account_eq⟩
    · exact Or.inr ⟨readable, AccountRow.exists_refused readable⟩

end Store.Postgres

end Latchkey
