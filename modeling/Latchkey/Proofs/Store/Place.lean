/-
The place of an email on a shelf of the store, seen through the versions of what stands there.
Whatever the store is asked, the version of an account that is there, or of a record, goes up by
one with each write that is taken and stays as it is otherwise; and a write comes too late just
because another version stands in its place.
-/

import Latchkey.Proofs.Service.Manner

namespace Latchkey.Store

/-- What an exchange is to a place: a look at the version there, a write of a version that came
too late, a write that was taken, or nothing. -/
inductive Notice where
  | read (version : Int)
  | late (version : Int)
  | taken
  | nothing
  deriving DecidableEq, Repr

def Notice.Moves (before after : Int) : Notice → Prop
  | read version => version = before ∧ after = before
  | late version => version ≠ before ∧ after = before
  | taken => after = before + 1
  | nothing => after = before

theorem Notice.Moves.after_eq {notice : Notice} {before after : Int}
    (moves : notice.Moves before after) :
    after = before + if notice = .taken then 1 else 0 := by
  cases notice with
  | read _ | late _ => exact moves.2.trans (Int.add_zero before).symm
  | taken => exact moves
  | nothing => exact Eq.trans moves (Int.add_zero before).symm

structure Place where
  notice : Exchange Service → Notice
  Stands : Memory → Int → Prop
  moves : ∀ {store after : Memory} {request : Service.Request} {reply : Service.Reply request}
    {before : Int}, Stands store before → store.Answers request reply after →
      ∃ version, Stands after version ∧ (notice ⟨request, reply⟩).Moves before version

namespace Place

variable {store after : Memory} {request : Service.Request} {reply : Service.Reply request}
  {before : Int} {email : Email}

def accountNotice (email : Email) : Exchange Service → Notice
  | ⟨.findAccount asked, .ok (some row)⟩ => if asked = email then .read row.version else .nothing
  | ⟨.writeLock row, .ok _⟩ => if row.email = email then .taken else .nothing
  | ⟨.writeLock row, .error .staleWrite⟩ =>
      if row.email = email then .late row.version else .nothing
  | _ => .nothing

def AccountStands (email : Email) (store : Memory) (version : Int) : Prop :=
  ∃ row, store.findAccount email = some row ∧ row.email = email ∧ row.version = version

private theorem AccountStands.withAccount {account : Account}
    (stands : AccountStands email store before)
    (absent : store.findAccount account.email = none) :
    AccountStands email (store.withAccount account) before := by
  obtain ⟨row, found, own, version⟩ := stands
  refine ⟨row, ?_, own, version⟩
  rw [Memory.findAccount_withAccount, if_neg]
  · exact found
  · rintro rfl
    exact Option.some_ne_none row (found.symm.trans absent)

private theorem AccountStands.writeLock {account : Account} {reply : Except Failure Account}
    (stands : AccountStands email store before)
    (concluded : store.Concludes (store.writeLock account) reply after) :
    ∃ version, AccountStands email after version ∧
      (accountNotice email ⟨.writeLock account, reply⟩).Moves before version := by
  obtain ⟨row, found, own, rfl⟩ := stands
  rcases concluded.cases with ⟨failure, refused, rfl, rfl⟩ | ⟨written, wrote, rfl⟩
  · refine ⟨row.version, ⟨row, found, own, rfl⟩, ?_⟩
    rcases Memory.writeLock_eq_error.mp refused with
      ⟨rfl, _missing⟩ | ⟨rfl, stored, there, _sameId, other⟩
    · rfl
    · by_cases here : account.email = email
      · subst here
        rw [found] at there
        cases there
        simpa [accountNotice, Notice.Moves] using Ne.symm other
      · simp [accountNotice, here, Notice.Moves]
  · obtain ⟨stored, there, _sameId, _current, rfl, rfl⟩ := Memory.writeLock_eq_ok.mp wrote
    by_cases here : account.email = email
    · subst here
      rw [found] at there
      cases there
      refine ⟨row.version + 1, ⟨_, (ByEmail.find?_put _ _ _ _).trans (if_pos rfl), own, rfl⟩, ?_⟩
      simp [accountNotice, Notice.Moves]
    · have kept := (ByEmail.find?_put store.accounts account.email email
        (Memory.relocked stored account)).trans (if_neg (Ne.symm here))
      refine ⟨row.version, ⟨row, kept.trans found, own, rfl⟩, ?_⟩
      simp [accountNotice, here, Notice.Moves]

private theorem AccountStands.moves (stands : AccountStands email store before)
    (answered : store.Answers request reply after) :
    ∃ version, AccountStands email after version ∧
      (accountNotice email ⟨request, reply⟩).Moves before version := by
  cases request with
  | findAccount asked =>
      obtain ⟨rfl, rfl⟩ := answered
      refine ⟨before, stands, ?_⟩
      obtain ⟨row, found, _own, rfl⟩ := stands
      by_cases here : asked = email
      · simp [accountNotice, here, found, Notice.Moves]
      · cases after.findAccount asked <;> simp [accountNotice, here, Notice.Moves]
  | createAccount account =>
      obtain ⟨id, now, concluded⟩ := answered
      rcases Memory.Concludes.cases concluded with ⟨_failure, _refused, _told, rfl⟩ |
        ⟨created, made, _told⟩
      · exact ⟨before, stands, rfl⟩
      · obtain ⟨absent, _created, rfl⟩ := Memory.createAccount_eq_ok.mp made
        exact ⟨before, stands.withAccount absent, rfl⟩
  | createAccountWith account issue =>
      cases (Memory.serves_of_answers answered).createdWith with
      | taken _there | undone _issued => exact ⟨before, stands, rfl⟩
      | kept absent _issued => exact ⟨before, stands.withAccount absent, rfl⟩
  | writeLock account => exact stands.writeLock answered
  | writeAttempts attempt =>
      rcases Memory.Concludes.cases answered with ⟨_failure, _refused, _told, rfl⟩ |
        ⟨written, wrote, _told⟩
      · exact ⟨before, stands, rfl⟩
      · obtain ⟨_current, _written, rfl⟩ := Memory.writeAttempts_eq_ok.mp wrote
        exact ⟨before, stands, rfl⟩
  | findAttempts _ | verify _ _ | sign _ =>
      obtain ⟨_told, rfl⟩ := answered
      exact ⟨before, stands, rfl⟩
  | hash _ | readToken _ _ | exchange _ | random _ | clock =>
      cases answered
      exact ⟨before, stands, rfl⟩

def ofAccount (email : Email) : Place where
  notice := accountNotice email
  Stands := AccountStands email
  moves := AccountStands.moves

def recordNotice (email : Email) : Exchange Service → Notice
  | ⟨.findAttempts asked, .ok found⟩ =>
      if asked = email then .read (found.getD (.fresh asked)).version else .nothing
  | ⟨.writeAttempts record, .ok _⟩ => if record.email = email then .taken else .nothing
  | ⟨.writeAttempts record, .error .staleWrite⟩ =>
      if record.email = email then .late record.version else .nothing
  | _ => .nothing

/-- Where there is no record, the version of a fresh one stands. -/
def RecordStands (email : Email) (store : Memory) (version : Int) : Prop :=
  (store.attemptsOf email).email = email ∧ (store.attemptsOf email).version = version

private theorem RecordStands.writeAttempts {record : AttemptRecord}
    {reply : Except Failure AttemptRecord} (stands : RecordStands email store before)
    (concluded : store.Concludes (store.writeAttempts record) reply after) :
    ∃ version, RecordStands email after version ∧
      (recordNotice email ⟨.writeAttempts record, reply⟩).Moves before version := by
  obtain ⟨own, rfl⟩ := stands
  rcases concluded.cases with ⟨failure, refused, rfl, rfl⟩ | ⟨written, wrote, rfl⟩
  · obtain ⟨rfl, other⟩ := Memory.writeAttempts_eq_error.mp refused
    rw [Memory.attemptVersion_eq] at other
    refine ⟨_, ⟨own, rfl⟩, ?_⟩
    by_cases here : record.email = email
    · subst here
      simpa [recordNotice, Notice.Moves] using Ne.symm other
    · simp [recordNotice, here, Notice.Moves]
  · obtain ⟨current, rfl, rfl⟩ := Memory.writeAttempts_eq_ok.mp wrote
    rw [Memory.attemptVersion_eq] at current
    have held := Memory.attemptsOf_withAttempts store { record with version := record.version + 1 }
      email
    by_cases here : record.email = email
    · subst here
      rw [if_pos rfl] at held
      have written : RecordStands record.email
          (store.withAttempts { record with version := record.version + 1 })
          (record.version + 1) := by
        rw [RecordStands, held]
        exact ⟨rfl, rfl⟩
      refine ⟨_, written, ?_⟩
      simp [recordNotice, Notice.Moves, current]
    · rw [if_neg (Ne.symm here)] at held
      have kept : RecordStands email
          (store.withAttempts { record with version := record.version + 1 })
          (store.attemptsOf email).version := by
        rw [RecordStands, held]
        exact ⟨own, rfl⟩
      refine ⟨_, kept, ?_⟩
      simp [recordNotice, here, Notice.Moves]

private theorem RecordStands.moves (stands : RecordStands email store before)
    (answered : store.Answers request reply after) :
    ∃ version, RecordStands email after version ∧
      (recordNotice email ⟨request, reply⟩).Moves before version := by
  cases request with
  | findAttempts asked =>
      obtain ⟨rfl, rfl⟩ := answered
      refine ⟨before, stands, ?_⟩
      obtain ⟨_own, rfl⟩ := stands
      by_cases here : asked = email
      · subst here
        simp [recordNotice, Memory.attemptsOf, Notice.Moves]
      · simp [recordNotice, here, Notice.Moves]
  | createAccount account =>
      obtain ⟨id, now, concluded⟩ := answered
      rcases Memory.Concludes.cases concluded with ⟨_failure, _refused, _told, rfl⟩ |
        ⟨created, made, _told⟩
      · exact ⟨before, stands, rfl⟩
      · obtain ⟨_absent, _created, rfl⟩ := Memory.createAccount_eq_ok.mp made
        exact ⟨before, stands, rfl⟩
  | createAccountWith account issue =>
      cases (Memory.serves_of_answers answered).createdWith with
      | taken _there | undone _issued => exact ⟨before, stands, rfl⟩
      | kept _absent _issued => exact ⟨before, stands, rfl⟩
  | writeLock account =>
      rcases Memory.Concludes.cases answered with ⟨_failure, _refused, _told, rfl⟩ |
        ⟨written, wrote, _told⟩
      · exact ⟨before, stands, rfl⟩
      · obtain ⟨_stored, _there, _sameId, _current, _written, rfl⟩ :=
          Memory.writeLock_eq_ok.mp wrote
        exact ⟨before, stands, rfl⟩
  | writeAttempts record => exact stands.writeAttempts answered
  | findAccount _ | verify _ _ | sign _ =>
      obtain ⟨_told, rfl⟩ := answered
      exact ⟨before, stands, rfl⟩
  | hash _ | readToken _ _ | exchange _ | random _ | clock =>
      cases answered
      exact ⟨before, stands, rfl⟩

def ofRecord (email : Email) : Place where
  notice := recordNotice email
  Stands := RecordStands email
  moves := RecordStands.moves

end Place

end Latchkey.Store
