/-
The creation of an account with a callback, as one transaction. It goes one of five ways, by
the first thing that fails, whatever the server and the callback answer. Only the way on which
nothing fails before it sends a commit; every other way that got as far as to begin ends with
a rollback.
-/

import Latchkey.Proofs.Dialogue.Teller
import Latchkey.Store.Postgres

namespace Latchkey.Store.Postgres

open Time (Instant)

variable {α : Type}

/-- Whether what cannot be read is a column, if anything. No server is to blame for that, and
least of all an index. -/
def BlamesColumn {β : Type} (read : Except DatabaseFault β) : Prop :=
  ∀ fault, read = .error fault →
    (∃ column, fault = .columnMissing column) ∨ ∃ column detail, fault = .columnUnreadable column detail

namespace BlamesColumn

variable {β γ : Type} {cells : Cells} {column : String}

private theorem pure (value : β) : BlamesColumn (.ok value : Except DatabaseFault β) := by
  intro fault failed
  cases failed

private theorem bind {read : Except DatabaseFault β} {following : β → Except DatabaseFault γ}
    (first : BlamesColumn read) (second : ∀ value, BlamesColumn (following value)) :
    BlamesColumn (read >>= following) := by
  intro fault failed
  cases read with
  | error told =>
      cases failed
      exact first fault rfl
  | ok value => exact second value fault failed

private theorem unreadable (cell : Cell) :
    BlamesColumn (.error (Postgres.unreadable column cell) : Except DatabaseFault β) := by
  intro fault failed
  cases failed
  cases cell <;> exact Or.inr ⟨_, _, rfl⟩

private theorem cell : BlamesColumn (cell cells column) := by
  intro fault failed
  unfold Postgres.cell at failed
  split at failed
  · cases failed
  · cases failed
    exact Or.inl ⟨column, rfl⟩

private theorem idIn : BlamesColumn (idIn cells column) := by
  refine bind cell fun value => ?_
  cases value with
  | id value => exact pure value
  | _ => exact unreadable _

private theorem textIn : BlamesColumn (textIn cells column) := by
  refine bind cell fun value => ?_
  cases value with
  | text value => exact pure value
  | _ => exact unreadable _

private theorem numberIn : BlamesColumn (numberIn cells column) := by
  refine bind cell fun value => ?_
  cases value with
  | number value => exact pure value
  | _ => exact unreadable _

private theorem countIn : BlamesColumn (countIn cells column) := by
  refine bind numberIn fun value => ?_
  split
  · exact pure _
  · exact unreadable _

private theorem instantIn : BlamesColumn (instantIn cells column) := by
  refine bind cell fun value => ?_
  cases value with
  | instant value => exact pure value
  | _ => exact unreadable _

private theorem instantIn? : BlamesColumn (instantIn? cells column) := by
  refine bind cell fun value => ?_
  cases value with
  | null => exact pure none
  | instant value => exact pure (some value)
  | _ => exact unreadable _

theorem ofCells (cells : Cells) : BlamesColumn (AccountRow.ofCells cells) :=
  bind idIn fun _id => bind textIn fun _name => bind textIn fun _email =>
    bind textIn fun _passwordHash => bind textIn fun _role => bind textIn fun _status =>
    bind countIn fun _failures => bind instantIn? fun _lockedUntil =>
    bind countIn fun _lockLevel => bind instantIn? fun _lastFailure =>
    bind numberIn fun _version => bind instantIn fun _createdAt =>
    bind instantIn fun _updatedAt => pure _

end BlamesColumn

def NamesEmailIndex (fault : DatabaseFault) : Prop :=
  ∃ message, fault = .refused message (some "23505") (some "accounts_email_key")

/-- The fault of an insertion, if it has one: it is refused, or it returns no row, or none that
can be read. -/
def insertionFault : Except DatabaseFault (Option Cells) → Option DatabaseFault
  | .error fault => some fault
  | .ok none => some .rowMissing
  | .ok (some cells) =>
      match AccountRow.ofCells cells with
      | .error fault => some fault
      | .ok _row => none

private theorem insertFailure_cases (fault : DatabaseFault) :
    (NamesEmailIndex fault ∧ insertFailure fault = .emailTaken) ∨
      (¬NamesEmailIndex fault ∧ insertFailure fault = .database fault) := by
  by_cases names : NamesEmailIndex fault
  · obtain ⟨message, rfl⟩ := names
    refine Or.inl ⟨⟨message, rfl⟩, ?_⟩
    unfold insertFailure
    exact if_pos ⟨rfl, rfl⟩
  · refine Or.inr ⟨names, ?_⟩
    cases fault with
    | refused message code constraint =>
        refine if_neg fun named => ?_
        obtain ⟨rfl, rfl⟩ := named
        exact names ⟨message, rfl⟩
    | _ => rfl

private theorem BlamesColumn.not_namesEmailIndex {β : Type} {read : Except DatabaseFault β}
    {fault : DatabaseFault} (blames : BlamesColumn read) (unread : read = .error fault) :
    ¬NamesEmailIndex fault := by
  intro names
  obtain ⟨message, rfl⟩ := names
  rcases blames _ unread with ⟨column, same⟩ | ⟨column, detail, same⟩
  · cases same
  · cases same

/-- An email is taken exactly if the index of emails is named, and any other fault is the
failure itself. -/
theorem inserted_of_fault {reply : Except DatabaseFault (Option Cells)} {fault : DatabaseFault}
    (failed : insertionFault reply = some fault) :
    (NamesEmailIndex fault ∧ inserted reply = .error .emailTaken) ∨
      (¬NamesEmailIndex fault ∧ inserted reply = .error (.database fault)) := by
  cases reply with
  | error told =>
      cases failed
      rcases insertFailure_cases fault with ⟨names, taken⟩ | ⟨other, told⟩
      · exact Or.inl ⟨names, congrArg Except.error taken⟩
      · exact Or.inr ⟨other, congrArg Except.error told⟩
  | ok answer =>
      right
      cases answer with
      | none =>
          cases failed
          exact ⟨nofun, rfl⟩
      | some cells =>
          cases unread : AccountRow.ofCells cells with
          | ok row =>
              rw [insertionFault, unread] at failed
              cases failed
          | error told =>
              rw [insertionFault, unread] at failed
              cases failed
              refine ⟨(BlamesColumn.ofCells cells).not_namesEmailIndex unread, ?_⟩
              rw [inserted, accountOfCells, unread]
              rfl

theorem inserted_eq_ok {reply : Except DatabaseFault (Option Cells)} {stored : Account} :
    inserted reply = .ok stored ↔
      ∃ cells, reply = .ok (some cells) ∧ accountOfCells cells = .ok stored := by
  cases reply with
  | error fault => simp [inserted]
  | ok answer => cases answer <;> simp [inserted]

/-- How a transaction is concluded, by what the callback said of the account. -/
inductive Conclusion (stored : Account) :
    Except Failure α → List (Exchange (Connection α)) → Except Failure (Account × α) → Prop
  | refused (failure : Failure) :
      Conclusion stored (.error failure) [⟨.rollback, ()⟩] (.error failure)
  | notCommitted (value : α) (fault : DatabaseFault) :
      Conclusion stored (.ok value) [⟨.commit, .error fault⟩, ⟨.rollback, ()⟩]
        (.error (.database fault))
  | committed (value : α) :
      Conclusion stored (.ok value) [⟨.commit, .ok ()⟩] (.ok (stored, value))

section Creation

variable {account : NewAccount} {id : AccountId} {now : Instant}
  {said : List (Exchange (Connection α))} {outcome : Except Failure (Account × α)}

private theorem Conclusion.not_mem {stored : Account} {reply : Except Failure α}
    {rest : List (Exchange (Connection α))} (conclusion : Conclusion stored reply rest outcome)
    {exchange : Exchange (Connection α)} (noCommit : exchange.request ≠ .commit)
    (noRollback : exchange.request ≠ .rollback) : exchange ∉ rest := by
  intro said
  cases conclusion with
  | refused failure => exact noRollback (congrArg Exchange.request (List.mem_singleton.mp said))
  | notCommitted value fault =>
      rcases List.mem_cons.mp said with same | said
      · exact noCommit (congrArg Exchange.request same)
      · exact noRollback (congrArg Exchange.request (List.mem_singleton.mp said))
  | committed value => exact noCommit (congrArg Exchange.request (List.mem_singleton.mp said))

def opening (account : NewAccount) (id : AccountId) (now : Instant) (cells : Cells)
    (stored : Account) (reply : Except Failure α) : List (Exchange (Connection α)) :=
  [⟨.begin, .ok ()⟩, ⟨.run (insertion account id now), .ok (some cells)⟩, ⟨.callback stored, reply⟩]

private theorem callback_mem_opening {cells : Cells} {stored : Account}
    {reply : Except Failure α} :
    ⟨.callback stored, reply⟩ ∈ opening account id now cells stored reply :=
  List.mem_cons_of_mem _ (List.mem_cons_of_mem _ (List.mem_singleton_self _))

inductive Transaction (account : NewAccount) (id : AccountId) (now : Instant) :
    List (Exchange (Connection α)) → Except Failure (Account × α) → Prop
  | notBegun (fault : DatabaseFault) :
      Transaction account id now [⟨.begin, .error fault⟩] (.error (.database fault))
  | notInserted {reply : Except DatabaseFault (Option Cells)} {failure : Failure} :
      inserted reply = .error failure →
      Transaction account id now
        [⟨.begin, .ok ()⟩, ⟨.run (insertion account id now), reply⟩, ⟨.rollback, ()⟩]
        (.error failure)
  | concluded {cells : Cells} {stored : Account} {reply : Except Failure α}
      {rest : List (Exchange (Connection α))} {outcome : Except Failure (Account × α)} :
      accountOfCells cells = .ok stored → Conclusion stored reply rest outcome →
      Transaction account id now (opening account id now cells stored reply ++ rest) outcome

theorem createAccountWith_transaction (teller : Teller (Connection α))
    (past : List (Exchange (Connection α))) (account : NewAccount) (id : AccountId)
    (now : Instant) :
    let told := (createAccountWith account id now).converse teller past
    Transaction account id now told.1 told.2 := by
  unfold createAccountWith
  dsimp only [Dialogue.converse]
  cases teller past .begin with
  | error fault => exact .notBegun fault
  | ok _begun =>
      dsimp only [Dialogue.converse]
      generalize teller _ (.run (insertion account id now)) = reply
      cases row : inserted reply with
      | error failure => exact .notInserted row
      | ok stored =>
          obtain ⟨cells, rfl, mapped⟩ := inserted_eq_ok.mp row
          dsimp only [Dialogue.converse]
          cases teller _ (.callback stored) with
          | error failure => exact .concluded mapped (.refused failure)
          | ok value =>
              dsimp only [conclude, Dialogue.converse]
              cases teller _ .commit with
              | error fault => exact .concluded mapped (.notCommitted value fault)
              | ok _committed => exact .concluded mapped (.committed value)

def isCallback (exchange : Exchange (Connection α)) : Bool :=
  match exchange.request with
  | .callback _ => true
  | _ => false

/-- What holds of all that is said for a creation with a callback, and of what comes of it. It
goes one of the ways, each of which begins and, once begun, inserts the account. -/
structure OneTransaction (account : NewAccount) (id : AccountId) (now : Instant)
    (said : List (Exchange (Connection α))) (outcome : Except Failure (Account × α)) : Prop where
  way : Transaction account id now said outcome
  calledOnce : said.countP isCallback ≤ 1
  called : ∀ stored reply, ⟨.callback stored, reply⟩ ∈ said →
    ∃ cells, accountOfCells cells = .ok stored ∧ opening account id now cells stored reply <+: said
  commits : (∃ reply, ⟨.commit, reply⟩ ∈ said) ↔
    ∃ cells stored value, accountOfCells cells = .ok stored ∧
      opening account id now cells stored (.ok value) <+: said
  succeeded : ∀ stored value, outcome = .ok (stored, value) ↔
    ⟨.callback stored, .ok value⟩ ∈ said ∧ ⟨.commit, .ok ()⟩ ∈ said
  refused : ∀ stored failure, ⟨.callback stored, .error failure⟩ ∈ said → outcome = .error failure
  notInserted : ∀ reply fault, ⟨.run (insertion account id now), reply⟩ ∈ said →
    insertionFault reply = some fault →
      (NamesEmailIndex fault ∧ outcome = .error .emailTaken) ∨
        (¬NamesEmailIndex fault ∧ outcome = .error (.database fault))
  rolledBack : ⟨.begin, .ok ()⟩ ∈ said → (∀ reply, ⟨.commit, reply⟩ ∉ said) →
    said.getLast? = some ⟨.rollback, ()⟩

namespace Transaction

theorem concluded_of_callback (way : Transaction account id now said outcome) {stored : Account}
    {reply : Except Failure α} (asked : ⟨.callback stored, reply⟩ ∈ said) :
    ∃ cells rest, accountOfCells cells = .ok stored ∧
      said = opening account id now cells stored reply ++ rest ∧
        Conclusion stored reply rest outcome := by
  cases way with
  | notBegun fault =>
      have same := List.mem_singleton.mp asked
      cases same
  | notInserted failed =>
      simp only [List.mem_cons, List.not_mem_nil, or_false] at asked
      rcases asked with same | same | same <;> cases same
  | @concluded cells stored reply rest outcome mapped conclusion =>
      rcases List.mem_append.mp asked with inOpening | inRest
      · simp only [opening, List.mem_cons, List.not_mem_nil, or_false] at inOpening
        rcases inOpening with same | same | same <;> cases same
        exact ⟨cells, rest, mapped, rfl, conclusion⟩
      · exact absurd inRest (conclusion.not_mem nofun nofun)

theorem concluded_of_commit (way : Transaction account id now said outcome)
    {reply : Except DatabaseFault Unit} (sent : ⟨.commit, reply⟩ ∈ said) :
    ∃ cells stored value rest, accountOfCells cells = .ok stored ∧
      said = opening account id now cells stored (.ok value) ++ rest ∧
        Conclusion stored (.ok value) rest outcome := by
  cases way with
  | notBegun fault =>
      have same := List.mem_singleton.mp sent
      cases same
  | notInserted failed =>
      simp only [List.mem_cons, List.not_mem_nil, or_false] at sent
      rcases sent with same | same | same <;> cases same
  | @concluded cells stored answer rest outcome mapped conclusion =>
      cases conclusion with
      | refused failure =>
          simp only [opening, List.mem_append, List.mem_cons, List.not_mem_nil, or_false] at sent
          rcases sent with (same | same | same) | same <;> cases same
      | notCommitted value fault =>
          exact ⟨cells, stored, value, _, mapped, rfl, .notCommitted value fault⟩
      | committed value => exact ⟨cells, stored, value, _, mapped, rfl, .committed value⟩

theorem countP_isCallback_le (way : Transaction account id now said outcome) :
    said.countP isCallback ≤ 1 := by
  cases way with
  | notBegun fault => exact Nat.zero_le 1
  | notInserted failed => exact Nat.zero_le 1
  | concluded mapped conclusion => cases conclusion <;> exact Nat.le_refl 1

theorem commits_iff (way : Transaction account id now said outcome) :
    (∃ reply, ⟨.commit, reply⟩ ∈ said) ↔
      ∃ cells stored value, accountOfCells cells = .ok stored ∧
        opening account id now cells stored (.ok value) <+: said := by
  constructor
  · intro sent
    obtain ⟨reply, sent⟩ := sent
    obtain ⟨cells, stored, value, rest, mapped, rfl, _conclusion⟩ := way.concluded_of_commit sent
    exact ⟨cells, stored, value, mapped, rest, rfl⟩
  · intro approved
    obtain ⟨cells, stored, value, _mapped, opened⟩ := approved
    obtain ⟨_cells, rest, _mapped, rfl, conclusion⟩ :=
      way.concluded_of_callback (opened.subset callback_mem_opening)
    cases conclusion with
    | notCommitted value fault =>
        exact ⟨.error fault, List.mem_append_right _ List.mem_cons_self⟩
    | committed value => exact ⟨.ok (), List.mem_append_right _ List.mem_cons_self⟩

theorem succeeded_iff (way : Transaction account id now said outcome) {stored : Account}
    {value : α} :
    outcome = .ok (stored, value) ↔
      ⟨.callback stored, .ok value⟩ ∈ said ∧ ⟨.commit, .ok ()⟩ ∈ said := by
  constructor
  · intro same
    cases way with
    | notBegun fault => cases same
    | notInserted failed => cases same
    | concluded mapped conclusion =>
        cases conclusion with
        | refused failure => cases same
        | notCommitted value fault => cases same
        | committed value =>
            cases same
            exact ⟨List.mem_append_left _ callback_mem_opening,
              List.mem_append_right _ List.mem_cons_self⟩
  · intro told
    obtain ⟨asked, sent⟩ := told
    obtain ⟨cells, rest, mapped, rfl, conclusion⟩ := way.concluded_of_callback asked
    cases conclusion with
    | notCommitted value fault =>
        simp only [opening, List.mem_append, List.mem_cons, List.not_mem_nil, or_false] at sent
        rcases sent with (same | same | same) | same | same <;> cases same
    | committed value => rfl

theorem notInserted_outcome (way : Transaction account id now said outcome)
    {reply : Except DatabaseFault (Option Cells)} {fault : DatabaseFault}
    (ran : ⟨.run (insertion account id now), reply⟩ ∈ said)
    (failed : insertionFault reply = some fault) :
    (NamesEmailIndex fault ∧ outcome = .error .emailTaken) ∨
      (¬NamesEmailIndex fault ∧ outcome = .error (.database fault)) := by
  cases way with
  | notBegun told =>
      have same := List.mem_singleton.mp ran
      cases same
  | notInserted unmapped =>
      simp only [List.mem_cons, List.not_mem_nil, or_false] at ran
      rcases ran with same | same | same <;> cases same
      rcases inserted_of_fault failed with ⟨names, taken⟩ | ⟨other, told⟩
      · cases unmapped.symm.trans taken
        exact Or.inl ⟨names, rfl⟩
      · cases unmapped.symm.trans told
        exact Or.inr ⟨other, rfl⟩
  | @concluded cells stored answer rest outcome mapped conclusion =>
      -- A row that maps to an account leaves the insertion without a fault.
      have same : reply = .ok (some cells) := by
        rcases List.mem_append.mp ran with inOpening | inRest
        · simp only [opening, List.mem_cons, List.not_mem_nil, or_false] at inOpening
          rcases inOpening with same | same | same <;> cases same
          rfl
        · exact absurd inRest (conclusion.not_mem nofun nofun)
      have row : inserted reply = .ok stored := inserted_eq_ok.mpr ⟨cells, same, mapped⟩
      rcases inserted_of_fault failed with ⟨_names, taken⟩ | ⟨_other, told⟩
      · cases row.symm.trans taken
      · cases row.symm.trans told

theorem rolledBack (way : Transaction account id now said outcome)
    (begun : ⟨.begin, .ok ()⟩ ∈ said) (unsent : ∀ reply, ⟨.commit, reply⟩ ∉ said) :
    said.getLast? = some ⟨.rollback, ()⟩ := by
  cases way with
  | notBegun fault =>
      have same := List.mem_singleton.mp begun
      cases same
  | notInserted failed => rfl
  | concluded mapped conclusion =>
      cases conclusion with
      | refused failure => rfl
      | notCommitted value fault =>
          exact absurd (List.mem_append_right _ List.mem_cons_self) (unsent (.error fault))
      | committed value =>
          exact absurd (List.mem_append_right _ List.mem_cons_self) (unsent (.ok ()))

theorem oneTransaction (way : Transaction account id now said outcome) :
    OneTransaction account id now said outcome where
  way
  calledOnce := way.countP_isCallback_le
  called := by
    intro stored reply asked
    obtain ⟨cells, rest, mapped, rfl, _conclusion⟩ := way.concluded_of_callback asked
    exact ⟨cells, mapped, rest, rfl⟩
  commits := way.commits_iff
  succeeded := fun _stored _value => way.succeeded_iff
  refused := by
    intro stored failure asked
    obtain ⟨cells, rest, _mapped, rfl, conclusion⟩ := way.concluded_of_callback asked
    cases conclusion
    rfl
  notInserted := fun _reply _fault => way.notInserted_outcome
  rolledBack := way.rolledBack

end Transaction

/-- Whatever the server and the callback answer, a creation with a callback is one transaction. -/
theorem oneTransaction_createAccountWith (teller : Teller (Connection α))
    (past : List (Exchange (Connection α))) (account : NewAccount) (id : AccountId)
    (now : Instant) :
    let told := (createAccountWith account id now).converse teller past
    OneTransaction account id now told.1 told.2 :=
  (createAccountWith_transaction teller past account id now).oneTransaction

end Creation

end Latchkey.Store.Postgres
