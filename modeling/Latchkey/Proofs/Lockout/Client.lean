/-
The lockout as a client of a store of which nothing is known: the store may fail, lose rows,
make rows up or refuse every write. Each round writes what a step makes of the row that was
read last; only a write that comes too late is followed by another round, after one more look
at the row, and there are three rounds at most. What comes of it is what the store said, but
where there was nothing to write or the row itself forbids the step.
-/

import Latchkey.Proofs.Dialogue.Teller
import Latchkey.Proofs.Lockout.Attempts
import Latchkey.Proofs.Lockout.Operation

namespace Latchkey.Lockout

open Time (Instant)

inductive Event (Row : Type) where
  | wrote (row : Row) (reply : Except Failure Row)
  | reread (email : Email) (reply : Except Failure Row)

namespace Event

variable {Row : Type}

def isWrite : Event Row → Bool
  | wrote _ _ => true
  | reread _ _ => false

def isReread : Event Row → Bool
  | wrote _ _ => false
  | reread _ _ => true

def reply : Event Row → Except Failure Row
  | wrote _ reply | reread _ reply => reply

end Event

variable {Row : Type}

/-- The row that was read last, where the client starts from a row. -/
def lastRead (start : Row) : List (Event Row) → Row
  | [] => start
  | .reread _ (.ok row) :: later => lastRead row later
  | .reread _ (.error _) :: later => lastRead start later
  | .wrote _ _ :: later => lastRead start later

/-- What a client makes of a row: what it may write, when it has nothing to write, and with
which failures the row itself forbids to go on. -/
structure Rules (Row : Type) where
  email : Row → Email
  mayWrite : Row → Row → Prop
  idle : Row → Prop
  forbids : Row → Failure → Prop

namespace Event

/-- Whether a write has to be made again: it came too late, and was not the last one allowed. -/
def IsLost (limit : Nat) (earlier : List (Event Row)) (reply : Except Failure Row) : Prop :=
  reply = .error .staleWrite ∧ earlier.countP isWrite + 1 < limit

/-- Whether an event has its place between those before and after it, in a story that ends
with an outcome. What the store tells ends the story, unless a write is lost. -/
def IsFair (rules : Rules Row) (limit : Nat) (start : Row) (outcome : Except Failure Row)
    (earlier later : List (Event Row)) : Event Row → Prop
  | wrote row reply =>
      rules.mayWrite (lastRead start earlier) row ∧
        (IsLost limit earlier reply → ∃ email told rest, later = reread email told :: rest) ∧
        (¬IsLost limit earlier reply → later = [] ∧ outcome = reply)
  | reread email reply =>
      email = rules.email (lastRead start earlier) ∧
        (∃ before row, earlier = before ++ [wrote row (.error .staleWrite)]) ∧
        ∀ failure, reply = .error failure → later = [] ∧ outcome = .error failure

end Event

/-- What a client that starts from a row has to say for itself, with at most `limit` writes. -/
structure Faithful (rules : Rules Row) (limit : Nat) (start : Row) (story : List (Event Row))
    (outcome : Except Failure Row) : Prop where
  writes_le : story.countP Event.isWrite ≤ limit
  rereads_le : story.countP Event.isReread ≤ limit - 1
  fair : ∀ earlier event later, story = earlier ++ event :: later →
    event.IsFair rules limit start outcome earlier later
  succeeded : ∀ row, outcome = .ok row →
    (∃ changed, story.getLast? = some (.wrote changed (.ok row))) ∨
      row = lastRead start story ∧ rules.idle row ∧
        ∀ event, story.getLast? = some event → event.isReread = true
  failed : ∀ failure, outcome = .error failure →
    (∃ event, story.getLast? = some event ∧ event.reply = .error failure) ∨
      rules.forbids (lastRead start story) failure

inductive Rounds (rules : Rules Row) :
    (limit : Nat) → Row → List (Event Row) → Except Failure Row → Prop
  | idle {limit : Nat} {row : Row} : rules.idle row → Rounds rules (limit + 1) row [] (.ok row)
  | forbidden {limit : Nat} {row : Row} {failure : Failure} :
      rules.forbids row failure → Rounds rules (limit + 1) row [] (.error failure)
  | answered {limit : Nat} {row changed : Row} {reply : Except Failure Row} :
      rules.mayWrite row changed → (reply = .error .staleWrite → limit = 0) →
      Rounds rules (limit + 1) row [.wrote changed reply] reply
  | lost {limit : Nat} {row changed : Row} {failure : Failure} :
      rules.mayWrite row changed →
      Rounds rules (limit + 2) row
        [.wrote changed (.error .staleWrite), .reread (rules.email row) (.error failure)]
        (.error failure)
  | again {limit : Nat} {row changed current : Row} {story : List (Event Row)}
      {outcome : Except Failure Row} :
      rules.mayWrite row changed → Rounds rules (limit + 1) current story outcome →
      Rounds rules (limit + 2) row
        (.wrote changed (.error .staleWrite) :: .reread (rules.email row) (.ok current) :: story)
        outcome

section Rounds

variable {rules : Rules Row} {limit : Nat} {start row changed current : Row} {email : Email}
  {story : List (Event Row)} {reply outcome : Except Failure Row}

private theorem forall_split_cons {first : Event Row} {rest : List (Event Row)}
    {holds : List (Event Row) → Event Row → List (Event Row) → Prop}
    (atFirst : holds [] first rest)
    (inRest : ∀ earlier event later, rest = earlier ++ event :: later →
      holds (first :: earlier) event later) :
    ∀ earlier event later, first :: rest = earlier ++ event :: later →
      holds earlier event later := by
  intro earlier event later same
  rcases List.cons_eq_append_iff.mp same with ⟨rfl, whole⟩ | ⟨before, rfl, inside⟩
  · cases whole
    exact atFirst
  · exact inRest before event later inside

private theorem forall_split_nil {holds : List (Event Row) → Event Row → List (Event Row) → Prop} :
    ∀ earlier event later, [] = earlier ++ event :: later → holds earlier event later := by
  intro earlier event later same
  cases earlier <;> cases same

namespace Event

private theorem countP_isWrite_again :
    (wrote changed reply :: reread email outcome :: story).countP isWrite
      = story.countP isWrite + 1 := by
  rw [List.countP_cons_of_pos rfl, List.countP_cons_of_neg Bool.false_ne_true]

private theorem countP_isReread_again :
    (wrote changed reply :: reread email outcome :: story).countP isReread
      = story.countP isReread + 1 := by
  rw [List.countP_cons_of_neg Bool.false_ne_true, List.countP_cons_of_pos rfl]

private theorem isLost_again_iff :
    IsLost (limit + 2) (wrote changed (.error .staleWrite) :: reread email (.ok current) :: story)
        reply ↔ IsLost (limit + 1) story reply := by
  rw [IsLost, IsLost, countP_isWrite_again, Nat.add_lt_add_iff_right]

private theorem isLost_first : IsLost (limit + 2) [] (.error .staleWrite : Except Failure Row) :=
  ⟨rfl, Nat.succ_lt_succ (Nat.succ_pos limit)⟩

private theorem getLast?_again {last : Event Row} (ends : story.getLast? = some last) :
    (wrote changed reply :: reread email outcome :: story).getLast? = some last := by
  rw [List.getLast?_cons, List.getLast?_cons, ends]
  rfl

private theorem IsFair.again {event : Event Row} {earlier later : List (Event Row)}
    (fair : event.IsFair rules (limit + 1) current outcome earlier later) :
    event.IsFair rules (limit + 2) row outcome
      (wrote changed (.error .staleWrite) :: reread email (.ok current) :: earlier) later := by
  cases event with
  | wrote written reply =>
      obtain ⟨may, lost, answered⟩ := fair
      exact ⟨may, fun again => lost (isLost_again_iff.mp again),
        fun ends => answered fun again => ends (isLost_again_iff.mpr again)⟩
  | reread asked reply =>
      obtain ⟨own, ⟨before, written, last⟩, told⟩ := fair
      refine ⟨own, ⟨wrote changed (.error .staleWrite) :: reread email (.ok current) :: before,
        written, ?_⟩, told⟩
      rw [last]
      rfl

/-- The first write of several, and the look at the row that follows. -/
private theorem IsFair.first {story : List (Event Row)} {told : Except Failure Row}
    (may : rules.mayWrite row changed) :
    (wrote changed (.error .staleWrite)).IsFair rules (limit + 2) row outcome []
      (reread email told :: story) :=
  ⟨may, fun _lost => ⟨email, told, story, rfl⟩, fun ends => absurd isLost_first ends⟩

end Event

namespace Faithful

open Event

private theorem idle (idle : rules.idle row) :
    Faithful rules (limit + 1) row ([] : List (Event Row)) (.ok row) where
  writes_le := Nat.zero_le _
  rereads_le := Nat.zero_le _
  fair := forall_split_nil
  succeeded := by
    intro stored same
    cases same
    exact Or.inr ⟨rfl, idle, fun event none => nomatch none⟩
  failed := by
    intro failure same
    cases same

private theorem forbidden {failure : Failure} (forbids : rules.forbids row failure) :
    Faithful rules (limit + 1) row ([] : List (Event Row)) (.error failure) where
  writes_le := Nat.zero_le _
  rereads_le := Nat.zero_le _
  fair := forall_split_nil
  succeeded := by
    intro stored same
    cases same
  failed := by
    intro failure same
    cases same
    exact Or.inr forbids

private theorem answered (may : rules.mayWrite row changed)
    (last : reply = .error .staleWrite → limit = 0) :
    Faithful rules (limit + 1) row [wrote changed reply] reply where
  writes_le := Nat.succ_le_succ (Nat.zero_le limit)
  rereads_le := Nat.zero_le limit
  fair := by
    have ends : ¬IsLost (limit + 1) [] reply := by
      intro lost
      obtain ⟨stale, left⟩ := lost
      rw [last stale] at left
      exact absurd left (Nat.lt_irrefl 1)
    exact forall_split_cons ⟨may, fun lost => absurd lost ends, fun _ends => ⟨rfl, rfl⟩⟩
      forall_split_nil
  succeeded := by
    intro stored same
    exact Or.inl ⟨changed, by rw [same]; rfl⟩
  failed := by
    intro failure same
    exact Or.inl ⟨_, rfl, same⟩

private theorem lost {failure : Failure} (may : rules.mayWrite row changed) :
    Faithful rules (limit + 2) row
      [wrote changed (.error .staleWrite), reread (rules.email row) (.error failure)]
      (.error failure) where
  writes_le := Nat.succ_le_succ (Nat.zero_le (limit + 1))
  rereads_le := Nat.succ_le_succ (Nat.zero_le limit)
  fair := by
    refine forall_split_cons (IsFair.first may) (forall_split_cons ?_ forall_split_nil)
    refine ⟨rfl, ⟨[], changed, rfl⟩, ?_⟩
    intro told same
    exact ⟨rfl, same⟩
  succeeded := by
    intro stored same
    cases same
  failed := by
    intro told same
    exact Or.inl ⟨_, rfl, same⟩

private theorem again (may : rules.mayWrite row changed)
    (later : Faithful rules (limit + 1) current story outcome) :
    Faithful rules (limit + 2) row
      (wrote changed (.error .staleWrite) :: reread (rules.email row) (.ok current) :: story)
      outcome where
  writes_le := by
    rw [countP_isWrite_again]
    exact Nat.succ_le_succ later.writes_le
  rereads_le := by
    rw [countP_isReread_again]
    exact Nat.succ_le_succ later.rereads_le
  fair := by
    refine forall_split_cons (IsFair.first may) (forall_split_cons ?_ ?_)
    · refine ⟨rfl, ⟨[], changed, rfl⟩, ?_⟩
      intro told same
      cases same
    · intro earlier event rest same
      exact (later.fair earlier event rest same).again
  succeeded := by
    intro stored same
    rcases later.succeeded stored same with ⟨written, ends⟩ | ⟨read, idle, rereads⟩
    · exact Or.inl ⟨written, getLast?_again ends⟩
    · refine Or.inr ⟨read, idle, ?_⟩
      intro event ends
      cases story with
      | nil =>
          cases ends
          rfl
      | cons next rest =>
          rw [List.getLast?_cons_cons, List.getLast?_cons_cons] at ends
          exact rereads event ends
  failed := by
    intro told same
    rcases later.failed told same with ⟨event, ends, replied⟩ | forbids
    · exact Or.inl ⟨event, getLast?_again ends, replied⟩
    · exact Or.inr forbids

end Faithful

/-- However many rounds there are, a client that goes on in rounds is faithful. -/
theorem Rounds.faithful (rounds : Rounds rules limit start story outcome) :
    Faithful rules limit start story outcome := by
  induction rounds with
  | idle idle => exact .idle idle
  | forbidden forbids => exact .forbidden forbids
  | answered may last => exact .answered may last
  | lost may => exact .lost may
  | again may _rounds ih => exact .again may ih

end Rounds

section Lockout

variable {teller : Teller Service} {past : List (Exchange Service)} {policy : LockoutPolicy}
  {now : Instant}

def InRounds (event : Exchange Service → Option (Event Row)) (rules : Rules Row) (limit : Nat)
    (start : Row) (said : List (Exchange Service) × Except Failure Row) : Prop :=
  ∃ story, said.1.map event = story.map some ∧ Rounds rules limit start story said.2

private theorem InRounds.again {event : Exchange Service → Option (Event Row)} {rules : Rules Row}
    {limit : Nat} {row changed current : Row} {write look : Exchange Service}
    {said : List (Exchange Service) × Except Failure Row}
    (rounds : InRounds event rules (limit + 1) current said)
    (may : rules.mayWrite row changed)
    (late : event write = some (.wrote changed (.error .staleWrite)))
    (found : event look = some (.reread (rules.email row) (.ok current))) :
    InRounds event rules (limit + 2) row (write :: look :: said.1, said.2) := by
  obtain ⟨story, seen, rounds⟩ := rounds
  refine ⟨.wrote changed (.error .staleWrite) :: .reread (rules.email row) (.ok current) :: story,
    ?_, .again may rounds⟩
  rw [List.map_cons, List.map_cons, late, found, seen]
  rfl

end Lockout

end Latchkey.Lockout
