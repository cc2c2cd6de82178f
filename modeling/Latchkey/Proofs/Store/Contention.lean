/-
A client of one place among others who use the same store as they please. The client writes on
the condition that the version that it read last still stands there, and looks again after a
write that came too late. Each such look finds a newer version than the one before, and only the
others can have written it. So a client that gives up was overtaken as often as it tried.
-/

import Latchkey.Proofs.Dialogue.Interleaving
import Latchkey.Proofs.Store.Place

namespace Latchkey.Store.Place

open Dialogue (Contract Obeys)
open Session (Move Run)

variable {place : Place} {start version : Int} {tries : Nat} {past : List (Exchange Service)}

/-- The version that was read last, by a client that starts from one. -/
def held (place : Place) (start : Int) : List (Exchange Service) → Int
  | [] => start
  | exchange :: earlier =>
      match place.notice exchange with
      | .read version => version
      | _ => held place start earlier

def lost (place : Place) (past : List (Exchange Service)) : List Int :=
  past.filterMap fun exchange =>
    match place.notice exchange with
    | .late version => some version
    | _ => none

theorem held_read {exchange : Exchange Service} (read : place.notice exchange = .read version) :
    place.held start (exchange :: past) = version := by
  rw [held, read]

/-- What is held is never newer than what stands in the place. -/
theorem held_cons_le {exchange : Exchange Service} {before after : Int}
    (heldBefore : place.held start past ≤ before)
    (moves : (place.notice exchange).Moves before after) :
    place.held start (exchange :: past) ≤ after := by
  have step := moves.after_eq
  rw [held]
  cases noticed : place.notice exchange with
  | read version =>
      rw [noticed] at moves
      exact Int.le_of_eq (moves.1.trans moves.2.symm)
  | late _ | taken | nothing =>
      change place.held start past ≤ after
      split at step <;> omega

theorem mem_lost_cons {exchange : Exchange Service} :
    version ∈ place.lost (exchange :: past) ↔
      place.notice exchange = .late version ∨ version ∈ place.lost past := by
  unfold lost
  cases noticed : place.notice exchange with
  | late tried => simp [noticed, eq_comm]
  | read _ | taken | nothing => simp [noticed]

/-- What a client of a place may ask, and what it is told: the store answers as it does, and what
stands in the place is newer than all that came too late. -/
def contract (place : Place) (start : Int) : Contract Service where
  asks past request := ∀ reply version,
    place.notice ⟨request, reply⟩ = .late version → version = place.held start past
  hears past request reply := ∃ store version after, place.Stands store version ∧
    store.Answers request reply after ∧ ∀ tried ∈ place.lost past, tried < version

/-- Whether a client that ends with a stale write had none that was taken, and tried that often,
each time for a newer version. -/
def GivesUpLate {α : Type} (place : Place) (start : Int) (tries : Nat)
    (past : List (Exchange Service)) (outcome : Except Failure α) : Prop :=
  outcome = .error .staleWrite →
    (∀ exchange ∈ past, place.notice exchange ≠ .taken) ∧
      ∃ tried ∈ place.lost past, start + tries ≤ tried + 1

theorem givesUpLate_of_ne {α : Type} {outcome : Except Failure α}
    (other : outcome ≠ .error .staleWrite) : place.GivesUpLate start tries past outcome :=
  fun stale => absurd stale other

abbrev Contends {α : Type} (place : Place) (start : Int) (tries : Nat)
    (past : List (Exchange Service)) (client : Dialogue Service (Except Failure α)) : Prop :=
  Obeys (place.contract start) (place.GivesUpLate start tries) past client

theorem contends_of_discarded {α : Type} {procedure : Procedure α}
    (contends : place.Contends start tries past procedure.run) :
    place.Contends start tries past (procedure >>= fun _ => pure ()).run := by
  rw [Contends, Procedure.obeys_bind]
  apply contends.mono
  intro past outcome gaveUp
  cases outcome with
  | ok value => exact givesUpLate_of_ne (by simp)
  | error failure =>
      rintro ⟨⟩
      exact gaveUp rfl

/-- What a client knows that is about to write for a version and has some of its writes left: it
read this version last, and each write that came too late was for an older one. -/
structure Chances (place : Place) (start : Int) (tries writes : Nat) (version : Int)
    (past : List (Exchange Service)) : Prop where
  latest : place.held start past = version
  newer : start + tries ≤ version + writes
  untaken : ∀ exchange ∈ past, place.notice exchange ≠ .taken

theorem chances_nil (place : Place) (start : Int) (tries : Nat) :
    place.Chances start tries tries start [] where
  latest := rfl
  newer := Int.le_refl _
  untaken := List.forall_mem_nil _

theorem Chances.again {writes : Nat} {write look : Exchange Service} {current : Int}
    (chances : place.Chances start tries (writes + 1) version past)
    (late : place.notice write = .late version) (read : place.notice look = .read current)
    (newer : ∀ tried ∈ place.lost (write :: past), tried < current) :
    place.Chances start tries writes current (look :: write :: past) where
  latest := held_read read
  newer := by
    -- the later version makes up for the write that is gone
    have overtaken := newer version (mem_lost_cons.mpr (Or.inl late))
    have before := chances.newer
    omega
  untaken := by
    intro exchange said
    rcases List.mem_cons.mp said with rfl | said
    · simp [read]
    · rcases List.mem_cons.mp said with rfl | said
      · simp [late]
      · exact chances.untaken exchange said

theorem Chances.spent {α : Type} {write : Exchange Service} (outcome : Except Failure α)
    (chances : place.Chances start tries 1 version past)
    (late : place.notice write = .late version) :
    place.GivesUpLate start tries (write :: past) outcome := by
  intro _stale
  constructor
  · intro exchange said
    rcases List.mem_cons.mp said with rfl | said
    · simp [late]
    · exact chances.untaken exchange said
  · have newer := chances.newer
    exact ⟨version, mem_lost_cons.mpr (Or.inl late), by omega⟩

section Asking

variable {email : Email}

theorem ofAccount_late {row : Account} (own : row.email = email) :
    (ofAccount email).notice
      ⟨.writeLock row, (.error .staleWrite : Except Failure Account)⟩ = .late row.version :=
  if_pos own

theorem asks_findAccount (asked : Email) :
    ((ofAccount email).contract start).asks past (.findAccount asked) := by
  rintro (failure | found) version late
  · cases late
  · cases found with
    | none => cases late
    | some row =>
        change (if asked = email then Notice.read row.version else .nothing) = _ at late
        split at late <;> cases late

theorem asks_writeLock {row : Account} (own : row.email = email)
    (latest : (ofAccount email).held start past = row.version) :
    ((ofAccount email).contract start).asks past (.writeLock row) := by
  rintro (failure | written) version late
  · cases failure with
    | staleWrite =>
        cases (ofAccount_late own).symm.trans late
        exact latest.symm
    | _ => cases late
  · change (if row.email = email then Notice.taken else .nothing) = _ at late
    split at late <;> cases late

theorem found_of_hears {reply : Except Failure (Option Account)}
    (heard : ((ofAccount email).contract start).hears past (.findAccount email) reply) :
    ∃ current, reply = .ok (some current) ∧ current.email = email ∧
      ∀ tried ∈ (ofAccount email).lost past, tried < current.version := by
  obtain ⟨store, version, after, ⟨current, found, own, rfl⟩, ⟨told, _same⟩, newer⟩ := heard
  exact ⟨current, told.trans (congrArg Except.ok found), own, newer⟩

theorem ofRecord_late {record : AttemptRecord} (own : record.email = email) :
    (ofRecord email).notice
      ⟨.writeAttempts record, (.error .staleWrite : Except Failure AttemptRecord)⟩
        = .late record.version :=
  if_pos own

theorem asks_findAttempts (asked : Email) :
    ((ofRecord email).contract start).asks past (.findAttempts asked) := by
  rintro (failure | found) version late
  · cases late
  · change (if asked = email then Notice.read (found.getD (.fresh asked)).version else .nothing)
      = _ at late
    split at late <;> cases late

theorem asks_writeAttempts {record : AttemptRecord} (own : record.email = email)
    (latest : (ofRecord email).held start past = record.version) :
    ((ofRecord email).contract start).asks past (.writeAttempts record) := by
  rintro (failure | written) version late
  · cases failure with
    | staleWrite =>
        cases (ofRecord_late own).symm.trans late
        exact latest.symm
    | _ => cases late
  · change (if record.email = email then Notice.taken else .nothing) = _ at late
    split at late <;> cases late

theorem foundAttempts_of_hears {reply : Except Failure (Option AttemptRecord)}
    (heard : ((ofRecord email).contract start).hears past (.findAttempts email) reply) :
    ∃ found, reply = .ok found ∧ (found.getD (.fresh email)).email = email ∧
      ∀ tried ∈ (ofRecord email).lost past, tried < (found.getD (.fresh email)).version := by
  obtain ⟨store, version, after, ⟨own, rfl⟩, ⟨told, _same⟩, newer⟩ := heard
  exact ⟨_, told, own, newer⟩

end Asking

variable {Call α : Type} [DecidableEq Call] {call : Call} {store : Memory}
  {calls : Call → Dialogue Service (Except Failure α)}
  {session : Session Memory Call Service (Except Failure α)}

def isTaken (place : Place) (turn : Turn Memory Call Service) : Bool :=
  place.notice turn.exchange = .taken

def isRivals (place : Place) (call : Call) (turn : Turn Memory Call Service) : Bool :=
  turn.call ≠ call ∧ place.notice turn.exchange = .taken

omit [DecidableEq Call] in
private theorem counted_move {history : List (Turn Memory Call Service)}
    {turn : Turn Memory Call Service} {before after : Int}
    (counted : before = start + history.countP place.isTaken)
    (step : after = before + if place.notice turn.exchange = .taken then 1 else 0) :
    after = start + (turn :: history).countP place.isTaken := by
  rw [List.countP_cons, isTaken, step, counted]
  simp only [decide_eq_true_iff]
  split <;> omega

/-- What is known of a session with a client of a place, while a version stands there. -/
structure Watched (place : Place) (start : Int) (tries : Nat) (call : Call)
    (session : Session Memory Call Service (Except Failure α)) (version : Int) : Prop where
  stands : place.Stands session.state version
  counted : version = start + session.history.countP place.isTaken
  held_le : place.held start (session.heard call) ≤ version
  lost_lt : ∀ tried ∈ place.lost (session.heard call), tried < version
  contends : place.Contends start tries (session.heard call) (session.calls call)

private theorem Watched.move_other (watched : Watched place start tries call session version)
    (move : Move Memory.Answers session) (other : call ≠ move.call) :
    ∃ later, Watched place start tries call move.apply later := by
  obtain ⟨later, stands, moves⟩ := place.moves watched.stands move.answered
  have step := moves.after_eq
  have newer : version ≤ later := by split at step <;> omega
  refine ⟨later, stands, ?_, ?_, ?_, ?_⟩
  · exact counted_move watched.counted step
  · rw [move.heard_other other]
    exact Int.le_trans watched.held_le newer
  · intro tried given
    rw [move.heard_other other] at given
    exact Int.lt_of_lt_of_le (watched.lost_lt tried given) newer
  · rw [move.heard_other other, move.calls_other other]
    exact watched.contends

private theorem Watched.move_own {session : Session Memory Call Service (Except Failure α)}
    (move : Move Memory.Answers session)
    (watched : Watched place start tries move.call session version) :
    ∃ later, Watched place start tries move.call move.apply later := by
  obtain ⟨later, stands, moves⟩ := place.moves watched.stands move.answered
  have contends := watched.contends
  rw [move.asked] at contends
  obtain ⟨asked, next⟩ := contends
  have step := moves.after_eq
  have newer : version ≤ later := by split at step <;> omega
  refine ⟨later, stands, ?_, ?_, ?_, ?_⟩
  · exact counted_move watched.counted step
  · rw [move.heard_same]
    exact held_cons_le watched.held_le moves
  · intro tried given
    rw [move.heard_same, mem_lost_cons] at given
    rcases given with late | earlier
    · -- what came too late is what was held, and something else stands there
      rw [late] at moves
      have own := asked move.reply tried late
      have old := watched.held_le
      have differs := moves.1
      omega
    · exact Int.lt_of_lt_of_le (watched.lost_lt tried earlier) newer
  · rw [move.heard_same, move.calls_same]
    exact next move.reply
      ⟨session.state, version, move.after, watched.stands, move.answered, watched.lost_lt⟩

theorem Watched.move (watched : Watched place start tries call session version)
    (move : Move Memory.Answers session) :
    ∃ later, Watched place start tries call move.apply later := by
  by_cases own : call = move.call
  · subst own
    exact Watched.move_own move watched
  · exact watched.move_other move own

theorem watched_of_run (stands : place.Stands store start)
    (contends : place.Contends start tries [] (calls call))
    (run : Run Memory.Answers { state := store, calls } session) :
    ∃ version, Watched place start tries call session version := by
  induction run with
  | start =>
      exact ⟨start, stands, (Int.add_zero start).symm, Int.le_refl start, List.forall_mem_nil _,
        contends⟩
  | move _run move ih =>
      obtain ⟨_version, watched⟩ := ih
      exact watched.move move

/-- Whatever the others do, a client that ends with a stale write was overtaken by as many writes
of theirs as it tried, from when it held what stood in the place until its last turn. -/
theorem rivals_of_stale (stands : place.Stands store start)
    (contends : place.Contends start tries [] (calls call))
    (run : Run Memory.Answers { state := store, calls } session)
    (stale : session.calls call = .done (.error .staleWrite)) :
    tries ≤ (untilLast call session.history).countP (place.isRivals call) := by
  obtain ⟨earlier, before, same, history⟩ := run.untilLast rfl call
  obtain ⟨version, watched⟩ := watched_of_run stands contends before
  have gaveUp := watched.contends
  rw [same, stale] at gaveUp
  obtain ⟨untaken, tried, late, newer⟩ := gaveUp rfl
  have others : earlier.history.countP place.isTaken =
      earlier.history.countP (place.isRivals call) := by
    apply List.countP_congr
    intro turn said
    have notOwn (taken : place.notice turn.exchange = .taken) : turn.call ≠ call := by
      rintro rfl
      exact untaken _ (mem_conversation said) taken
    simpa [isTaken, isRivals] using notOwn
  have counted := watched.counted
  have overtaken := watched.lost_lt tried late
  rw [← history, ← others]
  omega

end Latchkey.Store.Place
