/-
A clock that counts leap seconds. The nanoseconds of an instant leave them out, so that
they stand still, so to speak, while a leap second passes: what is added within one counts
from its start. A clock that counts the leap seconds of some instants in is as fast as the
deadlines that were set at these instants.
-/

import Mathlib.Data.Finset.Card
import Latchkey.Proofs.Time.Deadline

namespace Latchkey.Time.Instant

/-- The leap seconds among given ones that are over when a second begins. -/
def leapsBefore (leaps : Finset Int) (second : Int) : Nat := (leaps.filter (· < second)).card

/-- The nanoseconds of an instant with the given leap seconds counted in, each by the last
second before it. -/
def clock (leaps : Finset Int) (instant : Instant) : Int :=
  instant.toNanos + nanosPerSecond * leapsBefore leaps instant.second

def Counted (leaps : Finset Int) (instant : Instant) : Prop :=
  instant.IsLeap → instant.second ∈ leaps

variable {leaps : Finset Int} {instant earlier later : Instant} {span : Span}

@[simp] theorem clock_empty (instant : Instant) : clock ∅ instant = instant.toNanos := by
  simp [clock, leapsBefore]

theorem leapsBefore_mono {first second : Int} (ordered : first ≤ second) :
    leapsBefore leaps first ≤ leapsBefore leaps second := by
  apply Finset.card_le_card
  intro leap member
  obtain ⟨counted, before⟩ := Finset.mem_filter.mp member
  exact Finset.mem_filter.mpr ⟨counted, Int.lt_of_lt_of_le before ordered⟩

theorem leapsBefore_lt {first second : Int} (counted : first ∈ leaps) (before : first < second) :
    leapsBefore leaps first < leapsBefore leaps second := by
  apply Finset.card_lt_card
  refine ⟨?_, ?_⟩
  · intro leap member
    obtain ⟨counted, early⟩ := Finset.mem_filter.mp member
    exact Finset.mem_filter.mpr ⟨counted, Int.lt_trans early before⟩
  · intro all
    have own := all (Finset.mem_filter.mpr ⟨counted, before⟩)
    exact Int.lt_irrefl first (Finset.mem_filter.mp own).2

theorem clock_mono (counted : earlier.Counted leaps) (ordered : earlier ≤ later) :
    clock leaps earlier ≤ clock leaps later := by
  rw [le_iff] at ordered
  have shortEarlier := earlier.nanos_lt
  have shortLater := later.nanos_lt
  unfold clock
  by_cases same : earlier.second = later.second
  · rw [same]
    simp only [place, toNanos, nanosPerSecond] at ordered ⊢
    omega
  · have before : earlier.second < later.second := by
      simp only [place, nanosPerSecond] at ordered shortEarlier shortLater
      omega
    have passed : leapsBefore leaps earlier.second ≤ leapsBefore leaps later.second :=
      leapsBefore_mono (Int.le_of_lt before)
    by_cases leap : earlier.IsLeap
    · have ended := leapsBefore_lt (counted leap) before
      simp only [toNanos, nanosPerSecond] at shortEarlier ⊢
      omega
    · simp only [IsLeap, toNanos, nanosPerSecond] at leap ⊢
      omega

/-- The clock runs at least as long as a length of time that is added. -/
theorem Reaches.clock (reaches : Reaches instant span later) (counted : instant.Counted leaps)
    (positive : 0 < span.nanos) : instant.clock leaps + span.nanos ≤ later.clock leaps := by
  unfold Instant.clock
  cases reaches with
  | outside notLeap landed reached =>
      have ordered : instant.second ≤ later.second := by
        simp only [IsLeap, toNanos, nanosPerSecond] at notLeap landed reached
        omega
      have passed : leapsBefore leaps instant.second ≤ leapsBefore leaps later.second :=
        leapsBefore_mono ordered
      simp only [nanosPerSecond]
      omega
  | leaving leap _landed before reached =>
      have passed := leapsBefore_lt (counted leap) before
      simp only [nanosPerSecond] at reached ⊢
      omega
  | within _leap same reached =>
      rw [same]
      omega

theorem clock_deadline (counted : instant.Counted leaps) (positive : 0 < span.nanos) :
    instant.deadline span = latest ∨
      instant.clock leaps + span.nanos ≤ (instant.deadline span).clock leaps := by
  unfold deadline
  cases added : instant.add? span with
  | none => exact Or.inl rfl
  | some later => exact Or.inr ((reaches_of_add? positive added).clock counted positive)

/-- A deadline within a leap second was set within it. -/
theorem counted_deadline (counted : instant.Counted leaps) (positive : 0 < span.nanos) :
    (instant.deadline span).Counted leaps := by
  unfold deadline
  cases added : instant.add? span with
  | none =>
      intro leap
      have outside : ¬latest.IsLeap := by decide
      exact absurd leap outside
  | some later =>
      intro leap
      cases reaches_of_add? positive added with
      | outside _notLeap landed _reached => exact absurd leap landed
      | leaving _leap landed _before _reached => exact absurd leap landed
      | within ownLeap same _reached =>
          rw [Option.getD_some, same]
          exact counted ownLeap

end Latchkey.Time.Instant
