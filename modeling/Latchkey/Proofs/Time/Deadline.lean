/-
Deadlines lie ahead. Whatever length of time begins before the latest instant, it ends
later than it begins, also where it begins within a leap second and where its end is cut
off at the latest instant.
-/

import Latchkey.Time.Instant

namespace Latchkey.Time.Instant

theorem of?_eq_some {second : Int} {nanos : Nat} {instant : Instant}
    (found : of? second nanos = some instant) : instant.second = second ∧ instant.nanos = nanos := by
  unfold of? at found
  split at found
  · split at found
    · cases found
      exact ⟨rfl, rfl⟩
    · cases found
  · cases found

theorem ofNanos?_eq_some {nanos : Int} {instant : Instant} (found : ofNanos? nanos = some instant) :
    instant.second = nanos / nanosPerSecond ∧ (instant.nanos : Int) = nanos % nanosPerSecond := by
  obtain ⟨second, place⟩ := of?_eq_some found
  refine ⟨second, ?_⟩
  rw [place]
  apply Int.toNat_of_nonneg
  apply Int.emod_nonneg
  decide

theorem span_nanos_eq (span : Span) :
    span.nanos = span.wholeSeconds * nanosPerSecond + span.subsecond := by
  have parts := Int.mul_tdiv_add_tmod span.nanos nanosPerSecond
  unfold Span.wholeSeconds Span.subsecond
  rw [Int.mul_comm]
  exact parts.symm

/-- Whether an instant lies within a leap second. -/
def IsLeap (instant : Instant) : Prop := nanosPerSecond ≤ instant.nanos

instance (instant : Instant) : Decidable instant.IsLeap :=
  inferInstanceAs (Decidable (nanosPerSecond ≤ instant.nanos))

theorem not_isLeap_ofNanos? {nanos : Int} {instant : Instant}
    (found : ofNanos? nanos = some instant) : ¬instant.IsLeap := by
  obtain ⟨_second, place⟩ := ofNanos?_eq_some found
  unfold IsLeap
  simp only [nanosPerSecond] at place ⊢
  omega

theorem toNanos_ofNanos? {nanos : Int} {instant : Instant}
    (found : ofNanos? nanos = some instant) : instant.toNanos = nanos := by
  obtain ⟨second, place⟩ := ofNanos?_eq_some found
  unfold toNanos
  simp only [nanosPerSecond] at second place ⊢
  omega

section Adding

variable {instant : Instant} {span : Span}

theorem add?_of_outside (outside : ¬instant.IsLeap) :
    instant.add? span = ofNanos? (instant.toNanos + span.nanos) :=
  if_pos (Nat.not_le.mp outside)

theorem add?_of_leaving (leap : instant.IsLeap) (positive : 0 < span.nanos)
    (leaves : 2 * nanosPerSecond ≤ instant.nanos + span.nanos) :
    instant.add? span = ofNanos? (instant.toNanos - nanosPerSecond + span.nanos) := by
  have rest : 0 ≤ span.subsecond := Int.tmod_nonneg _ (Int.le_of_lt positive)
  have parts := span_nanos_eq span
  have further : 0 < span.wholeSeconds ∨ 2 * nanosPerSecond ≤ instant.nanos + span.subsecond := by
    simp only [nanosPerSecond] at leaves parts ⊢
    omega
  unfold add?
  rw [if_neg (Nat.not_lt.mpr leap)]
  exact if_pos further

theorem add?_of_staying (leap : instant.IsLeap) (positive : 0 < span.nanos)
    (stays : instant.nanos + span.nanos < 2 * nanosPerSecond) :
    ∃ later, instant.add? span = some later ∧ later.second = instant.second ∧
      (later.nanos : Int) = instant.nanos + span.nanos := by
  have whole : 0 ≤ span.wholeSeconds := Int.tdiv_nonneg (Int.le_of_lt positive) (by decide)
  have rest : 0 ≤ span.subsecond := Int.tmod_nonneg _ (Int.le_of_lt positive)
  have parts := span_nanos_eq span
  have small : span.wholeSeconds = 0 ∧ span.subsecond = span.nanos := by
    simp only [IsLeap, nanosPerSecond] at leap stays parts ⊢
    omega
  have noFurther :
      ¬(0 < span.wholeSeconds ∨ 2 * nanosPerSecond ≤ instant.nanos + span.subsecond) := by
    rw [small.1, small.2]
    omega
  have hasPlace : HasPlace instant.second (instant.nanos + span.subsecond).toNat := by
    have own := instant.hasPlace
    unfold HasPlace IsLeap at *
    omega
  refine ⟨⟨instant.second, (instant.nanos + span.subsecond).toNat, instant.inRange, hasPlace⟩,
    ?_, rfl, ?_⟩
  · unfold add? of?
    rw [if_neg (Nat.not_lt.mpr leap)]
    dsimp only
    rw [if_neg noFurther, small.1, if_neg (Int.lt_irrefl 0), dif_pos instant.inRange,
      dif_pos hasPlace]
  · dsimp only
    omega

end Adding

/-- Where a length of time that is added to an instant leads: from outside of a leap second
as far as it is long; from within one on from its start, unless it ends in it. -/
inductive Reaches (instant : Instant) (span : Span) (later : Instant) : Prop
  | outside : ¬instant.IsLeap → ¬later.IsLeap → later.toNanos = instant.toNanos + span.nanos →
      Reaches instant span later
  | leaving : instant.IsLeap → ¬later.IsLeap → instant.second < later.second →
      later.toNanos = instant.toNanos - nanosPerSecond + span.nanos → Reaches instant span later
  | within : instant.IsLeap → later.second = instant.second →
      later.toNanos = instant.toNanos + span.nanos → Reaches instant span later

theorem reaches_of_add? {instant later : Instant} {span : Span} (positive : 0 < span.nanos)
    (added : instant.add? span = some later) : Reaches instant span later := by
  by_cases leap : instant.IsLeap
  · by_cases stays : instant.nanos + span.nanos < 2 * nanosPerSecond
    · obtain ⟨_later, found, second, nanos⟩ := add?_of_staying leap positive stays
      rw [found] at added
      cases added
      refine .within leap second ?_
      rw [toNanos, toNanos, second]
      omega
    · have leaves := Int.not_lt.mp stays
      rw [add?_of_leaving leap positive leaves] at added
      have reached := toNanos_ofNanos? added
      have landed := not_isLeap_ofNanos? added
      refine .leaving leap landed ?_ reached
      simp only [IsLeap, toNanos, nanosPerSecond] at reached leaves landed
      omega
  · rw [add?_of_outside leap] at added
    exact .outside leap (not_isLeap_ofNanos? added) (toNanos_ofNanos? added)

theorem lt_of_add? {instant later : Instant} {span : Span} (positive : 0 < span.nanos)
    (added : instant.add? span = some later) : instant < later := by
  rw [lt_iff]
  unfold place
  have short := instant.nanos_lt
  have reached := reaches_of_add? positive added
  cases reached <;> simp only [IsLeap, toNanos, nanosPerSecond] at * <;> omega

theorem lt_deadline {instant : Instant} {span : Span} (before : instant < latest)
    (positive : 0 < span.nanos) : instant < instant.deadline span := by
  unfold deadline
  cases added : instant.add? span with
  | none => exact before
  | some later => exact lt_of_add? positive added

end Latchkey.Time.Instant
