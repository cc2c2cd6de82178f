/-
The pace of wrong passwords. Of those that the lockout machine looked at, each lock stands
for as many as the threshold says and the counter for the others; and between the
beginnings of two locks lies at least the span of one. So the looks are bounded by the time
that went by, on a clock that counts the leap seconds in which a lock begins.
-/

import Latchkey.Proofs.Lockout.Machine
import Latchkey.Proofs.Time.Clock

namespace Latchkey.Lockout.Machine

open Time (Instant)

/-- A lock that began in time: the locks before it fit in the time that went by, and those
with it in the time until its end. -/
structure Engaged (policy : LockoutPolicy) (leaps : Finset Int) (begun reached : Int)
    (level : Nat) (deadline : Instant) : Prop where
  before : begun + ((level : Int) - 1) * policy.lockSpan.nanos ≤ reached
  ends : deadline = .latest ∨ begun + level * policy.lockSpan.nanos ≤ deadline.clock leaps
  counted : deadline.Counted leaps

/-- Whether a machine that began with no lock at one time has looked at so many wrong
passwords until another. -/
structure Paced (policy : LockoutPolicy) (leaps : Finset Int) (begun reached : Int) (looks : Nat)
    (machine : Machine) : Prop where
  looks : looks = policy.threshold * machine.level + machine.count
  bounded : machine.count < policy.threshold
  free : machine.deadline = none → begun + machine.level * policy.lockSpan.nanos ≤ reached
  held : ∀ deadline, machine.deadline = some deadline →
    machine.count = 0 ∧ Engaged policy leaps begun reached machine.level deadline

variable {policy : LockoutPolicy} {leaps : Finset Int} {begun reached later : Int} {looks : Nat}
  {machine : Machine} {now : Instant}

theorem paced_fresh (positive : 1 ≤ policy.threshold) (leaps : Finset Int) (begun : Int) :
    Paced policy leaps begun begun 0 {} where
  looks := (Nat.mul_zero policy.threshold).symm
  bounded := positive
  free := by
    intro _unlocked
    change begun + (0 : Int) * policy.lockSpan.nanos ≤ begun
    omega
  held := fun _deadline held => nomatch held

theorem Paced.mono (paced : Paced policy leaps begun reached looks machine)
    (ordered : reached ≤ later) : Paced policy leaps begun later looks machine where
  looks := paced.looks
  bounded := paced.bounded
  free := fun unlocked => Int.le_trans (paced.free unlocked) ordered
  held := by
    intro deadline held
    obtain ⟨cleared, before, ends, counted⟩ := paced.held deadline held
    exact ⟨cleared, Int.le_trans before ordered, ends, counted⟩

theorem Paced.lift (paced : Paced policy leaps begun (now.clock leaps) looks machine)
    (notLocked : ∀ deadline, LockState.of machine.deadline now ≠ .lockedUntil deadline)
    (before : now < .latest) : Paced policy leaps begun (now.clock leaps) looks machine.lift := by
  unfold Machine.lift
  by_cases unlocked : machine.deadline = none
  · rw [if_pos unlocked]
    exact paced
  · rw [if_neg unlocked]
    obtain ⟨deadline, held⟩ := Option.ne_none_iff_exists'.mp unlocked
    obtain ⟨cleared, engaged⟩ := paced.held deadline held
    have past : ¬now < deadline := fun ahead =>
      notLocked deadline (LockState.of_eq_lockedUntil.mpr ⟨held, ahead⟩)
    have lasted : begun + machine.level * policy.lockSpan.nanos ≤ now.clock leaps := by
      rcases engaged.ends with rfl | ends
      · exact absurd before past
      · exact Int.le_trans ends (Time.Instant.clock_mono engaged.counted (Int.not_lt.mp past))
    refine ⟨?_, ?_, fun _unlocked => lasted, fun _deadline held => nomatch held⟩
    · rw [paced.looks, cleared]
    · exact Nat.lt_of_le_of_lt (Nat.zero_le _) paced.bounded

theorem Paced.fail (paced : Paced policy leaps begun (now.clock leaps) looks machine)
    (unlocked : machine.deadline = none) (counted : now.Counted leaps)
    (lasting : 0 < policy.lockSpan.nanos) :
    Paced policy leaps begun (now.clock leaps) (looks + 1) (machine.fail policy now) := by
  have bounded := paced.bounded
  have free := paced.free unlocked
  unfold Machine.fail
  by_cases below : machine.count + 1 < policy.threshold
  · rw [if_pos below]
    refine ⟨?_, below, fun _unlocked => free, ?_⟩
    · change looks + 1 = policy.threshold * machine.level + (machine.count + 1)
      rw [paced.looks, Nat.add_assoc]
    · intro deadline held
      rw [unlocked] at held
      cases held
  · rw [if_neg below]
    have reaching : policy.threshold = machine.count + 1 := by omega
    refine ⟨?_, Nat.lt_of_le_of_lt (Nat.zero_le _) bounded, (fun unlocked => nomatch unlocked), ?_⟩
    · change looks + 1 = policy.threshold * (machine.level + 1) + 0
      rw [paced.looks, Nat.mul_succ]
      omega
    · rintro deadline ⟨⟩
      refine ⟨rfl, ?_, ?_, Time.Instant.counted_deadline counted lasting⟩
      · change begun + (((machine.level + 1 : Nat) : Int) - 1) * policy.lockSpan.nanos ≤ _
        rw [Int.natCast_succ, Int.add_sub_cancel]
        exact free
      · refine (Time.Instant.clock_deadline counted lasting).imp_right fun ends => ?_
        change begun + ((machine.level + 1 : Nat) : Int) * policy.lockSpan.nanos ≤ _
        rw [Int.natCast_succ, Int.add_mul, Int.one_mul]
        omega

theorem Paced.step {earlier : Instant}
    (paced : Paced policy leaps begun (earlier.clock leaps) looks machine) (ordered : earlier ≤ now)
    (before : now < .latest) (counted : earlier.Counted leaps) (countedNow : now.Counted leaps)
    (lasting : 0 < policy.lockSpan.nanos) :
    Paced policy leaps begun (now.clock leaps)
      (looks + (machine.step policy false now).1.verifications)
      (machine.step policy false now).2 := by
  have waited := paced.mono (Time.Instant.clock_mono counted ordered)
  rcases (LockState.of machine.deadline now).holds_or_open with ⟨deadline, locked⟩ | notLocked
  · obtain ⟨held, ahead⟩ := LockState.of_eq_lockedUntil.mp locked
    rw [step_locked held ahead]
    exact waited
  · rw [step_open notLocked]
    exact (waited.lift notLocked before).fail machine.lift_deadline countedNow lasting

theorem Paced.looks_le (paced : Paced policy leaps begun reached looks machine)
    (lasting : 0 < policy.lockSpan.nanos) :
    (looks : Int) ≤ policy.threshold * (1 + (reached - begun) / policy.lockSpan.nanos) := by
  have bounded := paced.bounded
  have total : (looks : Int) = policy.threshold * machine.level + machine.count := by
    exact_mod_cast paced.looks
  -- Without a lock all the locks have lasted; with one, all but the last.
  cases held : machine.deadline with
  | none =>
      have free := paced.free held
      have locks : (machine.level : Int) ≤ (reached - begun) / policy.lockSpan.nanos :=
        Int.le_ediv_of_mul_le lasting (by omega)
      calc (looks : Int)
          ≤ policy.threshold * (1 + machine.level) := by
            rw [total, Int.mul_add]
            omega
        _ ≤ policy.threshold * (1 + (reached - begun) / policy.lockSpan.nanos) := by
            apply Int.mul_le_mul_of_nonneg_left
            · omega
            · exact Int.natCast_nonneg _
  | some deadline =>
      obtain ⟨cleared, engaged⟩ := paced.held deadline held
      have before := engaged.before
      have locks : (machine.level : Int) - 1 ≤ (reached - begun) / policy.lockSpan.nanos :=
        Int.le_ediv_of_mul_le lasting (by omega)
      rw [total, cleared, Int.natCast_zero, Int.add_zero]
      apply Int.mul_le_mul_of_nonneg_left
      · omega
      · exact Int.natCast_nonneg _

end Latchkey.Lockout.Machine
