/-
Instants of universal time. An instant is a second, counted from the start of 1970,
and a place within it. The last second of a minute may be a leap second: then the
places from one billion nanoseconds on lie within the second that is inserted after
it. Instants reach from the start of the year -262143 to the end of the year 262142,
and deadlines beyond the latest instant are the latest instant.
-/

import Latchkey.Time.Span

namespace Latchkey.Time

def earliestSecond : Int := -8334601228800

def latestSecond : Int := 8210266876799

/-- Whether a second has a place: within the first billion nanoseconds always, within
the second billion only at the end of a minute. -/
def HasPlace (second : Int) (nanos : Nat) : Prop :=
  nanos < nanosPerSecond ∨ (nanos < 2 * nanosPerSecond ∧ second % 60 = 59)

instance (second : Int) (nanos : Nat) : Decidable (HasPlace second nanos) :=
  inferInstanceAs (Decidable (_ ∨ _))

structure Instant where
  second : Int
  nanos : Nat
  inRange : earliestSecond ≤ second ∧ second ≤ latestSecond
  hasPlace : HasPlace second nanos
  deriving DecidableEq, Repr

namespace Instant

theorem nanos_lt (instant : Instant) : instant.nanos < 2 * nanosPerSecond := by
  have place := instant.hasPlace
  unfold HasPlace at place
  omega

def of? (second : Int) (nanos : Nat) : Option Instant :=
  if inRange : earliestSecond ≤ second ∧ second ≤ latestSecond then
    if hasPlace : HasPlace second nanos then some ⟨second, nanos, inRange, hasPlace⟩ else none
  else none

/-- The last nanosecond that is not part of a leap second. -/
def latest : Instant := ⟨latestSecond, 999999999, by decide, by decide⟩

def earliest : Instant := ⟨earliestSecond, 0, by decide, by decide⟩

def epoch : Instant := ⟨0, 0, by decide, by decide⟩

/-- The place of an instant on a line on which every second has room for a leap second. -/
def place (instant : Instant) : Int := instant.second * (2 * nanosPerSecond) + instant.nanos

instance : LT Instant := ⟨fun left right => left.place < right.place⟩

instance : LE Instant := ⟨fun left right => left.place ≤ right.place⟩

instance (left right : Instant) : Decidable (left < right) :=
  inferInstanceAs (Decidable (left.place < right.place))

instance (left right : Instant) : Decidable (left ≤ right) :=
  inferInstanceAs (Decidable (left.place ≤ right.place))

theorem lt_iff {left right : Instant} : left < right ↔ left.place < right.place := Iff.rfl

theorem le_iff {left right : Instant} : left ≤ right ↔ left.place ≤ right.place := Iff.rfl

/-- The instant that lies a number of nanoseconds after the start of 1970, leap seconds
left out of the count. -/
def ofNanos? (nanos : Int) : Option Instant :=
  of? (nanos / nanosPerSecond) (nanos % nanosPerSecond).toNat

/-- The nanoseconds from the start of 1970, leap seconds left out of the count; a place
in a leap second counts as one in the second that follows. -/
def toNanos (instant : Instant) : Int := instant.second * nanosPerSecond + instant.nanos

/-- The instant that lies a length of time after another. From within a leap second one
either stays in the second to which it was added or goes on from outside of it: forward
from its start, back from its end. -/
def add? (instant : Instant) (span : Span) : Option Instant :=
  if instant.nanos < nanosPerSecond then ofNanos? (instant.toNanos + span.nanos)
  else
    let reached := instant.nanos + span.subsecond
    if 0 < span.wholeSeconds ∨ 2 * nanosPerSecond ≤ reached then
      ofNanos? (instant.toNanos - nanosPerSecond + span.nanos)
    else if span.wholeSeconds < 0 then ofNanos? (instant.toNanos + span.nanos)
    else of? instant.second reached.toNat

def deadline (instant : Instant) (span : Span) : Instant :=
  (instant.add? span).getD latest

end Instant

end Latchkey.Time
