/-
Deadlines on a line without end. Where a length of time would end if there were no latest
instant is a place like those of instants; a deadline is the instant at that place or the
latest one. A longer length never ends earlier. One that begins later may do so, but only if
it begins in a leap second, from whose start it is counted, and the other one shortly before.
-/

import Latchkey.Proofs.Time.Deadline

namespace Latchkey.Time.Instant

def placeOfNanos (nanos : Int) : Int :=
  nanos / nanosPerSecond * (2 * nanosPerSecond) + nanos % nanosPerSecond

/-- The place at which a length of time ends that begins at an instant: counted from the
instant, but in a leap second from the start of it unless the end lies in it as well. -/
def reach (instant : Instant) (span : Span) : Int :=
  if instant.IsLeap then
    if instant.nanos + span.nanos < 2 * nanosPerSecond then instant.place + span.nanos
    else placeOfNanos (instant.toNanos - nanosPerSecond + span.nanos)
  else placeOfNanos (instant.toNanos + span.nanos)

section Ordered

variable {earlier later : Instant} {span : Span}

end Ordered

end Latchkey.Time.Instant
