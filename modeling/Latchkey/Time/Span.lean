/-
Lengths of time in whole nanoseconds. A length may be negative. The longest one that
can be added to an instant is the largest number of milliseconds that fits 63 bits.
-/

namespace Latchkey.Time

def nanosPerSecond : Nat := 1000000000

structure Span where
  nanos : Int
  deriving DecidableEq, Repr

namespace Span

def ofSeconds (seconds : Int) : Span := ⟨seconds * nanosPerSecond⟩

def ofMillis (millis : Int) : Span := ⟨millis * 1000000⟩

def longest : Span := ofMillis 9223372036854775807

def capped (span : Span) : Span :=
  if longest.nanos < span.nanos then longest else span

/-- The seconds of a length, toward zero. -/
def wholeSeconds (span : Span) : Int := span.nanos.tdiv nanosPerSecond

/-- What the whole seconds leave, with the sign of the length. -/
def subsecond (span : Span) : Int := span.nanos.tmod nanosPerSecond

/-- `count / 10 ^ places` as a decimal without superfluous zeros. -/
private def shownIn (count places : Nat) : String :=
  let whole := toString (count / Nat.pow 10 places)
  let digits := (toString (Nat.pow 10 places + count % Nat.pow 10 places)).toList.drop 1
  let kept := (digits.reverse.dropWhile (· == '0')).reverse
  if kept.isEmpty then whole else whole ++ "." ++ String.ofList kept

/-- A length that is not negative, in the largest unit of which it holds at least one. -/
def shown (span : Span) : String :=
  let count := span.nanos.toNat
  if 1000000000 ≤ count then shownIn count 9 ++ "s"
  else if 1000000 ≤ count then shownIn count 6 ++ "ms"
  else if 1000 ≤ count then shownIn count 3 ++ "µs"
  else shownIn count 0 ++ "ns"

end Span

end Latchkey.Time
