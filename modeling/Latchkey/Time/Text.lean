/-
Instants as text: year, month and day, `T`, the time of day and the offset from
universal time. The time has a fraction of three, six or nine places where it needs
one. Years outside 0 to 9999 carry a sign. A place in a leap second is shown in a
second number 60.
-/

import Latchkey.Time.Date
import Latchkey.Time.Instant

namespace Latchkey.Time

def padded (width number : Nat) : String :=
  let digits := Nat.toDigits 10 number
  String.ofList (List.replicate (width - digits.length) '0' ++ digits)

def yearText (year : Int) : String :=
  if 0 ≤ year ∧ year ≤ 9999 then padded 4 year.toNat
  else (if year < 0 then "-" else "+") ++ padded 4 year.natAbs

def Date.text (date : Date) : String :=
  yearText date.year ++ "-" ++ padded 2 date.month ++ "-" ++ padded 2 date.day

/-- The fraction of a second, with the fewest of 0, 3, 6 and 9 places that hold it. -/
def fractionText (nanos : Nat) : String :=
  if nanos = 0 then ""
  else if nanos % 1000000 = 0 then "." ++ padded 3 (nanos / 1000000)
  else if nanos % 1000 = 0 then "." ++ padded 6 (nanos / 1000)
  else "." ++ padded 9 nanos

def secondsPerDay : Nat := 86400

def Instant.localText (instant : Instant) : String :=
  let inDay := (instant.second % secondsPerDay).toNat
  let second := inDay % 60 + instant.nanos / nanosPerSecond
  (Date.ofDays (instant.second / secondsPerDay)).text ++ "T" ++ padded 2 (inDay / 3600) ++ ":"
    ++ padded 2 (inDay / 60 % 60) ++ ":" ++ padded 2 second
    ++ fractionText (instant.nanos % nanosPerSecond)

def Instant.text (instant : Instant) : String := instant.localText ++ "+00:00"

def Instant.shown (instant : Instant) : String := instant.localText ++ "Z"

private def digits? : (count : Nat) → List Char → Option (Nat × List Char)
  | 0, rest => some (0, rest)
  | _ + 1, [] => none
  | count + 1, char :: rest =>
      if char.isDigit then do
        let (value, rest) ← digits? count rest
        pure ((char.toNat - '0'.toNat) * Nat.pow 10 count + value, rest)
      else none

private def mark? (mark : Char) : List Char → Option (List Char)
  | [] => none
  | char :: rest => if char = mark then some rest else none

/-- The nanoseconds of an optional fraction, of which nine places count. -/
private def fraction? : List Char → Option (Nat × List Char)
  | '.' :: rest =>
      let (places, rest) := rest.span Char.isDigit
      if places.isEmpty then none
      else
        let kept := (places ++ List.replicate 9 '0').take 9
        some (kept.foldl (fun value char => value * 10 + (char.toNat - '0'.toNat)) 0, rest)
  | rest => some (0, rest)

/-- The seconds by which an offset is ahead of universal time. -/
private def offset? : List Char → Option Int
  | ['Z'] | ['z'] => some 0
  | sign :: rest => do
      let (hours, rest) ← digits? 2 rest
      let rest ← mark? ':' rest
      let (minutes, rest) ← digits? 2 rest
      if rest.isEmpty ∧ hours < 24 ∧ minutes < 60 then
        if sign = '+' then some (hours * 3600 + minutes * 60)
        else if sign = '-' then some (-(hours * 3600 + minutes * 60))
        else none
      else none
  | [] => none

def Instant.ofText? (text : String) : Option Instant := do
  let (year, rest) ← digits? 4 text.toList
  let rest ← mark? '-' rest
  let (month, rest) ← digits? 2 rest
  let rest ← mark? '-' rest
  let (day, rest) ← digits? 2 rest
  let rest ← mark? 'T' rest <|> mark? 't' rest <|> mark? ' ' rest
  let (hour, rest) ← digits? 2 rest
  let rest ← mark? ':' rest
  let (minute, rest) ← digits? 2 rest
  let rest ← mark? ':' rest
  let (second, rest) ← digits? 2 rest
  let (nanos, rest) ← fraction? rest
  let ahead ← offset? rest
  let date : Date := ⟨year, month, day⟩
  if date.isValid ∧ hour < 24 ∧ minute < 60 ∧ second ≤ 60 then
    let start := date.toDays * secondsPerDay + hour * 3600 + minute * 60 - ahead
    if second = 60 then Instant.of? (start + 59) (nanos + nanosPerSecond)
    else Instant.of? (start + second) nanos
  else none

end Latchkey.Time
