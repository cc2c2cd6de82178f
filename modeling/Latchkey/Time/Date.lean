/-
Dates of the Gregorian calendar, extended to all years before and after its
introduction, and their distance in days from the first day of 1970. A year is
counted from the first of March, so that a leap day is its last day; four hundred
such years are an era of 146097 days.
-/

namespace Latchkey.Time

structure Date where
  year : Int
  month : Nat
  day : Nat
  deriving DecidableEq, Repr

namespace Date

def daysPerEra : Nat := 146097

/-- The days from the first of March of the year zero to the first day of 1970. -/
def daysBeforeEpoch : Nat := 719468

/-- The days of the years of an era before its year number `year`. -/
def daysBeforeYear (year : Nat) : Nat := year * 365 + year / 4 - year / 100

/-- The days of a year before its month number `month`, March being number zero. -/
def daysBeforeMonth (month : Nat) : Nat := (153 * month + 2) / 5

def toDays (date : Date) : Int :=
  let year := if date.month ≤ 2 then date.year - 1 else date.year
  let month := if date.month ≤ 2 then date.month + 9 else date.month - 3
  let days := daysBeforeYear (year % 400).toNat + daysBeforeMonth month + (date.day - 1)
  year / 400 * daysPerEra + days - daysBeforeEpoch

def ofDays (days : Int) : Date :=
  let sinceMarch := days + daysBeforeEpoch
  let inEra := (sinceMarch % daysPerEra).toNat
  let yearOfEra := (inEra - inEra / 1460 + inEra / 36524 - inEra / 146096) / 365
  let inYear := inEra - daysBeforeYear yearOfEra
  let month := (5 * inYear + 2) / 153
  let year := sinceMarch / daysPerEra * 400 + yearOfEra
  { year := if 10 ≤ month then year + 1 else year
    month := if 10 ≤ month then month - 9 else month + 3
    day := inYear - daysBeforeMonth month + 1 }

def isLeapYear (year : Int) : Bool :=
  year % 4 == 0 && (year % 100 != 0 || year % 400 == 0)

def daysInMonth (year : Int) (month : Nat) : Nat :=
  if month == 2 then if isLeapYear year then 29 else 28
  else if month ∈ [4, 6, 9, 11] then 30
  else if 1 ≤ month ∧ month ≤ 12 then 31
  else 0

def isValid (date : Date) : Bool :=
  1 ≤ date.day && date.day ≤ daysInMonth date.year date.month

end Date

end Latchkey.Time
