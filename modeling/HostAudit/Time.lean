import HostAudit.Number.Decimal

/-
This file writes points in time and spans of time.
-/

namespace HostAudit

/-- A day of the calendar. Months and days count from one. -/
structure Day where
  year : Int
  month : Nat
  day : Nat
deriving DecidableEq, Repr

/-- The day that lies `count` days after the first of January 1970. Years are taken to begin in
March, so that a leap day is the last of its year, and are counted in spans of 400. -/
def Day.ofCount (count : Int) : Day :=
  let shifted := count + 719468
  let era := shifted / 146097
  let inEra := (shifted % 146097).toNat
  let yearOfEra := (inEra - inEra / 1460 + inEra / 36524 - inEra / 146096) / 365
  let inYear := inEra - (365 * yearOfEra + yearOfEra / 4 - yearOfEra / 100)
  let monthFromMarch := (5 * inYear + 2) / 153
  let day := inYear - (153 * monthFromMarch + 2) / 5 + 1
  let month := if monthFromMarch < 10 then monthFromMarch + 3 else monthFromMarch - 9
  ⟨yearOfEra + era * 400 + (if month ≤ 2 then 1 else 0), month, day⟩

/-- A year has four digits; one that needs more, or lies before year zero, has a sign. -/
def yearChars (year : Int) : List Char :=
  if 0 ≤ year ∧ year ≤ 9999 then Integer.padded 4 year.toNat
  else (if year < 0 then '-' else '+') :: Integer.padded 4 year.natAbs

/-- Seconds since the first of January 1970, and the nanoseconds that go beyond them. -/
structure Moment where
  seconds : Int
  nanoseconds : Nat
deriving DecidableEq, Repr

/-- A fraction has three, six or nine digits, as it needs, or is left out. -/
def fractionChars (nanoseconds : Nat) : List Char :=
  if nanoseconds = 0 then []
  else if nanoseconds % 1000000 = 0 then '.' :: Integer.padded 3 (nanoseconds / 1000000)
  else if nanoseconds % 1000 = 0 then '.' :: Integer.padded 6 (nanoseconds / 1000)
  else '.' :: Integer.padded 9 nanoseconds

/-- The date and the time of a moment, with no offset from universal time. -/
def Moment.text (moment : Moment) : String :=
  let day := Day.ofCount (moment.seconds / 86400)
  let inDay := (moment.seconds % 86400).toNat
  String.ofList (yearChars day.year ++ '-' :: Integer.padded 2 day.month ++
    '-' :: Integer.padded 2 day.day ++ 'T' :: Integer.padded 2 (inDay / 3600) ++
    ':' :: Integer.padded 2 (inDay / 60 % 60) ++ ':' :: Integer.padded 2 (inDay % 60) ++
    fractionChars moment.nanoseconds) ++ "+00:00"

/-- A span of time: whole seconds, and the nanoseconds that go beyond them. -/
structure Span where
  seconds : Nat
  nanoseconds : Nat
deriving DecidableEq, Repr

def Span.milliseconds (span : Span) : Nat := span.seconds * 1000 + span.nanoseconds / 1000000

/-- The seconds of a span, as the sum of two binary64 values. -/
def Span.toDouble (span : Span) : Double :=
  (Double.ofNat span.seconds).addMagnitudes
    ((Double.ofNat span.nanoseconds).div (Double.ofNat 1000000000))

/-- A span in milliseconds, or from a second on in seconds with two decimals. -/
def Span.text (span : Span) : String :=
  if span.milliseconds = 0 then "< 1ms"
  else if span.milliseconds < 1000 then Integer.naturalText span.milliseconds ++ "ms"
  else span.toDouble.fixedText 2 ++ "s"

end HostAudit
