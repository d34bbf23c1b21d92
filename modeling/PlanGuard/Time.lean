/-!
# Spans and moments

A `Duration` is a span in whole seconds and nanoseconds.  A `Timestamp` is a
moment counted from the start of 1970 in UTC, and `Timestamp.rfc3339` writes it
as a calendar date and time.
-/

namespace PlanGuard

structure Duration where
  seconds : Nat := 0
  nanos : Nat := 0
  deriving DecidableEq

namespace Duration

def zero : Duration := {}

def ofSeconds (seconds : Nat) : Duration := { seconds }

def ofMillis (millis : Nat) : Duration :=
  { seconds := millis / 1000, nanos := millis % 1000 * 1000000 }

def ofNanos (nanos : Nat) : Duration :=
  { seconds := nanos / 1000000000, nanos := nanos % 1000000000 }

def toNanos (span : Duration) : Nat :=
  span.seconds * 1000000000 + span.nanos

def toMillis (span : Duration) : Nat :=
  span.seconds * 1000 + span.nanos / 1000000

def shorter (first second : Duration) : Duration :=
  if second.toNanos < first.toNanos then second else first

end Duration

structure Timestamp where
  seconds : Int := 0
  nanos : Nat := 0
  deriving DecidableEq

namespace Timestamp

/-- A decimal numeral with zeros in front up to `width` digits. -/
def padded (width n : Nat) : String :=
  let digits := toString n
  String.ofList (List.replicate (width - digits.length) '0') ++ digits

structure Date where
  year : Int
  month : Nat
  day : Nat

/--
The date `days` after 1 January 1970.  Years are counted from March, so that
the leap day is the last of its year, in cycles of 400 years.
-/
def Date.ofDays (days : Int) : Date :=
  let shifted := days + 719468
  let era := shifted.fdiv 146097
  let dayOfEra := (shifted - era * 146097).toNat
  let yearOfEra :=
    (dayOfEra - dayOfEra / 1460 + dayOfEra / 36524 - dayOfEra / 146096) / 365
  let dayOfYear :=
    dayOfEra - (365 * yearOfEra + yearOfEra / 4 - yearOfEra / 100)
  let marchMonth := (5 * dayOfYear + 2) / 153
  let month := if marchMonth < 10 then marchMonth + 3 else marchMonth - 9
  { year := yearOfEra + era * 400 + (if month ≤ 2 then 1 else 0)
    month
    day := dayOfYear - (153 * marchMonth + 2) / 5 + 1 }

/-- Four digits, with a sign outside the years 0 to 9999. -/
def yearText (year : Int) : String :=
  if year < 0 then "-" ++ padded 4 year.natAbs
  else if year ≤ 9999 then padded 4 year.toNat
  else "+" ++ toString year.toNat

/-- No fraction, or one of three, six or nine digits, whichever is exact. -/
def fractionText (nanos : Nat) : String :=
  if nanos = 0 then ""
  else if nanos % 1000000 = 0 then "." ++ padded 3 (nanos / 1000000)
  else if nanos % 1000 = 0 then "." ++ padded 6 (nanos / 1000)
  else "." ++ padded 9 nanos

/-- The moment in UTC; a leap second shows as second 60. -/
def rfc3339 (moment : Timestamp) : String :=
  let days := moment.seconds.fdiv 86400
  let inDay := (moment.seconds - days * 86400).toNat
  let date := Date.ofDays days
  let second := inDay % 60 + moment.nanos / 1000000000
  String.join
    [yearText date.year, "-", padded 2 date.month, "-", padded 2 date.day, "T",
      padded 2 (inDay / 3600), ":", padded 2 (inDay / 60 % 60), ":",
      padded 2 second, fractionText (moment.nanos % 1000000000), "Z"]

end Timestamp

end PlanGuard
