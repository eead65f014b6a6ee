import Depot.Log.Instant

namespace Depot.Log

/-- A date and time of day in the Gregorian calendar, without leap seconds. -/
structure Date where
  year : Int
  month : Nat
  day : Nat
  hour : Nat
  minute : Nat
  second : Nat

/-- Days are counted from the epoch; a year starts in March, so that a leap day ends one. -/
def civilDate (days : Int) : Int × Nat × Nat :=
  let shifted := days + 719468
  let era := shifted.fdiv 146097
  let dayOfEra := (shifted.fmod 146097).toNat
  let yearOfEra := (dayOfEra - dayOfEra / 1460 + dayOfEra / 36524 - dayOfEra / 146096) / 365
  let dayOfYear := dayOfEra - (365 * yearOfEra + yearOfEra / 4 - yearOfEra / 100)
  let fromMarch := (5 * dayOfYear + 2) / 153
  let month := if fromMarch < 10 then fromMarch + 3 else fromMarch - 9
  let year := (yearOfEra : Int) + era * 400
  (if month ≤ 2 then year + 1 else year, month, dayOfYear - (153 * fromMarch + 2) / 5 + 1)

def Date.ofSeconds (seconds : Int) : Date :=
  let (year, month, day) := civilDate (seconds.fdiv 86400)
  let ofDay := (seconds.fmod 86400).toNat
  ⟨year, month, day, ofDay / 3600, ofDay / 60 % 60, ofDay % 60⟩

/-- A number with zeros in front up to the given width. -/
def padded (width n : Nat) : String :=
  let digits := Nat.toDigits 10 n
  String.ofList (List.replicate (width - digits.length) '0' ++ digits)

def Date.monthDay (d : Date) : String := "-" ++ padded 2 d.month ++ "-" ++ padded 2 d.day

def Date.clock (d : Date) : String :=
  padded 2 d.hour ++ ":" ++ padded 2 d.minute ++ ":" ++ padded 2 d.second

/-- Why the machine has no date for a count of seconds: the count, or the number of years since 1900,
does not fit its word. -/
def machineFault? (seconds : Int) : Option Fault :=
  let year := (Date.ofSeconds seconds).year
  if seconds < -9223372036854775808 ∨ 9223372036854775808 ≤ seconds then
    some (.raised .overflow "timestamp out of range for platform time_t")
  else if year - 1900 < -2147483648 ∨ 2147483648 ≤ year - 1900 then
    some (.raised .system "[Errno 75] Value too large for defined data type")
  else none

/-- Universal time with microseconds unless they are zero, in the years 1 to 9999. -/
def isoTime (seconds : Int) (micros : Nat) : Attempt String :=
  match machineFault? seconds with
  | some fault => .error fault
  | none =>
    let date := Date.ofSeconds seconds
    if 1 ≤ date.year ∧ date.year ≤ 9999 then
      .ok (padded 4 date.year.toNat ++ date.monthDay ++ "T" ++ date.clock ++
        (if micros = 0 then "" else "." ++ padded 6 micros) ++ "+00:00")
    else .error (.raised .value ("year " ++ toString (date.year.bmod 4294967296) ++ " is out of range"))

/-- Universal time with a comma before the milliseconds. Years are written as they are; those beyond a
machine word have no such form. -/
def plainTime (seconds : Int) (millis : Nat) : Attempt String :=
  match machineFault? seconds with
  | some fault => .error fault
  | none =>
    let date := Date.ofSeconds seconds
    if 2147483647 < date.year then .error (.raised .overflow "signed integer is greater than maximum")
    else .ok (toString date.year ++ date.monthDay ++ " " ++ date.clock ++ "," ++ padded 3 millis)

end Depot.Log
