/-!
# Dates and times

A clock shows seconds since the first day of 1970, read in a zone with a fixed offset. Days are
turned into dates of the Gregorian calendar, extended without end in both directions.
-/

namespace Showcase.Portfolio

structure Clock where
  seconds : Int
  zoneMinutes : Int := 0
  deriving DecidableEq

structure Date where
  year : Int
  month : Nat
  day : Nat
  deriving DecidableEq

/-- The date some days after the first day of 1970. Years are counted from March, so that the leap
day ends a year; an era is 400 years. -/
def Date.ofDays (days : Int) : Date :=
  let shifted := days + 719468
  let era := shifted.fdiv 146097
  let dayOfEra := (shifted.fmod 146097).toNat
  let yearOfEra := (dayOfEra - dayOfEra / 1460 + dayOfEra / 36524 - dayOfEra / 146096) / 365
  let dayOfYear := dayOfEra - (365 * yearOfEra + yearOfEra / 4 - yearOfEra / 100)
  let month := (5 * dayOfYear + 2) / 153
  let year := era * 400 + yearOfEra
  { year := if month < 10 then year else year + 1
    month := if month < 10 then month + 3 else month - 9
    day := dayOfYear - (153 * month + 2) / 5 + 1 }

def weekdays : List String :=
  ["Thursday", "Friday", "Saturday", "Sunday", "Monday", "Tuesday", "Wednesday"]

def months : List String :=
  ["January", "February", "March", "April", "May", "June", "July", "August", "September",
    "October", "November", "December"]

/-- Decimal digits with zeros in front up to a width. -/
def padded (width value : Nat) : String :=
  let digits := toString value
  String.ofList (List.replicate (width - digits.length) '0') ++ digits

/-- Four digits for the years 0 to 9999; others have a sign and at least four digits. -/
def yearText (year : Int) : String :=
  if 0 ≤ year && year ≤ 9999 then padded 4 year.toNat
  else (if year < 0 then "-" else "+") ++ padded 4 year.natAbs

namespace Clock

/-- Seconds of local time. -/
def localSeconds (clock : Clock) : Int := clock.seconds + clock.zoneMinutes * 60

def days (clock : Clock) : Int := clock.localSeconds.fdiv 86400

def secondOfDay (clock : Clock) : Nat := (clock.localSeconds.fmod 86400).toNat

def dateText (clock : Clock) : String :=
  let date := Date.ofDays clock.days
  let weekday := weekdays.getD (clock.days.fmod 7).toNat ""
  let month := months.getD (date.month - 1) ""
  weekday ++ ", " ++ month ++ " " ++ toString date.day ++ ", " ++ yearText date.year

def zoneText (clock : Clock) : String :=
  let minutes := clock.zoneMinutes.natAbs
  (if clock.zoneMinutes < 0 then "-" else "+")
    ++ padded 2 (minutes / 60) ++ ":" ++ padded 2 (minutes % 60)

def timeText (clock : Clock) : String :=
  let second := clock.secondOfDay
  padded 2 (second / 3600) ++ ":" ++ padded 2 (second / 60 % 60) ++ ":" ++ padded 2 (second % 60)
    ++ " " ++ clock.zoneText

end Clock

end Showcase.Portfolio
