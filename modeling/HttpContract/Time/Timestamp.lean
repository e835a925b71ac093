import HttpContract.Text.Decimal

/-! Points in time, shown at an offset from universal time. -/
namespace HttpContract

/-- Seconds and nanoseconds after the start of 1970, and the offset, in seconds, to show it at. -/
structure Timestamp where
  unix : Int
  nanos : Nat := 0
  offset : Int := 0
  deriving DecidableEq, Inhabited

/-- A date of the Gregorian calendar, extended to all years. -/
structure CalendarDate where
  year : Int
  month : Nat
  day : Nat
  deriving DecidableEq, Inhabited

namespace CalendarDate

/-- The date a number of days after the start of 1970. The calendar repeats every 400 years; years
are counted from March, so that the day of a leap year comes last. -/
def ofDays (days : Int) : CalendarDate :=
  let shifted := days + 719468
  let era := shifted / 146097
  let dayOfEra := (shifted % 146097).toNat
  let yearOfEra := (dayOfEra - dayOfEra / 1460 + dayOfEra / 36524 - dayOfEra / 146096) / 365
  let dayOfYear := dayOfEra - (365 * yearOfEra + yearOfEra / 4 - yearOfEra / 100)
  let monthFromMarch := (5 * dayOfYear + 2) / 153
  let month := if monthFromMarch < 10 then monthFromMarch + 3 else monthFromMarch - 9
  { year := era * 400 + yearOfEra + (if month ≤ 2 then 1 else 0)
    month
    day := dayOfYear - (153 * monthFromMarch + 2) / 5 + 1 }

/-- Four digits of the year at least, with a sign for years before 0 or beyond 9999. -/
def text (date : CalendarDate) : Text :=
  (if date.year < 0 then ['-'] else if date.year > 9999 then ['+'] else []) ++
    Text.decimalPadded 4 date.year.natAbs ++ ['-'] ++ Text.decimalPadded 2 date.month ++ ['-'] ++
    Text.decimalPadded 2 date.day

end CalendarDate

namespace Timestamp

def date (time : Timestamp) : CalendarDate :=
  CalendarDate.ofDays ((time.unix + time.offset) / 86400)

def secondOfDay (time : Timestamp) : Nat := ((time.unix + time.offset) % 86400).toNat

def hour (time : Timestamp) : Nat := time.secondOfDay / 3600

def minute (time : Timestamp) : Nat := time.secondOfDay / 60 % 60

def second (time : Timestamp) : Nat := time.secondOfDay % 60

/-- Nine digits of the nanoseconds without the zeros at the end. -/
def fractionDigits (time : Timestamp) : Text :=
  ((Text.decimalPadded 9 time.nanos).reverse.dropWhile (· == '0')).reverse

def offsetText (time : Timestamp) : Text :=
  (if time.offset < 0 then ['-'] else ['+']) ++
    Text.decimalPadded 2 (time.offset.natAbs / 3600) ++ [':'] ++
    Text.decimalPadded 2 (time.offset.natAbs / 60 % 60)

/-- Whether the internet form can show it: a year of four digits, and an offset of less than a
day in whole minutes. -/
def isInternetTime (time : Timestamp) : Bool :=
  0 ≤ time.date.year && time.date.year ≤ 9999 && time.offset.natAbs % 60 == 0 &&
    time.offset.natAbs < 86400

def internetText (time : Timestamp) : Text :=
  let fraction := time.fractionDigits
  time.date.text ++ ['T'] ++ Text.decimalPadded 2 time.hour ++ [':'] ++
    Text.decimalPadded 2 time.minute ++ [':'] ++ Text.decimalPadded 2 time.second ++
    (if fraction.isEmpty then [] else '.' :: fraction) ++
    (if time.offset = 0 then ['Z'] else time.offsetText)

def plainText (time : Timestamp) : Text :=
  let fraction := time.fractionDigits
  time.date.text ++ [' '] ++ Text.decimal time.hour ++ [':'] ++
    Text.decimalPadded 2 time.minute ++ [':'] ++ Text.decimalPadded 2 time.second ++ ['.'] ++
    (if fraction.isEmpty then ['0'] else fraction) ++ [' '] ++ time.offsetText ++ [':'] ++
    Text.decimalPadded 2 (time.offset.natAbs % 60)

/-- The internet form where it can show the time. -/
def text (time : Timestamp) : Text :=
  if time.isInternetTime then time.internetText else time.plainText

end Timestamp
end HttpContract
