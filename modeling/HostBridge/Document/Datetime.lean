/-!
# Dates and times

A datetime of a document is a date, a time of day, or both, with an offset from UTC if it has both.
Its text is normal: `T` between date and time, `Z` for UTC itself, and no zeros at the end of a
fraction of a second.
-/

namespace HostBridge

structure Date where
  year : Nat
  month : Nat
  day : Nat
  deriving DecidableEq, Repr

structure TimeOfDay where
  hour : Nat
  minute : Nat
  second : Nat
  nanosecond : Nat
  deriving DecidableEq, Repr

inductive UtcOffset where
  | zulu
  | minutes (east : Int)
  deriving DecidableEq, Repr

structure Datetime where
  date : Option Date
  time : Option TimeOfDay
  offset : Option UtcOffset
  deriving DecidableEq, Repr

def paddedDigits (width number : Nat) : List Char :=
  let digits := Nat.toDigits 10 number
  List.replicate (width - digits.length) '0' ++ digits

namespace Date

def isLeapYear (year : Nat) : Bool :=
  year % 4 == 0 && (year % 100 != 0 || year % 400 == 0)

def daysInMonth (year month : Nat) : Nat :=
  if month == 2 then if isLeapYear year then 29 else 28
  else if [4, 6, 9, 11].contains month then 30
  else 31

def isValid (date : Date) : Bool :=
  1 ≤ date.month && date.month ≤ 12 && 1 ≤ date.day
    && date.day ≤ daysInMonth date.year date.month

def chars (date : Date) : List Char :=
  paddedDigits 4 date.year ++ '-' :: paddedDigits 2 date.month ++ '-' :: paddedDigits 2 date.day

end Date

namespace TimeOfDay

/-- A minute may have a leap second. -/
def isValid (time : TimeOfDay) : Bool :=
  time.hour ≤ 23 && time.minute ≤ 59 && time.second ≤ 60 && time.nanosecond < 1000000000

def trimZeros (digits : List Char) : List Char :=
  (digits.reverse.dropWhile (· == '0')).reverse

def chars (time : TimeOfDay) : List Char :=
  paddedDigits 2 time.hour ++ ':' :: paddedDigits 2 time.minute
    ++ ':' :: paddedDigits 2 time.second
    ++ if time.nanosecond == 0 then [] else '.' :: trimZeros (paddedDigits 9 time.nanosecond)

end TimeOfDay

namespace UtcOffset

def chars : UtcOffset → List Char
  | .zulu => ['Z']
  | .minutes east =>
    (if east < 0 then '-' else '+') :: paddedDigits 2 (east.natAbs / 60)
      ++ ':' :: paddedDigits 2 (east.natAbs % 60)

end UtcOffset

namespace Datetime

def chars (datetime : Datetime) : List Char :=
  (datetime.date.map Date.chars).getD []
    ++ (if datetime.date.isSome && datetime.time.isSome then ['T'] else [])
    ++ (datetime.time.map TimeOfDay.chars).getD []
    ++ (datetime.offset.map UtcOffset.chars).getD []

def text (datetime : Datetime) : String :=
  String.ofList datetime.chars

end Datetime

end HostBridge
