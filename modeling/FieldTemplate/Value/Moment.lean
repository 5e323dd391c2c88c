import FieldTemplate.Text.Basic

/-!
# Dates, times of day and timestamps

The proleptic Gregorian calendar from year 1 to 9999.  `Date.of?` and `TimeOfDay.of?` refuse
fields out of range and say which one; `toText` is the ISO 8601 form.
-/

namespace FieldTemplate

set_option autoImplicit false

structure Date where
  year : Nat
  month : Nat
  day : Nat
deriving DecidableEq, Repr

/-- `offset` is the offset from UTC in seconds, if one is known. -/
structure TimeOfDay where
  hour : Nat
  minute : Nat
  second : Nat
  micro : Nat
  offset : Option Int
deriving DecidableEq, Repr

structure Timestamp where
  date : Date
  time : TimeOfDay
deriving DecidableEq, Repr

/-- Why a date or a time does not exist. -/
inductive MomentError where
  | year (year : Nat)
  | month
  | day
  | hour
  | minute
  | second
  | offset (seconds : Int)
deriving DecidableEq, Repr

/-- A duration as days and a remainder of less than a day, by field. -/
def durationText (seconds : Int) : Text :=
  let days := seconds / 86400
  let rest := seconds % 86400
  let fields := (if days = 0 then [] else ["days=".toList ++ Text.ofInt days]) ++
    (if rest = 0 then [] else ["seconds=".toList ++ Text.ofInt rest])
  "datetime.timedelta(".toList ++
    (if fields.isEmpty then ['0'] else Text.join [',', ' '] fields) ++ [')']

def MomentError.message : MomentError → Text
  | .year y => "year ".toList ++ Text.ofNat y ++ " is out of range".toList
  | .month => "month must be in 1..12".toList
  | .day => "day is out of range for month".toList
  | .hour => "hour must be in 0..23".toList
  | .minute => "minute must be in 0..59".toList
  | .second => "second must be in 0..59".toList
  | .offset seconds =>
    "offset must be a timedelta strictly between -timedelta(hours=24) and ".toList ++
      "timedelta(hours=24), not ".toList ++ durationText seconds ++ ['.']

namespace Date

def isLeap (year : Nat) : Bool := year % 4 == 0 && (year % 100 != 0 || year % 400 == 0)

def daysInMonth (year month : Nat) : Nat :=
  if month = 2 then (if isLeap year then 29 else 28)
  else if month = 4 ∨ month = 6 ∨ month = 9 ∨ month = 11 then 30 else 31

def of? (year month day : Nat) : Except MomentError Date :=
  if year = 0 ∨ 9999 < year then .error (.year year)
  else if month = 0 ∨ 12 < month then .error .month
  else if day = 0 ∨ daysInMonth year month < day then .error .day
  else .ok ⟨year, month, day⟩

def toText (d : Date) : Text :=
  Text.padLeft 4 '0' (Text.ofNat d.year) ++ '-' :: Text.padLeft 2 '0' (Text.ofNat d.month) ++
    '-' :: Text.padLeft 2 '0' (Text.ofNat d.day)

/-- Days since the first of March of the year zero. -/
def dayNumber (d : Date) : Int :=
  let m := (d.month + 9) % 12
  let y : Int := (d.year : Int) - m / 10
  365 * y + y / 4 - y / 100 + y / 400 + ((m * 306 + 5) / 10 : Nat) + (d.day - 1 : Nat)

end Date

namespace TimeOfDay

def of? (hour minute second micro : Nat) (offset : Option Int) : Except MomentError TimeOfDay :=
  if 23 < hour then .error .hour
  else if 59 < minute then .error .minute
  else if 59 < second then .error .second
  else .ok ⟨hour, minute, second, micro, offset⟩

/-- An offset of a whole day or more is refused. -/
def checkOffset (seconds : Int) : Except MomentError Int :=
  if seconds.natAbs < 86400 then .ok seconds else .error (.offset seconds)

def offsetText (seconds : Int) : Text :=
  let n := seconds.natAbs
  (if seconds < 0 then '-' else '+') :: Text.padLeft 2 '0' (Text.ofNat (n / 3600)) ++
    ':' :: Text.padLeft 2 '0' (Text.ofNat (n / 60 % 60)) ++
    (if n % 60 = 0 then [] else ':' :: Text.padLeft 2 '0' (Text.ofNat (n % 60)))

def toText (t : TimeOfDay) : Text :=
  Text.padLeft 2 '0' (Text.ofNat t.hour) ++ ':' :: Text.padLeft 2 '0' (Text.ofNat t.minute) ++
    ':' :: Text.padLeft 2 '0' (Text.ofNat t.second) ++
    (if t.micro = 0 then [] else '.' :: Text.padLeft 6 '0' (Text.ofNat t.micro)) ++
    (match t.offset with | none => [] | some seconds => offsetText seconds)

/-- Microseconds since midnight at the zero meridian, or of the local clock. -/
def instant (t : TimeOfDay) : Int :=
  (((t.hour * 60 + t.minute) * 60 + t.second : Nat) - t.offset.getD 0) * 1000000 + t.micro

end TimeOfDay

namespace Timestamp

def toText (t : Timestamp) : Text := t.date.toText ++ 'T' :: t.time.toText

/-- Microseconds on the line of days. -/
def instant (t : Timestamp) : Int := t.date.dayNumber * 86400000000 + t.time.instant

end Timestamp

end FieldTemplate
