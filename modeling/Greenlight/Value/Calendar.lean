import Greenlight.Text.Pieces

/-! # Dates and times

Calendar dates, times of day, and moments: a date with a time of day and perhaps an offset from
universal time. A value of these types is checked when it is built. -/

namespace Greenlight

/-- A calendar date. -/
structure Date where
  year : Nat
  month : Nat
  day : Nat
deriving DecidableEq, Repr

/-- A time of day. -/
structure Clock where
  hour : Nat
  minute : Nat
  second : Nat
  microsecond : Nat
deriving DecidableEq, Repr

/-- A date and a time of day, at an offset in seconds from universal time if one is given. -/
structure Moment where
  date : Date
  clock : Clock
  offset : Option Int
deriving DecidableEq, Repr

/-- Why numbers make no date or time. -/
inductive CalendarError where
  | year (given : Nat)
  | month
  | day
  | hour
  | minute
  | second
  | offset (seconds : Int)
deriving DecidableEq, Repr

/-- Leap years are those divisible by four, full centuries only if divisible by four hundred. -/
def isLeapYear (year : Nat) : Bool := year % 4 == 0 && (year % 100 != 0 || year % 400 == 0)

/-- The number of days in a month. -/
def daysInMonth (year month : Nat) : Nat :=
  if month = 2 then (if isLeapYear year then 29 else 28)
  else if month = 4 ∨ month = 6 ∨ month = 9 ∨ month = 11 then 30
  else 31

/-- A date between the years 1 and 9999. -/
def Date.make (year month day : Nat) : Except CalendarError Date :=
  if year < 1 ∨ 9999 < year then .error (.year year)
  else if month < 1 ∨ 12 < month then .error .month
  else if day < 1 ∨ daysInMonth year month < day then .error .day
  else .ok ⟨year, month, day⟩

/-- A time of day. -/
def Clock.make (hour minute second microsecond : Nat) : Except CalendarError Clock :=
  if 23 < hour then .error .hour
  else if 59 < minute then .error .minute
  else if 59 < second then .error .second
  else .ok ⟨hour, minute, second, microsecond⟩

/-- An offset from universal time of less than a day. -/
def checkOffset (seconds : Int) : Except CalendarError Int :=
  if seconds.natAbs < 86400 then .ok seconds else .error (.offset seconds)

/-- A span of time as it is shown: whole days, rounded down, and the seconds left over. -/
def spanShown (seconds : Int) : String :=
  let days := Int.fdiv seconds 86400
  let rest := Int.fmod seconds 86400
  let parts := (if days = 0 then [] else [s!"days={days}"]) ++
    (if rest = 0 then [] else [s!"seconds={rest}"])
  if parts.isEmpty then "datetime.timedelta(0)"
  else "datetime.timedelta(" ++ Text.join ", " parts ++ ")"

/-- The cause in words. -/
def CalendarError.message : CalendarError → String
  | .year given => s!"year {given} is out of range"
  | .month => "month must be in 1..12"
  | .day => "day is out of range for month"
  | .hour => "hour must be in 0..23"
  | .minute => "minute must be in 0..59"
  | .second => "second must be in 0..59"
  | .offset seconds =>
    "offset must be a timedelta strictly between -timedelta(hours=24) and timedelta(hours=24), not " ++
      spanShown seconds ++ "."

/-- Year, month and day with hyphens. -/
def Date.text (d : Date) : String :=
  s!"{Text.paddedNat 4 d.year}-{Text.paddedNat 2 d.month}-{Text.paddedNat 2 d.day}"

/-- Hours, minutes and seconds with colons, and six places if there is a part of a second. -/
def Clock.text (c : Clock) : String :=
  let whole := s!"{Text.paddedNat 2 c.hour}:{Text.paddedNat 2 c.minute}:{Text.paddedNat 2 c.second}"
  if c.microsecond = 0 then whole else s!"{whole}.{Text.paddedNat 6 c.microsecond}"

/-- A signed offset in hours and minutes. -/
def offsetText (seconds : Int) : String :=
  let minutes := seconds.natAbs / 60
  let sign := if seconds < 0 then "-" else "+"
  s!"{sign}{Text.paddedNat 2 (minutes / 60)}:{Text.paddedNat 2 (minutes % 60)}"

/-- Date, time of day and offset. -/
def Moment.text (m : Moment) : String :=
  let plain := m.date.text ++ " " ++ m.clock.text
  match m.offset with
  | none => plain
  | some seconds => plain ++ offsetText seconds

/-- A date as it is shown inside other values. -/
def Date.shown (d : Date) : String := s!"datetime.date({d.year}, {d.month}, {d.day})"

/-- The parts of a time of day, seconds and parts of seconds only if they are needed. -/
def Clock.parts (c : Clock) : List Nat :=
  [c.hour, c.minute] ++
    (if c.microsecond ≠ 0 then [c.second, c.microsecond]
     else if c.second ≠ 0 then [c.second] else [])

/-- A time of day as it is shown inside other values. -/
def Clock.shown (c : Clock) : String :=
  "datetime.time(" ++ Text.join ", " (c.parts.map Nat.repr) ++ ")"

/-- A moment as it is shown inside other values. -/
def Moment.shown (m : Moment) : String :=
  let numbers := ([m.date.year, m.date.month, m.date.day] ++ m.clock.parts).map Nat.repr
  let zone :=
    match m.offset with
    | none => []
    | some 0 => ["tzinfo=datetime.timezone.utc"]
    | some seconds => ["tzinfo=datetime.timezone(" ++ spanShown seconds ++ ")"]
  "datetime.datetime(" ++ Text.join ", " (numbers ++ zone) ++ ")"

/-- The number of days before a year, counted from the year 1. -/
def daysBeforeYear (year : Nat) : Nat :=
  let y := year - 1
  y * 365 + y / 4 - y / 100 + y / 400

/-- The number of days before a date, counted from the year 1. -/
def Date.dayNumber (d : Date) : Nat :=
  (List.range d.month).foldl (fun days m => if m = 0 then days else days + daysInMonth d.year m)
    (daysBeforeYear d.year + d.day)

/-- Microseconds since the start of the calendar, in universal time. -/
def Moment.instant (m : Moment) : Int :=
  let seconds : Int :=
    m.date.dayNumber * 86400 + m.clock.hour * 3600 + m.clock.minute * 60 + m.clock.second
  (seconds - m.offset.getD 0) * 1000000 + m.clock.microsecond

/-- Moments with an offset are the same if they are at the same instant; without one, if all parts
agree. -/
def Moment.same (a b : Moment) : Bool :=
  a.offset.isSome == b.offset.isSome && a.instant == b.instant

end Greenlight
