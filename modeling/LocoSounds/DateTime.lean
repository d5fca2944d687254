import LocoSounds.Date

/-! Times of a day, by the clocks of some place or of none in particular. -/

namespace LocoSounds

/-- A time of a day. -/
structure DateTime where
  date : Date
  hour : Nat
  minute : Nat
  second : Nat
  microsecond : Nat
  /-- How many minutes the clocks are ahead of universal time, if that is known. -/
  offset : Option Int
  deriving DecidableEq

/-- Why some numbers are no time of a day. -/
inductive DateTimeFault where
  | date (fault : DateFault)
  | noSuchHour
  | noSuchMinute
  | noSuchSecond
  /-- Clocks are less than a day away from universal time. -/
  | offsetTooLarge (minutes : Int)
  deriving DecidableEq

/-- A span of minutes, as days and seconds of which only the days may be negative. -/
def spanLiteral (minutes : Int) : String :=
  let seconds := 60 * minutes
  let days := seconds.fdiv 86400
  let rest := seconds.fmod 86400
  let parts := (if days = 0 then [] else ["days=" ++ toString days])
    ++ (if rest = 0 then [] else ["seconds=" ++ toString rest])
  "datetime.timedelta(" ++ (if parts.isEmpty then "0" else ", ".intercalate parts) ++ ")"

/-- The wording of a fault of a time. -/
def DateTimeFault.message : DateTimeFault → String
  | .date fault => fault.message
  | .noSuchHour => "hour must be in 0..23"
  | .noSuchMinute => "minute must be in 0..59"
  | .noSuchSecond => "second must be in 0..59"
  | .offsetTooLarge minutes =>
    "offset must be a timedelta strictly between -timedelta(hours=24) and timedelta(hours=24), not "
      ++ spanLiteral minutes ++ "."

namespace Date

/-- The number of days of a year before the first of a month. -/
def daysBeforeMonth (year month : Nat) : Nat :=
  (List.range (month - 1)).foldl (fun days earlier => days + daysInMonth year (earlier + 1)) 0

/-- The number of a day, counted from the first day of the year 1. -/
def ordinal (date : Date) : Nat :=
  let years := date.year - 1
  365 * years + years / 4 - years / 100 + years / 400 + daysBeforeMonth date.year date.month + date.day

end Date

namespace DateTime

/-- The time of some numbers. The offset is looked at first, then the numbers from the year on. -/
def of? (year month day hour minute second microsecond : Nat) (offset : Option Int) :
    Except DateTimeFault DateTime :=
  match offset.filter fun minutes => 1440 ≤ minutes.natAbs with
  | some minutes => .error (.offsetTooLarge minutes)
  | none =>
    match Date.of? year month day with
    | .error fault => .error (.date fault)
    | .ok date =>
      if 23 < hour then .error .noSuchHour
      else if 59 < minute then .error .noSuchMinute
      else if 59 < second then .error .noSuchSecond
      else .ok { date, hour, minute, second, microsecond, offset }

/-- The microseconds from the first year on, by universal time where the offset is known. -/
def instant (time : DateTime) : Int :=
  let minutes : Int := (time.date.ordinal * 24 + time.hour) * 60 + time.minute
  ((minutes - time.offset.getD 0) * 60 + time.second) * 1000000 + time.microsecond

/-- An offset as hours and minutes with a sign. -/
def offsetText (minutes : Int) : String :=
  (if minutes < 0 then "-" else "+") ++ Date.padded 2 (minutes.natAbs / 60) ++ ":"
    ++ Date.padded 2 (minutes.natAbs % 60)

/-- The date, the time down to seconds or microseconds, and the offset. -/
def text (time : DateTime) : String :=
  time.date.text ++ " " ++ Date.padded 2 time.hour ++ ":" ++ Date.padded 2 time.minute ++ ":"
    ++ Date.padded 2 time.second
    ++ (if time.microsecond = 0 then "" else "." ++ Date.padded 6 time.microsecond)
    ++ (time.offset.map offsetText).getD ""

end DateTime

end LocoSounds
