/-! Calendar dates. -/

namespace LocoSounds

/-- A day of the proleptic Gregorian calendar. -/
structure Date where
  year : Nat
  month : Nat
  day : Nat
  deriving DecidableEq

/-- Why three numbers are no date. -/
inductive DateFault where
  | yearOutOfRange (year : Nat)
  | noSuchMonth
  | noSuchDay
  deriving DecidableEq

namespace Date

/-- Every fourth year is a leap year, but of full centuries only every fourth. -/
def isLeapYear (year : Nat) : Bool :=
  year % 4 = 0 && (year % 100 != 0 || year % 400 = 0)

/-- The number of days in a month. -/
def daysInMonth (year month : Nat) : Nat :=
  if month = 2 then if isLeapYear year then 29 else 28
  else if month = 4 ∨ month = 6 ∨ month = 9 ∨ month = 11 then 30
  else 31

/-- The date of a year from 1 on, a month of it and a day of that month. -/
def of? (year month day : Nat) : Except DateFault Date :=
  if year = 0 ∨ 9999 < year then .error (.yearOutOfRange year)
  else if month = 0 ∨ 12 < month then .error .noSuchMonth
  else if day = 0 ∨ daysInMonth year month < day then .error .noSuchDay
  else .ok ⟨year, month, day⟩

/-- A number with leading zeros up to a width. -/
def padded (width n : Nat) : String :=
  let digits := toString n
  String.ofList (List.replicate (width - digits.length) '0') ++ digits

/-- Year, month and day with hyphens between. -/
def text (date : Date) : String :=
  padded 4 date.year ++ "-" ++ padded 2 date.month ++ "-" ++ padded 2 date.day

end Date

/-- The wording of a date fault. -/
def DateFault.message : DateFault → String
  | .yearOutOfRange year => "year " ++ toString year ++ " is out of range"
  | .noSuchMonth => "month must be in 1..12"
  | .noSuchDay => "day is out of range for month"

end LocoSounds
