/-!
# Calendar

Days of the Gregorian calendar, counted from 1 January 1970.  A year is found from the number of
days before it, so a date and its day number determine each other by the same count.
-/

namespace PageScript

/-- A day of the calendar. -/
structure Date where
  year : Int
  month : Nat
  /-- The day of the month, from 1. -/
  day : Nat
  /-- The day of the year, from 0. -/
  ordinal : Nat
  /-- The day of the week, from Sunday as 0. -/
  weekday : Nat
deriving DecidableEq, Repr

namespace Date

/-- A year with 29 February. -/
def isLeap (year : Int) : Bool :=
  year % 4 = 0 && (year % 100 ≠ 0 || year % 400 = 0)

/-- The number of days from 1 January 1970 to 1 January of a year. -/
def daysBefore (year : Int) : Int :=
  let y := year - 1
  365 * y + y / 4 - y / 100 + y / 400 - 719162

/-- The year of a day. -/
def yearOf (days : Int) : Int :=
  let guess := (days + 719162) * 400 / 146097 + 1
  if days < daysBefore guess then guess - 1
  else if daysBefore (guess + 1) ≤ days then guess + 1
  else guess

/-- The lengths of the months of a year. -/
def monthLengths (year : Int) : List Nat :=
  [31, if isLeap year then 29 else 28, 31, 30, 31, 30, 31, 31, 30, 31, 30, 31]

/-- The month and the day in it of a day of the year, counting months from the given one. -/
def locate (month : Nat) : List Nat → Nat → Nat × Nat
  | [], n => (month, n + 1)
  | len :: rest, n => if n < len then (month, n + 1) else locate (month + 1) rest (n - len)

/-- The date of a day. -/
def ofDays (days : Int) : Date :=
  let year := yearOf days
  let ordinal := (days - daysBefore year).toNat
  let (month, day) := locate 1 (monthLengths year) ordinal
  ⟨year, month, day, ordinal, ((days + 4) % 7).toNat⟩

/-- The day of the week, from Monday as 1 to Sunday as 7. -/
def isoWeekday (d : Date) : Nat := if d.weekday = 0 then 7 else d.weekday

/-- The number of weeks in a year whose first week holds its first Thursday. -/
def isoWeeks (year : Int) : Nat :=
  let first := ((daysBefore year + 4) % 7).toNat
  if first = 4 || (first = 3 && isLeap year) then 53 else 52

/-- The week and its year, weeks beginning on Monday and belonging to the year of their
Thursday. -/
def isoWeek (d : Date) : Int × Nat :=
  let week := (d.ordinal + 11 - d.isoWeekday) / 7
  if week = 0 then (d.year - 1, isoWeeks (d.year - 1))
  else if isoWeeks d.year < week then (d.year + 1, 1)
  else (d.year, week)

/-- The week of the year, weeks beginning on Sunday and those days before the first counted as 0. -/
def weekFromSunday (d : Date) : Nat := (d.ordinal + 7 - d.weekday) / 7

/-- The week of the year, weeks beginning on Monday. -/
def weekFromMonday (d : Date) : Nat := (d.ordinal + 8 - d.isoWeekday) / 7

example : ofDays 0 = ⟨1970, 1, 1, 0, 4⟩ := by decide
example : ofDays 19782 = ⟨2024, 2, 29, 59, 4⟩ := by decide
example : (ofDays 18628).isoWeek = (2020, 53) := by decide

end Date

end PageScript
