import PageScript.Time.Calendar
import PageScript.Text.Pieces
import PageScript.Number.Layout

/-!
# Time formats

A format is a text with fields, each a percent sign and a letter, that are filled in with the parts
of a moment.  A format is read into items first; a field that has no meaning spoils the whole format.
Moments are counted in nanoseconds from the beginning of 1970 in universal time, which is also the
time that is shown.
-/

namespace PageScript

/-- A moment: nanoseconds from the beginning of 1970. -/
abbrev Moment := Nat

namespace Moment

/-- Whole seconds. -/
def seconds (t : Moment) : Nat := t / 1000000000
/-- The nanoseconds of the running second. -/
def nanosecond (t : Moment) : Nat := t % 1000000000
/-- The second of the minute. -/
def second (t : Moment) : Nat := t.seconds % 60
/-- The minute of the hour. -/
def minute (t : Moment) : Nat := t.seconds / 60 % 60
/-- The hour of the day. -/
def hour (t : Moment) : Nat := t.seconds / 3600 % 24
/-- The hour on a twelve-hour clock. -/
def hour12 (t : Moment) : Nat := if t.hour % 12 = 0 then 12 else t.hour % 12
/-- The number of days passed. -/
def days (t : Moment) : Nat := t.seconds / 86400
/-- The date. -/
def date (t : Moment) : Date := .ofDays t.days

end Moment

namespace TimeFormat

/-- A part of a moment that is written as a number. -/
inductive Field where
  | year
  /-- The year without its last two digits. -/
  | century
  /-- The last two digits of the year. -/
  | yearInCentury
  | isoYear
  /-- The last two digits of the year of the week. -/
  | isoYearInCentury
  | quarter
  | month
  | day
  | ordinal
  /-- The week of the year, from Sunday. -/
  | weekFromSunday
  /-- The week of the year, from Monday. -/
  | weekFromMonday
  /-- The week of its own year. -/
  | isoWeek
  /-- The day of the week, Sunday being 0. -/
  | weekday
  /-- The day of the week, Monday being 1. -/
  | isoWeekday
  | hour
  /-- The hour on a twelve-hour clock. -/
  | hour12
  | minute
  | second
  | nanosecond
  /-- The seconds from the beginning of 1970. -/
  | timestamp

/-- What fills a number up to its width. -/
inductive Pad where
  | none
  | zero
  | space

/-- One item of a format. -/
inductive Item where
  | literal (c : Char)
  | number (f : Field) (pad : Pad)
  /-- The name of the day of the week, perhaps its first three letters. -/
  | weekdayName (short : Bool)
  /-- The name of the month, perhaps its first three letters. -/
  | monthName (short : Bool)
  | halfDay (lower : Bool)
  /-- The first digits of the fraction of a second, perhaps with a point. -/
  | fraction (digits : Nat) (point : Bool)
  /-- The fraction of a second in as many groups of three digits as it needs, after a point. -/
  | shortFraction
  /-- A fixed text for the time zone. -/
  | zone (text : String)

/-! ## Reading a format -/

/-- A number filled with zeros. -/
def zeroed (f : Field) : Item := .number f .zero

/-- The items of a field that is a letter. -/
def letter? : Char → Option (List Item)
  | 'A' => some [.weekdayName false]
  | 'a' => some [.weekdayName true]
  | 'B' => some [.monthName false]
  | 'b' => some [.monthName true]
  | 'h' => some [.monthName true]
  | 'C' => some [zeroed .century]
  | 'Y' => some [zeroed .year]
  | 'y' => some [zeroed .yearInCentury]
  | 'G' => some [zeroed .isoYear]
  | 'g' => some [zeroed .isoYearInCentury]
  | 'q' => some [zeroed .quarter]
  | 'm' => some [zeroed .month]
  | 'd' => some [zeroed .day]
  | 'e' => some [.number .day .space]
  | 'j' => some [zeroed .ordinal]
  | 'U' => some [zeroed .weekFromSunday]
  | 'W' => some [zeroed .weekFromMonday]
  | 'V' => some [zeroed .isoWeek]
  | 'w' => some [zeroed .weekday]
  | 'u' => some [zeroed .isoWeekday]
  | 'H' => some [zeroed .hour]
  | 'k' => some [.number .hour .space]
  | 'I' => some [zeroed .hour12]
  | 'l' => some [.number .hour12 .space]
  | 'M' => some [zeroed .minute]
  | 'S' => some [zeroed .second]
  | 'f' => some [zeroed .nanosecond]
  | 's' => some [zeroed .timestamp]
  | 'P' => some [.halfDay true]
  | 'p' => some [.halfDay false]
  | 'Z' => some [.zone "+00:00"]
  | 'z' => some [.zone "+0000"]
  | 'n' => some [.literal '\n']
  | 't' => some [.literal '\t']
  | '%' => some [.literal '%']
  | 'R' => some clock
  | 'T' => some (clock ++ seconds)
  | 'X' => some (clock ++ seconds)
  | 'D' => some slashed
  | 'x' => some slashed
  | 'F' => some dashed
  | 'c' =>
    some ([.weekdayName true, .literal ' ', .monthName true, .literal ' ', .number .day .space,
      .literal ' '] ++ clock ++ seconds ++ [.literal ' ', zeroed .year])
  | 'r' =>
    some ([zeroed .hour12, .literal ':', zeroed .minute] ++ seconds ++
      [.literal ' ', .halfDay false])
  | 'v' =>
    some [.number .day .space, .literal '-', .monthName true, .literal '-', zeroed .year]
  | '+' =>
    some (dashed ++ [.literal 'T'] ++ clock ++ seconds ++ [.shortFraction, .zone "+00:00"])
  | _ => none
where
  /-- Hours and minutes. -/
  clock : List Item := [zeroed .hour, .literal ':', zeroed .minute]
  /-- Seconds behind hours and minutes. -/
  seconds : List Item := [.literal ':', zeroed .second]
  /-- Month, day and year between slashes. -/
  slashed : List Item :=
    [zeroed .month, .literal '/', zeroed .day, .literal '/', zeroed .yearInCentury]
  /-- Year, month and day between dashes. -/
  dashed : List Item :=
    [zeroed .year, .literal '-', zeroed .month, .literal '-', zeroed .day]

/-- A field behind a sign that says how it is filled, which only a single number allows. -/
def padded? (pad : Pad) (c : Char) : Option (List Item) :=
  match letter? c with
  | some [.number f _] => some [.number f pad]
  | _ => none

/-- The field behind a percent sign, and the rest. -/
def field? : List Char → Option (List Item × List Char)
  | '-' :: c :: rest => (padded? .none c).map (·, rest)
  | '0' :: c :: rest => (padded? .zero c).map (·, rest)
  | '_' :: c :: rest => (padded? .space c).map (·, rest)
  | '#' :: 'z' :: rest => some ([.zone "+0000"], rest)
  | ':' :: 'z' :: rest => some ([.zone "+00:00"], rest)
  | ':' :: ':' :: 'z' :: rest => some ([.zone "+00:00:00"], rest)
  | ':' :: ':' :: ':' :: 'z' :: rest => some ([.zone "+00"], rest)
  | '.' :: 'f' :: rest => some ([.shortFraction], rest)
  | '.' :: '3' :: 'f' :: rest => some ([.fraction 3 true], rest)
  | '.' :: '6' :: 'f' :: rest => some ([.fraction 6 true], rest)
  | '.' :: '9' :: 'f' :: rest => some ([.fraction 9 true], rest)
  | '3' :: 'f' :: rest => some ([.fraction 3 false], rest)
  | '6' :: 'f' :: rest => some ([.fraction 6 false], rest)
  | '9' :: 'f' :: rest => some ([.fraction 9 false], rest)
  | c :: rest => (letter? c).map (·, rest)
  | [] => none

/-- The items of a format.  Every item takes at least one character, so `fuel` may be the length. -/
def readItems : Nat → List Char → Option (List Item)
  | _, [] => some []
  | 0, _ :: _ => none
  | fuel + 1, '%' :: cs =>
    match field? cs with
    | none => none
    | some (items, rest) => (readItems fuel rest).map (items ++ ·)
  | fuel + 1, c :: cs => (readItems fuel cs).map (.literal c :: ·)

/-- The items of a format; none if a field has no meaning. -/
def read (format : String) : Option (List Item) :=
  readItems format.toList.length format.toList

/-! ## Writing a moment -/

/-- The names of the days of the week. -/
def weekdayNames : List String :=
  ["Sunday", "Monday", "Tuesday", "Wednesday", "Thursday", "Friday", "Saturday"]

/-- The names of the months. -/
def monthNames : List String :=
  ["January", "February", "March", "April", "May", "June", "July", "August", "September",
    "October", "November", "December"]

/-- A name, or its first three letters. -/
def shortened (short : Bool) (name : String) : String :=
  if short then String.ofList (name.toList.take 3) else name

/-- The width and the value of a number. -/
def Field.value (t : Moment) : Field → Nat × Int
  | .year => (4, t.date.year)
  | .century => (2, t.date.year / 100)
  | .yearInCentury => (2, t.date.year % 100)
  | .isoYear => (4, t.date.isoWeek.1)
  | .isoYearInCentury => (2, t.date.isoWeek.1 % 100)
  | .quarter => (1, (t.date.month - 1) / 3 + 1)
  | .month => (2, t.date.month)
  | .day => (2, t.date.day)
  | .ordinal => (3, t.date.ordinal + 1)
  | .weekFromSunday => (2, t.date.weekFromSunday)
  | .weekFromMonday => (2, t.date.weekFromMonday)
  | .isoWeek => (2, t.date.isoWeek.2)
  | .weekday => (1, t.date.weekday)
  | .isoWeekday => (1, t.date.isoWeekday)
  | .hour => (2, t.hour)
  | .hour12 => (2, t.hour12)
  | .minute => (2, t.minute)
  | .second => (2, t.second)
  | .nanosecond => (9, t.nanosecond)
  | .timestamp => (1, t.seconds)

/-- A number brought to a width. -/
def filled (pad : Pad) (width : Nat) (n : Int) : String :=
  let text := intText n
  let missing := width - text.length
  match pad with
  | .none => text
  | .zero => String.ofList (List.replicate missing '0') ++ text
  | .space => String.ofList (List.replicate missing ' ') ++ text

/-- The text of an item. -/
def Item.text (t : Moment) : Item → String
  | .literal c => String.ofList [c]
  | .number f pad => filled pad (f.value t).1 (f.value t).2
  | .weekdayName short => shortened short ((weekdayNames[t.date.weekday]?).getD "")
  | .monthName short => shortened short ((monthNames[t.date.month - 1]?).getD "")
  | .halfDay lower =>
    if t.hour < 12 then (if lower then "am" else "AM") else (if lower then "pm" else "PM")
  | .fraction digits point =>
    (if point then "." else "") ++ filled .zero digits (t.nanosecond / Nat.pow 10 (9 - digits) : Nat)
  | .shortFraction =>
    let n := t.nanosecond
    if n = 0 then ""
    else if n % 1000000 = 0 then "." ++ filled .zero 3 (n / 1000000 : Nat)
    else if n % 1000 = 0 then "." ++ filled .zero 6 (n / 1000 : Nat)
    else "." ++ filled .zero 9 n
  | .zone text => text

/-- A moment in a format; none if the format has a field without meaning. -/
def text? (format : String) (t : Moment) : Option String :=
  (read format).map fun items => Text.join "" (items.map (Item.text t))

example : text? "%F %T%.f" (86400 * 366 * 1000000000 + 5000000) = some "1971-01-02 00:00:00.005" := by
  decide +kernel
example : text? "%-%" 0 = none := by decide +kernel

end TimeFormat

end PageScript
