/-
  SqlStatements.Literal.Calendar
  ──────────────────────────────
  **Dates, times of day and moments, with their standard texts.**

  The standard text of a date is `2024-01-02`, that of a moment `2024-01-02T03:04:05`.
  Microseconds are written only when there are some, and the distance from universal
  time follows when it is known.
-/
import SqlStatements.Decimal.Numeral

namespace SqlStatements.Literal

open Decimal

/-! ## §1. Data. -/

/-- A day of the calendar. -/
structure Date where
  year : Nat
  month : Nat
  day : Nat
  deriving Repr, DecidableEq

/-- A time of day. -/
structure Time where
  hour : Nat
  minute : Nat
  second : Nat
  microsecond : Nat
  deriving Repr, DecidableEq

/-- A day and a time of day, with the distance from universal time in seconds when it
is known. -/
structure Moment where
  date : Date
  time : Time
  offset : Option Int
  deriving Repr, DecidableEq

/-! ## §2. Standard texts. -/

/-- A number in at least `width` digits. -/
def padded (width n : Nat) : String :=
  String.ofList (padLeft width (digitsOf n))

/-- The standard text of a date. -/
def Date.text (d : Date) : String :=
  s!"{padded 4 d.year}-{padded 2 d.month}-{padded 2 d.day}"

/-- The standard text of a time of day. -/
def Time.text (t : Time) : String :=
  let fraction := if t.microsecond = 0 then "" else "." ++ padded 6 t.microsecond
  s!"{padded 2 t.hour}:{padded 2 t.minute}:{padded 2 t.second}{fraction}"

/-- The standard text of a distance from universal time; seconds are written only when
there are some. -/
def offsetText (offset : Int) : String :=
  let n := offset.natAbs
  let seconds := if n % 60 = 0 then "" else ":" ++ padded 2 (n % 60)
  let sign := if offset < 0 then "-" else "+"
  s!"{sign}{padded 2 (n / 3600)}:{padded 2 (n / 60 % 60)}{seconds}"

/-- The standard text of a moment. -/
def Moment.text (m : Moment) : String :=
  m.date.text ++ "T" ++ m.time.text ++ (m.offset.map offsetText).getD ""

/-! ## §3. Instants. -/

/-- The days of the year before the first of each month of a common year. -/
def daysBefore : List Nat := [0, 31, 59, 90, 120, 151, 181, 212, 243, 273, 304, 334]

/-- Whether a year has a leap day. -/
def isLeapYear (year : Nat) : Bool :=
  year % 4 == 0 && (year % 100 != 0 || year % 400 == 0)

/-- The number of a day, counted through all years. -/
def Date.number (d : Date) : Nat :=
  let past := d.year - 1
  let leapDay := if 2 < d.month && isLeapYear d.year then 1 else 0
  365 * past + past / 4 - past / 100 + past / 400
    + (daysBefore[d.month - 1]?.getD 0) + leapDay + d.day

/-- The seconds of a time of day since midnight. -/
def Time.seconds (t : Time) : Nat := 3600 * t.hour + 60 * t.minute + t.second

/-- The second of universal time at a moment, when its distance from it is known. -/
def Moment.instant? (m : Moment) : Option Int :=
  m.offset.map fun offset => 86400 * m.date.number + m.time.seconds - offset

/-! ## §4. Displays. -/

/-- A display of the form `name(1, 2, 3)`. -/
def callDisplay (name : String) (arguments : List String) : String :=
  name ++ "(" ++ String.intercalate ", " arguments ++ ")"

/-- The parts of a time of day that a display gives: seconds only when they or the
microseconds are not zero. -/
def Time.parts (t : Time) : List Nat :=
  if t.microsecond ≠ 0 then [t.hour, t.minute, t.second, t.microsecond]
  else if t.second ≠ 0 then [t.hour, t.minute, t.second]
  else [t.hour, t.minute]

/-- The display of a date. -/
def Date.display (d : Date) : String :=
  callDisplay "datetime.date" ([d.year, d.month, d.day].map toString)

/-- The display of a time of day. -/
def Time.display (t : Time) : String :=
  callDisplay "datetime.time" (t.parts.map toString)

/-- The display of a distance from universal time: whole days, which may be negative,
and the seconds of a day. -/
def offsetDisplay (offset : Int) : String :=
  if offset = 0 then "datetime.timezone.utc"
  else
    let days := offset / 86400
    let seconds := offset % 86400
    let parts := (if days = 0 then [] else [s!"days={days}"])
      ++ (if seconds = 0 then [] else [s!"seconds={seconds}"])
    callDisplay "datetime.timezone" [callDisplay "datetime.timedelta" parts]

/-- The display of a moment. -/
def Moment.display (m : Moment) : String :=
  let numbers := [m.date.year, m.date.month, m.date.day] ++ m.time.parts
  let zone := (m.offset.map fun o => "tzinfo=" ++ offsetDisplay o).toList
  callDisplay "datetime.datetime" (numbers.map toString ++ zone)

end SqlStatements.Literal
