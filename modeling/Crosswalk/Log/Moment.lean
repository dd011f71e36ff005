/-!
# Moments

A moment is counted in seconds from the start of the year 1970, in universal time.

* `civilDate` — **the date of a day**, in the Gregorian calendar.
* `Moment.text` — a moment to the second.
* `Moment.preciseText` — a moment to the microsecond, with its distance from universal time.
-/

namespace Crosswalk

/-- **A moment** in universal time. -/
structure Moment where
  /-- Seconds since the start of the year 1970. -/
  seconds : Nat
  microseconds : Nat := 0
  deriving DecidableEq, Repr

/-- A year, a month and a day. -/
structure CivilDate where
  year : Nat
  month : Nat
  day : Nat
  deriving DecidableEq, Repr

/-- **The date of a day**, counted from the first of January 1970.  Years are counted from March, so
that a leap day comes at the end, and in spans of four hundred years, all of which are as long. -/
def civilDate (days : Nat) : CivilDate :=
  let shifted := days + 719468
  let span := shifted / 146097
  let dayOfSpan := shifted % 146097
  let yearOfSpan :=
    (dayOfSpan - dayOfSpan / 1460 + dayOfSpan / 36524 - dayOfSpan / 146096) / 365
  let dayOfYear := dayOfSpan - (365 * yearOfSpan + yearOfSpan / 4 - yearOfSpan / 100)
  let month := (5 * dayOfYear + 2) / 153
  let isAfterDecember := 10 ≤ month
  ⟨span * 400 + yearOfSpan + (if isAfterDecember then 1 else 0),
    if isAfterDecember then month - 9 else month + 3,
    dayOfYear - (153 * month + 2) / 5 + 1⟩

/-- A number with zeros in front of it, up to a number of digits. -/
def zeroPadded (digits n : Nat) : String :=
  let ds := Nat.toDigits 10 n
  String.ofList (List.replicate (digits - ds.length) '0' ++ ds)

namespace Moment

/-- The date of a moment. -/
def dateText (m : Moment) : String :=
  let d := civilDate (m.seconds / 86400)
  zeroPadded 4 d.year ++ "-" ++ zeroPadded 2 d.month ++ "-" ++ zeroPadded 2 d.day

/-- The time of day of a moment. -/
def timeText (m : Moment) : String :=
  let s := m.seconds % 86400
  zeroPadded 2 (s / 3600) ++ ":" ++ zeroPadded 2 (s / 60 % 60) ++ ":" ++ zeroPadded 2 (s % 60)

/-- **A moment to the second.** -/
def text (m : Moment) : String := m.dateText ++ " " ++ m.timeText

/-- **A moment to the microsecond**; a whole second has no fraction. -/
def preciseText (m : Moment) : String :=
  let fraction := if m.microseconds = 0 then "" else "." ++ zeroPadded 6 m.microseconds
  m.dateText ++ "T" ++ m.timeText ++ fraction ++ "+00:00"

end Moment

end Crosswalk
