set_option autoImplicit false

/-!
# Days and moments

Days are those of the calendar in use today, carried back to the year 1. A moment is a day with a
time of day, and it may know how far its clock is ahead of universal time.

## Main definitions

* `SchemaMarkup.Date`, `SchemaMarkup.Moment` — days and moments.
* `SchemaMarkup.Calendar.Fault` — why numbers name no day or no moment.
* `SchemaMarkup.Date.make`, `SchemaMarkup.Moment.make` — check the numbers.
* `SchemaMarkup.Date.text`, `SchemaMarkup.Moment.text` — the written forms.
* `SchemaMarkup.Moment.instant` — a moment as a number of microseconds.

## Main results

* `SchemaMarkup.Date.day_le_of_make` — a day that was checked is one of its month.
-/

namespace SchemaMarkup

/-- A day. -/
structure Date where
  year : Nat
  month : Nat
  day : Nat
  deriving DecidableEq, Repr, Inhabited

/-- A day with a time of day. -/
structure Moment where
  date : Date
  hour : Nat
  minute : Nat
  second : Nat
  microsecond : Nat
  /-- How many minutes the clock is ahead of universal time, if that is known. -/
  zone : Option Int
  deriving DecidableEq, Repr, Inhabited

namespace Calendar

/-- The ways in which numbers name no day or no moment. -/
inductive Fault where
  | year (n : Nat)
  | month
  | day
  | hour
  | minute
  | second
  /-- The clock is a day or more ahead or behind, by so many minutes. -/
  | zone (minutes : Int)
  deriving DecidableEq, Repr

/-- How many minutes a day has. -/
def minutesPerDay : Int := 24 * 60

/-- A fault in words. -/
def Fault.message : Fault → String
  | year n => s!"year {n} is out of range"
  | month => "month must be in 1..12"
  | day => "day is out of range for month"
  | hour => "hour must be in 0..23"
  | minute => "minute must be in 0..59"
  | second => "second must be in 0..59"
  | zone minutes =>
    let days := minutes.fdiv minutesPerDay
    let seconds := minutes.fmod minutesPerDay * 60
    let rest := if seconds = 0 then "" else s!", seconds={seconds}"
    "offset must be a timedelta strictly between -timedelta(hours=24) and " ++
      s!"timedelta(hours=24), not datetime.timedelta(days={days}{rest})."

/-- The year has a day more than others. -/
def isLeap (year : Nat) : Bool := year % 4 == 0 && (year % 100 != 0 || year % 400 == 0)

/-- How many days a month has. -/
def daysIn (year month : Nat) : Nat :=
  if month = 2 then if isLeap year then 29 else 28
  else if month ∈ [4, 6, 9, 11] then 30
  else 31

/-- A number with zeros in front up to the given width. -/
def padded (width n : Nat) : String :=
  let digits := Nat.toDigits 10 n
  String.ofList (List.replicate (width - digits.length) '0' ++ digits)

end Calendar

namespace Date

/-- The day that three numbers name. -/
def make (year month day : Nat) : Except Calendar.Fault Date :=
  if year = 0 ∨ 9999 < year then .error (.year year)
  else if month = 0 ∨ 12 < month then .error .month
  else if day = 0 ∨ Calendar.daysIn year month < day then .error .day
  else .ok ⟨year, month, day⟩

/-- The written form of a day. -/
def text (d : Date) : String :=
  Calendar.padded 4 d.year ++ "-" ++ Calendar.padded 2 d.month ++ "-" ++ Calendar.padded 2 d.day

/-- How many days come before a day, counted from the beginning of the year 1. -/
def daysBefore (d : Date) : Nat :=
  let past := d.year - 1
  let months := (List.range (d.month - 1)).foldl (fun n m => n + Calendar.daysIn d.year (m + 1)) 0
  past * 365 + past / 4 - past / 100 + past / 400 + months + (d.day - 1)

/-- A day that was checked is one of its month. -/
theorem day_le_of_make {year month day : Nat} {d : Date} (h : make year month day = .ok d) :
    d.day ≤ Calendar.daysIn d.year d.month := by
  rw [make] at h
  split at h
  · simp at h
  · split at h
    · simp at h
    · split at h
      · simp at h
      · rename_i hd
        obtain rfl := Except.ok.inj h
        exact Nat.le_of_not_lt fun hlt => hd (.inr hlt)

end Date

namespace Moment

/-- The moment that numbers name. The clock is looked at first, then the day and the time in
order. -/
def make (year month day hour minute second microsecond : Nat) (zone : Option Int) :
    Except Calendar.Fault Moment := do
  if let some minutes := zone then
    if Calendar.minutesPerDay ≤ minutes.natAbs then throw (.zone minutes)
  let date ← Date.make year month day
  if 23 < hour then throw .hour
  if 59 < minute then throw .minute
  if 59 < second then throw .second
  return ⟨date, hour, minute, second, microsecond, zone⟩

/-- The written form of the distance to universal time. -/
def zoneText (minutes : Int) : String :=
  let sign := if minutes < 0 then "-" else "+"
  let n := minutes.natAbs
  sign ++ Calendar.padded 2 (n / 60) ++ ":" ++ Calendar.padded 2 (n % 60)

/-- The written form of a moment. Microseconds are left out if there are none. -/
def text (m : Moment) : String :=
  let fraction := if m.microsecond = 0 then "" else "." ++ Calendar.padded 6 m.microsecond
  m.date.text ++ " " ++ Calendar.padded 2 m.hour ++ ":" ++ Calendar.padded 2 m.minute ++ ":" ++
    Calendar.padded 2 m.second ++ fraction ++ (m.zone.map zoneText).getD ""

/-- A moment as a number of microseconds since the beginning of the year 1, in universal time if the
distance to it is known. -/
def instant (m : Moment) : Int :=
  let minutes : Int := (m.date.daysBefore * 24 + m.hour) * 60 + m.minute
  ((minutes - m.zone.getD 0) * 60 + m.second) * 1000000 + m.microsecond

end Moment

end SchemaMarkup
