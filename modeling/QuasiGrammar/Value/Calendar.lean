import QuasiGrammar.Failure
import QuasiGrammar.Number.Shortest
import QuasiGrammar.Total

/-
  QuasiGrammar.Value.Calendar
  ───────────────────────────
  A date of the Gregorian calendar, and a moment of a day with an optional
  offset from universal time.  Both are built from numbers that may be out of
  range, in which case the first such part is named.  They have two texts: one
  for people, and one that shows how they are built.
-/

namespace QuasiGrammar

open Number

/-- A date. -/
structure Date where
  year : Nat
  month : Nat
  day : Nat
  deriving DecidableEq, Repr, Inhabited

/-- A moment of a day; the offset is in seconds. -/
structure Moment where
  date : Date
  hour : Nat
  minute : Nat
  second : Nat
  microsecond : Nat
  offset : Option Int
  deriving DecidableEq, Repr, Inhabited

/-! ## §1. Building. -/

/-- Whether a year has a leap day. -/
def isLeapYear (year : Nat) : Bool := year % 4 == 0 && (year % 100 != 0 || year % 400 == 0)

/-- The number of days of a month. -/
def daysInMonth (year month : Nat) : Nat :=
  if month = 2 then if isLeapYear year then 29 else 28
  else if month = 4 ∨ month = 6 ∨ month = 9 ∨ month = 11 then 30
  else 31

/-- The date with the given parts. -/
def Date.ofParts (year month day : Nat) : Except CalendarPart Date :=
  if year < 1 ∨ 9999 < year then .error (.year year)
  else if month < 1 ∨ 12 < month then .error .month
  else if day < 1 ∨ daysInMonth year month < day then .error .day
  else .ok ⟨year, month, day⟩

/-- The number of seconds of a day. -/
def secondsPerDay : Int := 86400

/-- The text of a span of time, in seconds, that shows how it is built: whole days, rounded down,
and the seconds that are left. -/
def spanText (seconds : Int) : String :=
  let days := seconds.fdiv secondsPerDay
  let rest := seconds.fmod secondsPerDay
  let parts := (if days = 0 then [] else ["days=" ++ toString days])
    ++ (if rest = 0 then [] else ["seconds=" ++ toString rest])
  "datetime.timedelta(" ++ (if parts = [] then "0" else ", ".intercalate parts) ++ ")"

/-- An offset of less than a day in either direction. -/
def checkOffset (seconds : Int) : Except CalendarPart Int :=
  if -secondsPerDay < seconds ∧ seconds < secondsPerDay then .ok seconds
  else .error (.offset (spanText seconds))

/-- The moment with the given parts. -/
def Moment.ofParts (year month day hour minute second microsecond : Nat)
    (offset : Option Int) : Except CalendarPart Moment := do
  let offset ← match offset with
    | none => pure none
    | some s => some <$> checkOffset s
  let date ← Date.ofParts year month day
  if 23 < hour then .error .hour
  else if 59 < minute then .error .minute
  else if 59 < second then .error .second
  else pure ⟨date, hour, minute, second, microsecond, offset⟩

/-- The number of days from the beginning of the calendar to a date. -/
def Date.ordinal (d : Date) : Nat :=
  let y := d.year - 1
  y * 365 + y / 4 - y / 100 + y / 400
    + total (fun m => daysInMonth d.year (m + 1)) (List.range (d.month - 1)) + d.day

/-- The number of seconds from the beginning of the calendar to a moment, by the clock of its own
zone. -/
def Moment.localSeconds (m : Moment) : Int :=
  m.date.ordinal * secondsPerDay + (m.hour * 3600 + m.minute * 60 + m.second : Nat)

/-- Whether two moments are the same: by universal time if both have an offset, part for part if
neither has. -/
def Moment.same (m n : Moment) : Bool :=
  match m.offset, n.offset with
  | some a, some b =>
      m.localSeconds - a == n.localSeconds - b && m.microsecond == n.microsecond
  | none, none => m == n
  | _, _ => false

theorem Moment.same_self (m : Moment) : m.same m = true := by
  unfold Moment.same
  cases m.offset <;> simp

/-! ## §2. Texts. -/

/-- A number with zeros in front up to a width. -/
def zeroPadded (width n : Nat) : String := String.ofList (padded width n)

/-- A date as year, month and day with hyphens. -/
def Date.text (d : Date) : String :=
  zeroPadded 4 d.year ++ "-" ++ zeroPadded 2 d.month ++ "-" ++ zeroPadded 2 d.day

/-- An offset as a sign, hours and minutes. -/
def offsetText (seconds : Int) : String :=
  let minutes := seconds.natAbs / 60
  (if seconds < 0 then "-" else "+") ++ zeroPadded 2 (minutes / 60) ++ ":"
    ++ zeroPadded 2 (minutes % 60)

/-- A moment as date and time of day; a fraction of a second is shown if there is one. -/
def Moment.text (m : Moment) : String :=
  m.date.text ++ " " ++ zeroPadded 2 m.hour ++ ":" ++ zeroPadded 2 m.minute ++ ":"
    ++ zeroPadded 2 m.second
    ++ (if m.microsecond = 0 then "" else "." ++ zeroPadded 6 m.microsecond)
    ++ (m.offset.map offsetText).getD ""

/-- Numbers with commas between them. -/
def commaSeparated (ns : List Nat) : String := ", ".intercalate (ns.map toString)

/-- The text of a date that shows how it is built. -/
def Date.shown (d : Date) : String :=
  "datetime.date(" ++ commaSeparated [d.year, d.month, d.day] ++ ")"

/-- The text of a zone of time that shows how it is built. -/
def zoneShown (seconds : Int) : String :=
  if seconds = 0 then "datetime.timezone.utc"
  else "datetime.timezone(" ++ spanText seconds ++ ")"

/-- The text of a moment that shows how it is built; seconds and their fraction are left out when
they are zero. -/
def Moment.shown (m : Moment) : String :=
  let small :=
    if m.microsecond ≠ 0 then [m.second, m.microsecond]
    else if m.second ≠ 0 then [m.second]
    else []
  "datetime.datetime("
    ++ commaSeparated ([m.date.year, m.date.month, m.date.day, m.hour, m.minute] ++ small)
    ++ (m.offset.map fun s => ", tzinfo=" ++ zoneShown s).getD "" ++ ")"

theorem Date.ofParts_eq_ok {year month day : Nat} {d : Date}
    (h : Date.ofParts year month day = .ok d) :
    d = ⟨year, month, day⟩ ∧ 1 ≤ month ∧ month ≤ 12 ∧ 1 ≤ day ∧ day ≤ daysInMonth year month := by
  simp only [Date.ofParts] at h
  split at h
  · cases h
  · split at h
    · cases h
    · split at h
      · cases h
      · cases h; refine ⟨rfl, ?_⟩; omega

end QuasiGrammar
