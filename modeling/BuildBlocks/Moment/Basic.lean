/-!
# Moments

A moment is a calendar day, with a time of day and a zone if they are given. Moments with a zone are
points in time: two of them are the same if they denote the same instant, wherever they were written.
-/

namespace BuildBlocks

/-- A calendar day with an optional time of day. -/
structure Moment where
  year : Nat
  month : Nat
  day : Nat
  /-- Hours, minutes, seconds and millionths, if a time is given. -/
  time : Option (Nat × Nat × Nat × Nat) := none
  /-- The distance from universal time in seconds, if a zone is given. -/
  zone : Option Int := none
  deriving DecidableEq, Repr

namespace Moment

/-- Whether a year has a leap day. -/
def isLeap (year : Nat) : Bool := year % 4 = 0 && (year % 100 ≠ 0 || year % 400 = 0)

/-- The number of days of a month. -/
def daysIn (year month : Nat) : Nat :=
  if month = 2 then (if isLeap year then 29 else 28)
  else if [4, 6, 9, 11].contains month then 30
  else 31

/-- The number of days before a year, counted from the year one. -/
def daysBeforeYear (year : Nat) : Nat :=
  let y := year - 1
  y * 365 + y / 4 - y / 100 + y / 400

/-- The number of days before a month in its year. -/
def daysBeforeMonth (year month : Nat) : Nat :=
  (List.range (month - 1)).foldl (fun n m => n + daysIn year (m + 1)) 0

/-- The seconds from the start of the calendar to a moment, by the clock of its own zone. -/
def clockSeconds (m : Moment) : Int :=
  let (h, min, s, _) := m.time.getD (0, 0, 0, 0)
  (((daysBeforeYear m.year + daysBeforeMonth m.year m.month + m.day) * 24 + h) * 60 + min) * 60 + s

/-- The point in time that a moment with a zone denotes, in seconds and millionths. -/
def instant? (m : Moment) : Option (Int × Nat) :=
  m.zone.map fun z => (m.clockSeconds - z, (m.time.getD (0, 0, 0, 0)).2.2.2)

/-- Whether two moments are the same: those with zones by the instant, all others by how they are
written. -/
def same (a b : Moment) : Bool :=
  match a.instant?, b.instant? with
  | some i, some j => i == j
  | _, _ => a == b

/-- The first day of the calendar. -/
def firstDay : Moment := ⟨1, 1, 1, none, none⟩

/-- The last day of the calendar. -/
def lastDay : Moment := ⟨9999, 12, 31, none, none⟩

/-- The first moment of the calendar. -/
def first : Moment := { firstDay with time := some (0, 0, 0, 0) }

/-- The last moment of the calendar. -/
def last : Moment := { lastDay with time := some (23, 59, 59, 999999) }

end Moment
end BuildBlocks
