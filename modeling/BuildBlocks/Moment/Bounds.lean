import BuildBlocks.Moment.Text

/-!
# Moments that exist

Not every combination of numbers is a moment: months and days have bounds, and so have the parts of a
time and the distance of a zone. `Moment.problem?` gives the first bound that is not kept.
-/

namespace BuildBlocks
namespace Moment

/-- Why numbers make no moment. -/
inductive Problem where
  | zone (offset : Int)
  | year (n : Nat)
  | month
  | day
  | hour
  | minute
  | second
  deriving DecidableEq, Repr

/-- The wording of a problem. -/
def Problem.message : Problem → String
  | .zone offset =>
    let shown := (Duration.ofSeconds offset).describe
    "offset must be a timedelta strictly between -timedelta(hours=24) and timedelta(hours=24), " ++
      s!"not {shown}."
  | .year n => s!"year {n} is out of range"
  | .month => "month must be in 1..12"
  | .day => "day is out of range for month"
  | .hour => "hour must be in 0..23"
  | .minute => "minute must be in 0..59"
  | .second => "second must be in 0..59"

/-- The first bound that a moment does not keep. -/
def problem? (m : Moment) : Option Problem :=
  let (h, min, s, _) := m.time.getD (0, 0, 0, 0)
  [(m.zone.any (86400 ≤ ·.natAbs), Problem.zone (m.zone.getD 0)),
    (m.year < 1 || 9999 < m.year, .year m.year),
    (m.month < 1 || 12 < m.month, .month),
    (m.day < 1 || daysIn m.year m.month < m.day, .day),
    (23 < h, .hour), (59 < min, .minute), (59 < s, .second)].findSome?
    fun (broken, p) => if broken then some p else none

end Moment
end BuildBlocks
