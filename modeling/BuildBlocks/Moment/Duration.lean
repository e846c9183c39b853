import BuildBlocks.Text.Basic

/-!
# Durations

A duration is a number of millionths of a second. It is written as days, hours, minutes and seconds;
only the days carry a sign, so that the rest of a negative duration counts forward again.
-/

namespace BuildBlocks

/-- A number in decimal, filled with zeros to `width` places. -/
def Text.padded (width n : Nat) : Text :=
  let ds := Nat.toDigits 10 n
  List.replicate (width - ds.length) '0' ++ ds

/-- A length of time. -/
structure Duration where
  micros : Int
  deriving DecidableEq, Repr

namespace Duration

/-- The millionths of a second in a day. -/
def dayMicros : Int := 86400000000

/-- A number of seconds. -/
def ofSeconds (n : Int) : Duration := ⟨n * 1000000⟩

/-- A number of days. -/
def ofDays (n : Int) : Duration := ⟨n * dayMicros⟩

/-- The whole days of a duration, rounded down. -/
def days (d : Duration) : Int := Int.fdiv d.micros dayMicros

/-- The whole seconds beyond the days. -/
def seconds (d : Duration) : Nat := (Int.fmod d.micros dayMicros).toNat / 1000000

/-- The millionths beyond the seconds. -/
def microseconds (d : Duration) : Nat := (Int.fmod d.micros dayMicros).toNat % 1000000

/-- The shortest duration that can be told from none. -/
def resolution : Duration := ⟨1⟩

/-- The least duration, which is negative. -/
def least : Duration := ofDays (-999999999)

/-- The greatest duration. -/
def greatest : Duration := ⟨1000000000 * dayMicros - 1⟩

/-- A duration as days and a time. -/
def render (d : Duration) : Text :=
  let plural := if d.days.natAbs = 1 then "" else "s"
  let days := if d.days = 0 then "" else s!"{d.days} day{plural}, "
  let s := d.seconds
  days.toList ++ (toString (s / 3600)).toList ++ ':' :: Text.padded 2 (s / 60 % 60) ++
    ':' :: Text.padded 2 (s % 60) ++
    if d.microseconds = 0 then [] else '.' :: Text.padded 6 d.microseconds

/-- A duration as it is described inside another value: by its parts that are not zero. -/
def describe (d : Duration) : String :=
  let parts := [("days", d.days), ("seconds", (d.seconds : Int)), ("microseconds", d.microseconds)]
  let shown := (parts.filter (·.2 ≠ 0)).map fun (name, n) => s!"{name}={n}"
  let inside := if shown.isEmpty then "0" else ", ".intercalate shown
  s!"datetime.timedelta({inside})"

end Duration
end BuildBlocks
