import BuildBlocks.Moment.Basic
import BuildBlocks.Moment.Duration

/-!
# Moments as texts

A moment is written as year, month and day, then the time, then the distance of its zone from
universal time. Inside other values it is described by its parts.
-/

namespace BuildBlocks

/-- The time of a place, by its distance from universal time in seconds. -/
structure Zone where
  offset : Int
  deriving DecidableEq, Repr

namespace Zone

/-- Universal time. -/
def universal : Zone := ⟨0⟩

/-- The zone furthest behind universal time. -/
def least : Zone := ⟨-86340⟩

/-- The zone furthest ahead of universal time. -/
def greatest : Zone := ⟨86340⟩

/-- The distance of a zone as hours and minutes, with seconds if there are any. -/
def distanceText (z : Zone) : Text :=
  let n := z.offset.natAbs
  (if z.offset < 0 then '-' else '+') :: Text.padded 2 (n / 3600) ++ ':' :: Text.padded 2 (n / 60 % 60) ++
    if n % 60 = 0 then [] else ':' :: Text.padded 2 (n % 60)

/-- The name of a zone. -/
def render (z : Zone) : Text := "UTC".toList ++ if z.offset = 0 then [] else z.distanceText

/-- A zone as it is described inside another value. -/
def describe (z : Zone) : String :=
  if z.offset = 0 then "datetime.timezone.utc"
  else s!"datetime.timezone({(Duration.ofSeconds z.offset).describe})"

end Zone

namespace Moment

/-- A moment as year, month, day and, if given, time and zone. -/
def render (m : Moment) : Text :=
  Text.padded 4 m.year ++ '-' :: Text.padded 2 m.month ++ '-' :: Text.padded 2 m.day ++
    match m.time with
    | none => []
    | some (h, min, s, micro) =>
      ' ' :: Text.padded 2 h ++ ':' :: Text.padded 2 min ++ ':' :: Text.padded 2 s ++
        (if micro = 0 then [] else '.' :: Text.padded 6 micro) ++
        match m.zone with
        | none => []
        | some z => (Zone.mk z).distanceText

/-- A moment as it is described inside another value. -/
def describe (m : Moment) : Text :=
  match m.time with
  | none => s!"datetime.date({m.year}, {m.month}, {m.day})".toList
  | some (h, min, s, micro) =>
    let seconds := if s = 0 ∧ micro = 0 then "" else s!", {s}"
    let micros := if micro = 0 then "" else s!", {micro}"
    let zone := match m.zone with
      | none => ""
      | some z => s!", tzinfo={(Zone.mk z).describe}"
    s!"datetime.datetime({m.year}, {m.month}, {m.day}, {h}, {min}{seconds}{micros}{zone})".toList

end Moment
end BuildBlocks
