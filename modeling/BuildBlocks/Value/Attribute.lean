import BuildBlocks.Value.Basic
import BuildBlocks.Value.Feature

/-!
# Attributes

A name looked up in a value that is no mapping means one of its attributes: a field of a record, a
part of a number or of a date, or an operation that values of its kind have. Operations are values
that only show what they are.

A kind is a value too. Its own parts come first, then what it brings to its values, seen by itself,
and then what kinds have in general.
-/

namespace BuildBlocks

/-- The value that all values of a kind have in common under a name. -/
def Kind.constant? : Kind → String → Option Value
  | .date, "min" => some (.moment .firstDay)
  | .date, "max" => some (.moment .lastDay)
  | .date, "resolution" => some (.duration (.ofDays 1))
  | .dateTime, "min" => some (.moment .first)
  | .dateTime, "max" => some (.moment .last)
  | .dateTime, "resolution" => some (.duration .resolution)
  | .duration, "min" => some (.duration .least)
  | .duration, "max" => some (.duration .greatest)
  | .duration, "resolution" => some (.duration .resolution)
  | .zone, "utc" => some (.zone .universal)
  | .zone, "min" => some (.zone .least)
  | .zone, "max" => some (.zone .greatest)
  | _, _ => none

namespace Value

/-- What an operation of a kind is called in full. -/
def qualified (k : Kind) (op : Text) : Value := .text (s!"{k.name}.".toList ++ op)

/-- The kind to which an operation of a value belongs: the value itself if it is one. -/
def ownerKind : Value → Kind
  | .kind k => k
  | v => v.kindOf

/-- The kind that brings an operation behind a sign to a value. -/
def slotKind (owner : Value) (op : Text) : Kind :=
  ((owner.kindOf.bringer? (String.ofList op)).map (·.1)).getD owner.kindOf

/-- The parts of a number. -/
def numberPart? : Value → String → Option Value
  | .int n, "real" | .int n, "numerator" => some (.int n)
  | .bool b, "real" | .bool b, "numerator" => some (.int (if b then 1 else 0))
  | .int _, "imag" | .bool _, "imag" => some (.int 0)
  | .int _, "denominator" | .bool _, "denominator" => some (.int 1)
  | .double d, "real" => some (.double d)
  | .double _, "imag" => some (.double (.ofInt 0))
  | _, _ => none

/-- The parts of a moment. Those of its time are there only if a time is given. -/
def momentPart? (m : Moment) : String → Option Value
  | "year" => some (.int m.year)
  | "month" => some (.int m.month)
  | "day" => some (.int m.day)
  | "hour" => m.time.map fun t => .int t.1
  | "minute" => m.time.map fun t => .int t.2.1
  | "second" => m.time.map fun t => .int t.2.2.1
  | "microsecond" => m.time.map fun t => .int t.2.2.2
  | "fold" => m.time.map fun _ => .int 0
  | "tzinfo" => m.time.map fun _ => (m.zone.map fun z => .zone ⟨z⟩).getD .null
  | _ => none

/-- The parts of a kind. -/
def kindPart? (k : Kind) : String → Option Value
  | "__name__" | "__qualname__" => some (.text k.name.toList)
  | "__module__" => some (.text (k.library?.getD "builtins").toList)
  | "__mro__" => some (.tuple (k.ancestry.map .kind))
  | "__bases__" => some (.tuple (((k.ancestry.drop 1).take 1).map .kind))
  | "__base__" => some ((k.ancestry[1]?.map .kind).getD .null)
  | _ => none

/-- The parts of an operation. -/
def operationPart? : Value → String → Option Value
  | .method _ op, "__name__" | .slot _ op, "__name__" | .unbound _ _ op, "__name__" => some (.text op)
  | .method owner op, "__qualname__" => some (qualified owner.ownerKind op)
  | .slot owner op, "__qualname__" => some (qualified (slotKind owner op) op)
  | .unbound _ k op, "__qualname__" => some (qualified k op)
  | .method owner op, "__self__" =>
    some (if owner.ownerKind.feature? (String.ofList op) = some .loose then .null else owner)
  | .slot owner _, "__self__" => some owner
  | .method .., "__module__" => some .null
  | .slot owner op, "__objclass__" => some (.kind (slotKind owner op))
  | .unbound _ k _, "__objclass__" => some (.kind k)
  | _, _ => none

/-- The parts of a value that are reached by name. -/
def part? (v : Value) (name : String) : Option Value :=
  match v with
  | .int _ | .bool _ | .double _ => v.numberPart? name
  | .moment m => momentPart? m name
  | .duration d =>
    if name = "days" then some (.int d.days)
    else if name = "seconds" then some (.int d.seconds)
    else if name = "microseconds" then some (.int d.microseconds)
    else none
  | .record fields => if name = "__dict__" then some (ofFields fields) else none
  | .kind k => kindPart? k name
  | v => v.operationPart? name

/-- What a value has under a name that stands for the feature `f` of the kind `bringer`. -/
def ofFeature (v : Value) (name : Text) (bringer : Kind) (f : Feature) : Option Value :=
  match f with
  | .slot => some (.slot v name)
  | .method => some (.method v name)
  | .shared => some (.method (.kind v.kindOf) name)
  | .fixed | .loose => some (.method (.kind bringer) name)
  | .part | .field => v.part? (String.ofList name)
  | .constant => bringer.constant? (String.ofList name)
  | .absent => some .null

/-- What a kind has under a name that stands for the feature `f` of the kind `bringer` in its values. -/
def ofOwnFeature (k : Kind) (name : Text) (bringer : Kind) (f : Feature) : Option Value :=
  match f with
  | .slot => some (.unbound .slot bringer name)
  | .method => some (.unbound .method bringer name)
  | .part => some (.unbound .part bringer name)
  | .field => some (.unbound .field bringer name)
  | .shared => some (.method (.kind k) name)
  | .fixed | .loose => some (.method (.kind bringer) name)
  | .constant => bringer.constant? (String.ofList name)
  | .absent => some .null

/-- What a name means for the value by its kind. -/
def common? (v : Value) (name : Text) : Option Value :=
  if name = "__doc__".toList then some (if v.kindOf = .null then .null else .text [])
  else (v.kindOf.bringer? (String.ofList name)).bind fun (bringer, f) => v.ofFeature name bringer f

/-- What the name means for the value, if it means anything. -/
def attribute? (v : Value) (name : Text) : Option Value :=
  if name = "__class__".toList then some (.kind v.kindOf)
  else match v with
    | .record fields =>
      ((v.part? (String.ofList name)).orElse fun _ => fields.lookup name).orElse fun _ =>
        v.common? name
    | .kind k =>
      ((kindPart? k (String.ofList name)).orElse fun _ =>
        (k.bringer? (String.ofList name)).bind fun (bringer, f) => ofOwnFeature k name bringer f).orElse
          fun _ => v.common? name
    | v => v.common? name

end Value
end BuildBlocks
