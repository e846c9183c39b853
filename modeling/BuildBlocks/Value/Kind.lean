/-!
# Kinds of values

Every value has a kind. A kind specialises others (`Kind.ancestry`), up to the one that all values
have in common, and is known by a name; some kinds belong to a library.
-/

namespace BuildBlocks

/-- What a kind brings to its values, when it is seen by itself and not in a value. -/
inductive Unbound where
  /-- An operation behind a sign. -/
  | slot
  /-- A named operation. -/
  | method
  /-- A part that is worked out. -/
  | part
  /-- A part that is kept. -/
  | field
  deriving DecidableEq, Repr

namespace Unbound

/-- The name of the kind of such a thing. -/
def kindName : Unbound → String
  | .slot => "wrapper_descriptor"
  | .method => "method_descriptor"
  | .part => "getset_descriptor"
  | .field => "member_descriptor"

/-- What such a thing is called. -/
def title : Unbound → String
  | .slot => "slot wrapper"
  | .method => "method"
  | .part => "attribute"
  | .field => "member"

end Unbound

/-- The kinds of values. -/
inductive Kind where
  | null | bool | int | double | text | list | tuple | mapping | set | record | date | dateTime
  | duration | zone | anyZone | bytes | kind | object | method | slot
  | unbound (form : Unbound)
  deriving DecidableEq, Repr

namespace Kind

/-- The name of a kind. -/
def name : Kind → String
  | .null => "NoneType"
  | .bool => "bool"
  | .int => "int"
  | .double => "float"
  | .text => "str"
  | .list => "list"
  | .tuple => "tuple"
  | .mapping => "dict"
  | .set => "set"
  | .record => "SimpleNamespace"
  | .date => "date"
  | .dateTime => "datetime"
  | .duration => "timedelta"
  | .zone => "timezone"
  | .anyZone => "tzinfo"
  | .bytes => "bytes"
  | .kind => "type"
  | .object => "object"
  | .method => "builtin_function_or_method"
  | .slot => "method-wrapper"
  | .unbound form => form.kindName

/-- The library that a kind belongs to, unless it is always at hand. -/
def library? : Kind → Option String
  | .record => some "types"
  | .date | .dateTime | .duration | .zone | .anyZone => some "datetime"
  | _ => none

/-- The name of a kind with the library it belongs to. -/
def fullName (k : Kind) : String :=
  match k.library? with
  | some l => s!"{l}.{k.name}"
  | none => k.name

/-- The kinds that a kind specialises, from itself to the most general one. -/
def ancestry : Kind → List Kind
  | .object => [.object]
  | .bool => [.bool, .int, .object]
  | .dateTime => [.dateTime, .date, .object]
  | .zone => [.zone, .anyZone, .object]
  | k => [k, .object]

end Kind
end BuildBlocks
