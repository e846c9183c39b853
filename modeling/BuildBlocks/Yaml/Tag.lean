import BuildBlocks.Pattern.Match
import BuildBlocks.Pattern.Parser

/-!
# Tags

The tag of a node says what kind of value it is. A node may carry its tag; a plain scalar without one
gets it from how it looks, any other scalar is a text, and a collection is what its brackets say.
-/

namespace BuildBlocks
namespace Yaml

/-- The kinds of values that a data file can hold. -/
inductive Tag where
  | null
  | bool
  | int
  | float
  | text
  | list
  | mapping
  | moment
  | binary
  | pairs
  | set
  /-- The key under which a mapping takes over the entries of another. -/
  | merge
  /-- The key of the value that a mapping stands for where a scalar is needed. -/
  | default
  | unknown
  deriving DecidableEq, Repr

namespace Tag

/-- How the names of known tags begin. -/
def space : Text := "tag:yaml.org,2002:".toList

/-- The tag with a name. -/
def ofName (name : Text) : Tag :=
  match (Text.dropPrefix? space name).map String.ofList with
  | some "null" => .null
  | some "bool" => .bool
  | some "int" => .int
  | some "float" => .float
  | some "str" => .text
  | some "seq" => .list
  | some "map" => .mapping
  | some "timestamp" => .moment
  | some "binary" => .binary
  | some "omap" | some "pairs" => .pairs
  | some "set" => .set
  | some "merge" => .merge
  | some "value" => .default
  | _ => .unknown

/-! ## How plain scalars look -/

/-- Whether a text has the shape that a pattern describes. -/
def hasShape (shape : String) (s : Text) : Bool :=
  (Pattern.ofText? shape.toList).any fun p => (p.matchAt { before := [], after := s }).isSome

/-- Truth values. -/
def boolShape : String :=
  "^(?:yes|Yes|YES|no|No|NO|true|True|TRUE|false|False|FALSE|on|On|ON|off|Off|OFF)$"

/-- Numbers with a point, also in base sixty, and the values that are no numbers. -/
def floatShape : String :=
  "^(?:[-+]?(?:[0-9][0-9_]*)\\.[0-9_]*(?:[eE][-+][0-9]+)?" ++
  "|\\.[0-9][0-9_]*(?:[eE][-+][0-9]+)?" ++
  "|[-+]?[0-9][0-9_]*(?::[0-5]?[0-9])+\\.[0-9_]*" ++
  "|[-+]?\\.(?:inf|Inf|INF)|\\.(?:nan|NaN|NAN))$"

/-- Whole numbers in base two, eight, ten, sixteen and sixty. -/
def intShape : String :=
  "^(?:[-+]?0b[0-1_]+|[-+]?0[0-7_]+|[-+]?(?:0|[1-9][0-9_]*)|[-+]?0x[0-9a-fA-F_]+" ++
  "|[-+]?[1-9][0-9_]*(?::[0-5]?[0-9])+)$"

/-- Nothing. -/
def nullShape : String := "^(?:~|null|Null|NULL|)$"

/-- Days, and days with a time. -/
def momentShape : String :=
  "^(?:[0-9][0-9][0-9][0-9]-[0-9][0-9]-[0-9][0-9]" ++
  "|[0-9][0-9][0-9][0-9]-[0-9][0-9]?-[0-9][0-9]?(?:[Tt]|[ \\t]+)[0-9][0-9]?:[0-9][0-9]:[0-9][0-9]" ++
  "(?:\\.[0-9]*)?(?:[ \\t]*(?:Z|[-+][0-9][0-9]?(?::[0-9][0-9])?))?)$"

/-- The key under which a mapping takes over the entries of another. -/
def mergeShape : String := "^(?:<<)$"

/-- The key of the value that a mapping stands for. -/
def defaultShape : String := "^(?:=)$"

/-- The signs of nodes, which are no values. -/
def signShape : String := "^(?:!|&|\\*)$"

/-- The shapes of scalars: the tag, the characters with which such scalars begin, and the shape. -/
def shapes : List (Tag × String × String) :=
  [(.bool, "yYnNtTfFoO", boolShape), (.float, "-+0123456789.", floatShape),
    (.int, "-+0123456789", intShape), (.merge, "<", mergeShape), (.null, "~nN", nullShape),
    (.moment, "0123456789", momentShape), (.default, "=", defaultShape),
    (.unknown, "!&*", signShape)]

/-- The tag that a scalar has by how it looks. -/
def ofLooks (s : Text) : Tag :=
  match s with
  | [] => .null
  | c :: _ =>
    ((shapes.find? fun (_, starts, shape) => starts.contains c && hasShape shape s).map (·.1)).getD .text

/-- The tag of a scalar. A single exclamation mark leaves it to how the scalar looks, as does a plain
scalar without a tag; any other scalar without a tag is a text. -/
def ofScalar (written : Option Text) (plain : Bool) (s : Text) : Tag :=
  match written with
  | none => if plain then ofLooks s else .text
  | some ['!'] => ofLooks s
  | some name => ofName name

/-- The tag of a collection, which is `kind` unless another one is written. -/
def ofCollection (written : Option Text) (kind : Tag) : Tag :=
  match written with
  | none | some ['!'] => kind
  | some name => ofName name

end Tag
end Yaml
end BuildBlocks
