import BuildBlocks.Moment.Text
import BuildBlocks.Number.Double
import BuildBlocks.Text.Codec
import BuildBlocks.Value.Kind

/-!
# Data values

The data of a page is a mapping from names to values of any shape: numbers, texts, lists, nested
mappings and records with named fields. Options and data files are read as such values too, before
they are checked.

Looking things up in a value can also lead to what describes it: its kind, one of the operations that
values of its kind have, or such an operation by itself. These are values as well (`kind`, `method`,
`slot`, `unbound`).

A collection in a data file may hold itself. Such a collection carries a label (`loop`), and where it
stands again inside itself, only the label is named (`again`). `Value.unfold` puts the collection back
into its place.
-/

namespace BuildBlocks

/-- A value of page data. -/
inductive Value where
  | null
  | bool (b : Bool)
  | int (n : Int)
  | double (d : Double)
  | text (s : Text)
  | list (items : List Value)
  | tuple (items : List Value)
  | mapping (entries : List (Value × Value))
  | set (items : List Value)
  | record (fields : List (Text × Value))
  | moment (m : Moment)
  | duration (d : Duration)
  | zone (z : Zone)
  | bytes (bs : Bytes)
  | kind (k : Kind)
  /-- A named operation of a value. -/
  | method (owner : Value) (name : Text)
  /-- An operation of a value that stands behind a sign. -/
  | slot (owner : Value) (name : Text)
  /-- What a kind brings to its values under a name, by itself. -/
  | unbound (form : Unbound) (owner : Kind) (name : Text)
  /-- A collection that may hold itself, with its label. -/
  | loop (label : Nat) (body : Value)
  /-- The collection with the label, inside itself. -/
  | again (label : Nat)
  deriving Repr, Inhabited

namespace Value

/-- The kind of a value. -/
def kindOf : Value → Kind
  | .null => .null
  | .bool _ => .bool
  | .int _ => .int
  | .double _ => .double
  | .text _ => .text
  | .list _ => .list
  | .tuple _ => .tuple
  | .mapping _ => .mapping
  | .set _ => .set
  | .record _ => .record
  | .moment m => if m.time.isSome then .dateTime else .date
  | .duration _ => .duration
  | .zone _ => .zone
  | .bytes _ => .bytes
  | .kind _ => .kind
  | .method .. => .method
  | .slot .. => .slot
  | .unbound form _ _ => .unbound form
  | .loop _ body => body.kindOf
  | .again _ => .object

/-! ## Collections that hold themselves -/

mutual

/-- The value with `v` in every place that names the label. -/
def refill (label : Nat) (v : Value) : Value → Value
  | .again l => if l = label then v else .again l
  | .loop l body => if l = label then .loop l body else .loop l (refill label v body)
  | .list items => .list (refillItems label v items)
  | .tuple items => .tuple (refillItems label v items)
  | .mapping entries => .mapping (refillEntries label v entries)
  | w => w

/-- The values with `v` in every place that names the label. -/
def refillItems (label : Nat) (v : Value) : List Value → List Value
  | [] => []
  | x :: xs => refill label v x :: refillItems label v xs

/-- The entries with `v` in every place that names the label. -/
def refillEntries (label : Nat) (v : Value) : List (Value × Value) → List (Value × Value)
  | [] => []
  | (k, x) :: es => (k, refill label v x) :: refillEntries label v es

end

/-- The collection behind a label, with itself in the places that name it. -/
def unfold : Value → Value
  | .loop label body => refill label (.loop label body) body
  | v => v

/-- Whether a value counts as nothing: it is absent, false, zero or empty. -/
def isNothing : Value → Bool
  | .null | .bool false | .int 0 | .text [] | .list [] | .tuple [] | .mapping [] | .set []
  | .bytes [] => true
  | .double d => d.toInt? == some 0
  | _ => false

/-- The whole number that a value equals, if it equals one: truth values count as one and zero. -/
def toInt? : Value → Option Int
  | .bool b => some (if b then 1 else 0)
  | .int n => some n
  | .double d => d.toInt?
  | _ => none

mutual

/-- Whether two values are the same key of a mapping: numbers by what they denote, everything else
by its parts. -/
def sameKey : Value → Value → Bool
  | .null, .null => true
  | .text s, .text t => s == t
  | .tuple xs, .tuple ys => sameKeys xs ys
  | .moment m, .moment m' => m.same m'
  | .bytes a, .bytes b => a == b
  | .kind k, .kind k' => k == k'
  | .double d, .double d' => d.same d'
  | a, b =>
    match a.toInt?, b.toInt? with
    | some m, some n => m == n
    | _, _ => false

/-- Whether two lists of values are the same keys one by one. -/
def sameKeys : List Value → List Value → Bool
  | [], [] => true
  | x :: xs, y :: ys => sameKey x y && sameKeys xs ys
  | _, _ => false

end

/-- The entry of a mapping under `key`. -/
def get? (key : Value) (entries : List (Value × Value)) : Option Value :=
  (entries.find? fun e => sameKey e.1 key).map (·.2)

/-- The entries with `key` set to `value`: an entry there already keeps its place and its key. -/
def setEntry (key value : Value) : List (Value × Value) → List (Value × Value)
  | [] => [(key, value)]
  | (k, v) :: rest => if sameKey k key then (k, value) :: rest else (k, v) :: setEntry key value rest

/-- A mapping with texts for keys. -/
def ofFields (fields : List (Text × Value)) : Value :=
  .mapping (fields.foldl (fun es (k, v) => setEntry (.text k) v es) [])

/-- The entry of a mapping under a text. -/
def field? (name : Text) (entries : List (Value × Value)) : Option Value :=
  get? (.text name) entries

end Value
end BuildBlocks
