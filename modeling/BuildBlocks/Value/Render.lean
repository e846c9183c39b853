import BuildBlocks.Value.Basic
import BuildBlocks.Number.Shortest

/-!
# Values as texts

A looked-up value is put into the page as a text. Texts stand for themselves and the absent value
for nothing; every other value is written so that its parts can be told apart: texts in quotes,
lists in brackets, mappings and records with their keys in order. A collection inside itself is
written as three points.

Whole numbers of more than `Whole.maxDigits` digits are not written out at all.
-/

namespace BuildBlocks

/-- One byte of a byte string in quotes. -/
def describeByte (quote : Char) (b : UInt8) : Text :=
  let c := Char.ofNat b.toNat
  if c = quote || c = '\\' then ['\\', c]
  else if c = '\n' then ['\\', 'n']
  else if c = '\r' then ['\\', 'r']
  else if c = '\t' then ['\\', 't']
  else if 0x20 ≤ b.toNat && b.toNat < 0x7f then [c]
  else '\\' :: 'x' :: Text.hexPadded 2 b.toNat

/-- A byte string in quotes. -/
def describeBytes (bs : Bytes) : Text :=
  let q := Text.quoteFor (bs.map fun b => Char.ofNat b.toNat)
  'b' :: q :: bs.flatMap (describeByte q) ++ [q]

namespace Value

/-- Where in memory a value lies. Values here have no place, so all are said to lie at zero. -/
def address : String := "0x0"

/-- A collection inside itself. -/
def pointsFor (k : Kind) : Text :=
  if k = .mapping then "\x7b...\x7d".toList else "[...]".toList

mutual

/-- A value as it is described inside another one; `outer` holds the labels of the collections around
it, with their kinds. -/
def describeIn (outer : List (Nat × Kind)) : Value → Text
  | .null => "None".toList
  | .bool b => if b then "True".toList else "False".toList
  | .int n => (toString n).toList
  | .double d => d.render
  | .text s => Text.quoted s
  | .list items => '[' :: describeItems outer items ++ [']']
  | .tuple [x] => '(' :: describeIn outer x ++ [',', ')']
  | .tuple items => '(' :: describeItems outer items ++ [')']
  | .mapping entries => '\x7b' :: describeEntries outer entries ++ ['\x7d']
  | .set [] => "set()".toList
  | .set items => '\x7b' :: describeItems outer items ++ ['\x7d']
  | .record fields => "namespace(".toList ++ describeFields outer fields ++ [')']
  | .moment m => m.describe
  | .duration d => d.describe.toList
  | .zone z => z.describe.toList
  | .bytes bs => describeBytes bs
  | .kind k => s!"<class '{k.fullName}'>".toList
  | .method owner name =>
    s!"<built-in method {name} of {owner.kindOf.fullName} object at {address}>".toList
  | .slot owner name =>
    s!"<method-wrapper '{name}' of {owner.kindOf.fullName} object at {address}>".toList
  | .unbound form k name => s!"<{form.title} '{name}' of '{k.fullName}' objects>".toList
  | .loop label body =>
    if (outer.lookup label).isSome then pointsFor body.kindOf
    else describeIn ((label, body.kindOf) :: outer) body
  | .again label => pointsFor ((outer.lookup label).getD .list)

/-- Values one after another, with commas between them. -/
def describeItems (outer : List (Nat × Kind)) : List Value → Text
  | [] => []
  | [x] => describeIn outer x
  | x :: xs => describeIn outer x ++ ',' :: ' ' :: describeItems outer xs

/-- The entries of a mapping, with commas between them. -/
def describeEntries (outer : List (Nat × Kind)) : List (Value × Value) → Text
  | [] => []
  | [(k, v)] => describeIn outer k ++ ':' :: ' ' :: describeIn outer v
  | (k, v) :: es =>
    describeIn outer k ++ ':' :: ' ' :: describeIn outer v ++ ',' :: ' ' :: describeEntries outer es

/-- The fields of a record, with commas between them. -/
def describeFields (outer : List (Nat × Kind)) : List (Text × Value) → Text
  | [] => []
  | [(k, v)] => k ++ '=' :: describeIn outer v
  | (k, v) :: fs => k ++ '=' :: describeIn outer v ++ ',' :: ' ' :: describeFields outer fs

end

/-- A value as it is described inside another one. -/
def describe (v : Value) : Text := v.describeIn []

mutual

/-- Whether a whole number with too many digits to be written occurs in the value. -/
def hasLongInt : Value → Bool
  | .int n => Nat.pow 10 Whole.maxDigits ≤ n.natAbs
  | .list items | .tuple items | .set items => hasLongIntItems items
  | .mapping entries => hasLongIntEntries entries
  | .record fields => hasLongIntFields fields
  | .loop _ body => hasLongInt body
  | _ => false

/-- Whether one of the values holds too long a whole number. -/
def hasLongIntItems : List Value → Bool
  | [] => false
  | x :: xs => hasLongInt x || hasLongIntItems xs

/-- Whether one of the entries holds too long a whole number. -/
def hasLongIntEntries : List (Value × Value) → Bool
  | [] => false
  | (k, v) :: es => hasLongInt k || hasLongInt v || hasLongIntEntries es

/-- Whether one of the fields holds too long a whole number. -/
def hasLongIntFields : List (Text × Value) → Bool
  | [] => false
  | (_, v) :: fs => hasLongInt v || hasLongIntFields fs

end

/-- A value as a text of its own: texts, moments, durations and zones stand without what tells them
apart inside other values. -/
def display : Value → Text
  | .text s => s
  | .moment m => m.render
  | .duration d => d.render
  | .zone z => z.render
  | v => v.describe

/-- A value as it is put into a page: the absent value is nothing. A value with too long a whole
number has no text. -/
def render? : Value → Option Text
  | .null => some []
  | v => if v.hasLongInt then none else some v.display

end Value
end BuildBlocks
