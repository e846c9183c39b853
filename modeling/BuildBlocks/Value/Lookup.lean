import BuildBlocks.Value.Attribute

/-!
# Looking up

A path of keys leads from the data of a page to one of the values in it. In a mapping every key is
looked up among the entries; in a list a number counts from the start, or from the end if it is
negative; in anything else a name means an attribute.
-/

namespace BuildBlocks

/-- One step of a path. -/
inductive Key where
  | name (s : Text)
  | index (n : Int)
  deriving DecidableEq, Repr

namespace Key

/-- The key as a value, as it stands in a mapping. -/
def toValue : Key → Value
  | .name s => .text s
  | .index n => .int n

end Key

namespace Value

/-- The item at place `n`, counted from the end if `n` is negative. -/
def itemAt? {α : Type} (items : List α) (n : Int) : Option α :=
  if n ≥ 0 then items[n.toNat]?
  else if n + items.length ≥ 0 then items[(n + items.length).toNat]?
  else none

/-- The value that one key leads to. -/
def step? (v : Value) (key : Key) : Option Value :=
  match v.unfold, key with
  | .mapping entries, key => get? key.toValue entries
  | .list items, .index n | .tuple items, .index n => itemAt? items n
  | .bytes bs, .index n => (itemAt? bs n).map fun b => .int b.toNat
  | v, .name s => v.attribute? s
  | _, .index _ => none

/-- The value that a path leads to. -/
def lookup? (v : Value) : List Key → Option Value
  | [] => some v
  | key :: keys => (v.step? key).bind (lookup? · keys)

end Value
end BuildBlocks
