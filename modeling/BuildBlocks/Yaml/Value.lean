import BuildBlocks.Value.Members
import BuildBlocks.Yaml.Collection

/-!
# Values of a data file

The collections of a data file are put together to one value. A collection that stands inside itself,
directly or through others, gets its label, and so do the others on the way; where it stands again,
only its label is named. A collection that no label leads out of is put together once and used
wherever it stands.
-/

namespace BuildBlocks
namespace Yaml

/-- The collections that are put together, by node, as far as no label leads out of them. -/
abbrev Assembly := StateM (Array (Option Value))

/-- A value and the labels that lead out of it. -/
abbrev Assembled := Value × List Nat

/-- Joins the labels of values. -/
def labelsOf (vs : List Assembled) : List Nat := (vs.flatMap (·.2)).eraseDups

/-- The value of a collection whose parts are put together by `part`. -/
def Collection.assemble (part : Datum → Assembly Assembled) : Collection → Assembly Assembled
  | .list items => do
    let vs ← items.mapM part
    return (.list (vs.map (·.1)), labelsOf vs)
  | .pairs items => do
    let vs ← items.mapM fun (a, b) => do
      let first ← part a
      let second ← part b
      return (Value.tuple [first.1, second.1], first.2 ++ second.2)
    return (.list (vs.map (·.1)), labelsOf vs)
  | .mapping entries => do
    let vs ← entries.mapM fun (_, d) => part d
    return (.mapping ((entries.map (·.1.value)).zip (vs.map (·.1))), labelsOf vs)
  | .set items => return (.set (Value.listMembers (items.map (·.value))), [])

/-- Puts a value together inside the collections of the nodes on `path`. The nodes of a path differ, so
there are at most `fuel` on it. -/
def Datum.assemble (collections : Array (Option Collection)) :
    (fuel : Nat) → (path : List Nat) → Datum → Assembly Assembled
  | _, _, .value v => return (v, [])
  | 0, _, .collection n => return (.again n, [n])
  | fuel + 1, path, .collection n => do
    if path.contains n then return (.again n, [n])
    match ((← get)[n]?).join, (collections[n]?).join with
    | some v, _ => return (v, [])
    | none, none => return (.null, [])
    | none, some c =>
      let (body, labels) ← c.assemble (Datum.assemble collections fuel (n :: path))
      let v := if labels.isEmpty then body else .loop n body
      let leading := labels.filter (· ≠ n)
      if leading.isEmpty then modify fun known => known.modify n fun _ => some v
      return (v, leading)

end Yaml

/-- The value of a data file; a file without a document holds nothing. -/
def Value.ofYaml (text : Text) : Except Failure Value := do
  let (g, n) ← Yaml.Graph.ofText text
  match n with
  | none => .ok .null
  | some n =>
    let (d, collections) ← Yaml.Datum.ofGraph g n
    let known := Array.replicate g.size none
    .ok ((d.assemble collections (g.size + 1) []).run known).1.1

end BuildBlocks
