import BuildBlocks.Yaml.Atom

/-!
# Collections of a data file

A node becomes a value by its tag. A collection is begun when it is met and filled later, in the order
in which collections were begun; so it can stand inside itself, and what is wrong with it shows only
after everything that was met before it has been looked at. Wherever its node stands again, it is the
same collection.

A mapping may take over the entries of other mappings; what it says itself counts more, and of several
mappings that it takes over the first counts most. Of two entries with the same key the later one
counts, at the place of the earlier. The entries of a mapping are replaced by those it has after taking
over, so that mappings which take over from it find them there.
-/

namespace BuildBlocks
namespace Yaml

/-- What a node has become: a value, or the collection of a node. -/
inductive Datum where
  | value (v : Value)
  | collection (node : Nat)
  deriving Repr

/-- A key of a mapping. What is no number is the same key only if it comes from the same place: the
node `origin`, or the written word for it. -/
structure Key where
  value : Value
  origin : Option Nat
  deriving Repr

/-- Whether two keys are the same. -/
def Key.same (a b : Key) : Bool :=
  match a.value, b.value with
  | .double .nan, .double .nan => a.origin = b.origin
  | v, w => Value.sameKey v w

/-- A collection whose parts may be collections. -/
inductive Collection where
  | list (items : List Datum)
  | pairs (items : List (Datum × Datum))
  | mapping (entries : List (Key × Datum))
  | set (items : List Key)
  deriving Repr

/-- The nodes as far as they have been changed, the collections that have been begun, by node, and
their nodes in order. -/
structure Building where
  nodes : Graph
  collections : Array (Option Collection)
  begun : Array Nat := #[]

/-- A step of making values. -/
abbrev Builder := StateT Building (Except Failure)

namespace Builder

/-- Ends because the data file is malformed. -/
def malformed {α : Type} : Builder α := throw .malformedData

/-- The node with a number. -/
def nodeAt (n : Nat) : Builder Node := do
  match (← get).nodes[n]? with
  | some node => return node
  | none => malformed

/-- The tag of the node with a number. -/
def tagAt (n : Nat) : Builder Tag := do return (← nodeAt n).tag

/-- Changes the node with a number. -/
def change (n : Nat) (f : Node → Node) : Builder Unit :=
  modify fun s => { s with nodes := s.nodes.modify n f }

/-! ## Scalars -/

/-- The text of a node where a scalar is needed: a mapping stands for its default entry. -/
def scalarText : (fuel : Nat) → (n : Nat) → Builder Text
  | 0, _ => throw .endlessDefault
  | fuel + 1, n => do
    match (← nodeAt n).content with
    | .scalar s => return s
    | .list _ => malformed
    | .mapping entries =>
      match ← entries.findM? fun (k, _) => return (← tagAt k) = .default with
      | some (_, v) => scalarText fuel v
      | none => malformed

/-- The value of a node that is no collection. -/
def atom (n : Nat) (node : Node) : Builder Value := do
  if [.unknown, .merge, .default].contains node.tag then malformed
  let s ← scalarText ((← get).nodes.size + 1) n
  match node.tag, node.content with
  | .moment, .mapping _ => throw .momentInMapping
  | tag, _ => scalarValue tag s

/-! ## Taking over entries -/

/-- The entries of a node that must be a mapping. -/
def entriesAt (n : Nat) : Builder (List (Nat × Nat)) := do
  match (← nodeAt n).content with
  | .mapping entries => return entries
  | _ => malformed

/-- Gives a mapping other entries. -/
def setEntries (n : Nat) (entries : List (Nat × Nat)) : Builder Unit :=
  change n fun node => { node with content := .mapping entries }

/-- The entries that are taken over from a node: a mapping, or a list of mappings with the first one
last. `settle` makes a mapping take over what it has to take over itself. -/
def takenFrom (settle : Nat → Builder Unit) (n : Nat) : Builder (List (Nat × Nat)) := do
  match (← nodeAt n).content with
  | .mapping _ =>
    settle n
    entriesAt n
  | .list items =>
    let found ← items.mapM fun m => do
      let _ ← entriesAt m
      settle m
      entriesAt m
    return found.reverse.flatten
  | .scalar _ => malformed

/-- Takes the entries out of mapping `n` that say what to take over, and gives what is taken over. The
entries before `rest` are in `kept`, last one first. A mapping that takes over from itself is settled
on the way and then has nothing left to take over. -/
def takeOver (settle : Nat → Builder Unit) (n : Nat) :
    (kept rest : List (Nat × Nat)) → Builder (List (Nat × Nat))
  | _, [] => return []
  | kept, (k, v) :: rest => do
    match ← tagAt k with
    | .merge =>
      let left := kept.reverse ++ rest
      setEntries n left
      let taken ← takenFrom settle v
      if (← entriesAt n) = left then return taken ++ (← takeOver settle n kept rest)
      else return taken
    | .default =>
      change k fun node => { node with tag := .text }
      takeOver settle n ((k, v) :: kept) rest
    | _ => takeOver settle n ((k, v) :: kept) rest

/-- Makes a mapping take over the entries that it has to take over. Each level of mappings that take
over from others uses up one entry, so `fuel` entries suffice. -/
def settle : (fuel : Nat) → (n : Nat) → Builder Unit
  | 0, _ => pure ()
  | fuel + 1, n => do
    let taken ← takeOver (settle fuel) n [] (← entriesAt n)
    if !taken.isEmpty then setEntries n (taken ++ (← entriesAt n))

/-- The number of entries of all mappings. -/
def entryCount (g : Graph) : Nat :=
  g.foldl (fun count node =>
    match node.content with
    | .mapping entries => count + entries.length
    | _ => count) 0

/-! ## Filling collections -/

/-- The collection that a tag begins, with nothing in it. -/
def begin? : Tag → Option Collection
  | .list => some (.list [])
  | .pairs => some (.pairs [])
  | .mapping => some (.mapping [])
  | .set => some (.set [])
  | _ => none

/-- What a node becomes. A collection is only begun. -/
def datum (n : Nat) : Builder Datum := do
  let node ← nodeAt n
  match begin? node.tag with
  | none => return .value (← atom n node)
  | some empty =>
    let s ← get
    if (s.collections[n]?).join.isNone then
      set { s with collections := s.collections.modify n fun _ => some empty, begun := s.begun.push n }
    return .collection n

/-- The key that a node becomes; a collection is no key. -/
def key (n : Nat) : Builder Key := do
  match ← datum n, (← nodeAt n).content with
  | .collection _, _ => malformed
  | .value v, .scalar s => return ⟨v, if isWrittenNan s then none else some n⟩
  | .value v, _ => return ⟨v, some n⟩

/-- The entries with a key set: an entry there already keeps its place and its key. -/
def setKey (k : Key) (d : Datum) : List (Key × Datum) → List (Key × Datum)
  | [] => [(k, d)]
  | (k', d') :: rest => if k'.same k then (k', d) :: rest else (k', d') :: setKey k d rest

/-- The entries of a mapping after it has taken over what it has to. -/
def entries (n : Nat) : Builder (List (Key × Datum)) := do
  settle (entryCount (← get).nodes + 1) n
  (← entriesAt n).foldlM (fun found (k, v) => do
    let k ← key k
    return setKey k (← datum v) found) []

/-- The pair that a mapping with one entry is. -/
def pair (n : Nat) : Builder (Datum × Datum) := do
  match ← entriesAt n with
  | [(k, v)] =>
    let k ← datum k
    return (k, ← datum v)
  | _ => malformed

/-- Fills the collection of a node. -/
def fill (n : Nat) : Builder Unit := do
  let node ← nodeAt n
  let filled ← match node.tag, node.content with
    | .list, .list items => pure (.list (← items.mapM datum))
    | .pairs, .list items => pure (.pairs (← items.mapM pair))
    | .mapping, .mapping _ => pure (.mapping (← entries n))
    | .set, .mapping _ => pure (.set ((← entries n).map (·.1)))
    | _, _ => malformed
  modify fun s => { s with collections := s.collections.modify n fun _ => some filled }

/-- Fills the collections that have been begun, from the one with number `done` in their order on. Each
node begins at most one, so there are at most `fuel`. -/
def fillAll : (fuel done : Nat) → Builder Unit
  | 0, _ => pure ()
  | fuel + 1, done => do
    match (← get).begun[done]? with
    | none => pure ()
    | some n =>
      fill n
      fillAll fuel (done + 1)

end Builder

/-- What a node of a graph becomes, and the collections of the nodes. -/
def Datum.ofGraph (g : Graph) (n : Nat) : Except Failure (Datum × Array (Option Collection)) := do
  let make : Builder Datum := do
    let d ← Builder.datum n
    Builder.fillAll g.size 0
    return d
  let (d, s) ← make.run { nodes := g, collections := Array.replicate g.size none }
  return (d, s.collections)

end Yaml
end BuildBlocks
