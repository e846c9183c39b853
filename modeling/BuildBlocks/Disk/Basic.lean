import BuildBlocks.Path
import BuildBlocks.Text.Codec

/-!
# Disks

The files that a run sees are kept as a value: every file, folder and link under the list of names
that leads to it from the root, and the folder in which relative paths start. Nothing else is
visible to a run, so what it reads and writes can be stated by looking names up before and after.

A file may also be a source of block types, known by the name of what it registers.
-/

namespace BuildBlocks

/-- The names that lead from the root to a place. -/
abbrev Place := List Text

/-- What can stand at a place. -/
inductive Entry where
  | folder
  | file (content : Bytes)
  | link (target : Text)
  | source (name : Text)
  deriving DecidableEq, Repr

/-- Whether something can be read as a file. -/
def Entry.isFile : Entry → Bool
  | .file _ | .source _ => true
  | _ => false

/-- Files, folders and links by place, and the place in which relative paths start. -/
structure Disk where
  entries : List (Place × Entry)
  here : Place := []
  deriving DecidableEq, Repr

namespace Disk

/-- What stands at a place. The root is always a folder. -/
def lookup? (disk : Disk) (place : Place) : Option Entry :=
  if place.isEmpty then some .folder else disk.entries.lookup place

/-- The entries with `e` at a place. -/
def put (place : Place) (e : Entry) : List (Place × Entry) → List (Place × Entry)
  | [] => [(place, e)]
  | (p, old) :: rest => if p = place then (p, e) :: rest else (p, old) :: put place e rest

/-- The disk with `e` at a place. -/
def set (disk : Disk) (place : Place) (e : Entry) : Disk :=
  { disk with entries := put place e disk.entries }

/-- The disk without what stands at a place and below it. -/
def remove (disk : Disk) (place : Place) : Disk :=
  { disk with entries := disk.entries.filter fun e => e.1.take place.length ≠ place }

/-- The names in a folder, in the order in which they were put there. -/
def children (disk : Disk) (place : Place) : List Text :=
  disk.entries.filterMap fun e =>
    if e.1.length = place.length + 1 ∧ e.1.dropLast = place then e.1.getLast? else none

/-- The folder in which a path starts. -/
def start (disk : Disk) (p : Path) : Place := if p.isAbsolute then [] else disk.here

/-! ## Looking up after writing -/

theorem lookup_put (place q : Place) (e : Entry) (es : List (Place × Entry)) :
    (put place e es).lookup q = if q = place then some e else es.lookup q := by
  induction es with
  | nil =>
    by_cases h : q = place
    · simp [put, h]
    · have hb : (q == place) = false := by simpa using h
      simp [put, List.lookup_cons, h, hb]
  | cons x xs ih =>
    obtain ⟨p, old⟩ := x
    by_cases hp : p = place
    · subst hp
      by_cases hq : q = p
      · simp [put, hq]
      · have hb : (q == p) = false := by simpa using hq
        simp [put, List.lookup_cons, hq, hb]
    · by_cases hq : q = p
      · subst hq
        simp [put, hp]
      · have hb : (q == p) = false := by simpa using hq
        simp only [put, hp, if_false, List.lookup_cons, hb]
        exact ih

/-- After writing at a place, that place holds what was written and every other place what it
held. -/
theorem lookup?_set (disk : Disk) (place q : Place) (e : Entry) (h : place ≠ []) :
    (disk.set place e).lookup? q = if q = place then some e else disk.lookup? q := by
  by_cases hq : q = []
  · subst hq
    simp [lookup?, Ne.symm h]
  · simp [lookup?, set, hq, lookup_put]

end Disk
end BuildBlocks
