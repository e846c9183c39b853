import BuildBlocks.Disk.Access
import BuildBlocks.Glob.Wildcard

/-!
# Patterns for files

A pattern for files is a relative path whose names may be wildcards. Two stars stand for any folders,
none included; they follow no links. `Glob.files` gives the files that a pattern selects below a
folder, in the order of their names.
-/

namespace BuildBlocks
namespace Glob

/-- A name in a pattern. -/
inductive Part where
  | name (s : Text)
  | wildcard (items : List Item)
  /-- Any folders. -/
  | folders
  /-- The folder itself, after a slash at the end. -/
  | itself
  deriving DecidableEq, Repr

/-- Whether a text holds two stars in a row. -/
def hasTwoStars : Text → Bool
  | '*' :: '*' :: _ => true
  | _ :: rest => hasTwoStars rest
  | [] => false

/-- A name in a pattern as it is written. Two stars stand alone. -/
def Part.ofText (s : Text) : Except Failure Part :=
  if s = ['*', '*'] then .ok .folders
  else if hasTwoStars s then .error .recursiveGlob
  else if isWildcard s then .ok (.wildcard (items s))
  else .ok (.name s)

/-- The names of a pattern. -/
def parts (pattern : Text) : Except Failure (List Part) :=
  if pattern.isEmpty then .error (.emptyGlob (Text.quoted pattern))
  else if Path.rootOf pattern ≠ [] then .error .absoluteGlob
  else
    let slash := pattern.getLast? = some '/'
    if (Path.partsOf pattern).isEmpty then .error (.pointGlob slash)
    else do
      let named ← (Path.partsOf pattern).mapM Part.ofText
      .ok (named ++ if slash then [.itself] else [])

/-- A name below a path. -/
def below (p : Path) (name : Text) : Path := ⟨p.root, p.parts ++ [name]⟩

/-- The names in the folder at a path. -/
def namesIn (disk : Disk) (p : Path) : List Text :=
  match disk.locate p with
  | .ok (.present place .folder) => disk.children place
  | _ => []

/-- The folder at a path and all folders below it, without following links. -/
def foldersFrom (disk : Disk) (p : Path) : List Path :=
  match disk.locate p with
  | .ok (.present place .folder) =>
    p :: disk.entries.filterMap fun (q, e) =>
      if e = .folder ∧ place.length < q.length ∧ q.take place.length = place then
        some ⟨p.root, p.parts ++ q.drop place.length⟩
      else none
  | _ => []

/-- What a pattern selects from the folder at a path. Every name but the last has to be a folder. -/
def select (disk : Disk) : List Part → Path → Except Failure (List Path)
  | [], p => .ok [p]
  | .itself :: _, p => .ok [p]
  | .name s :: rest, p => do
    let child := below p s
    let found ← if rest.isEmpty then (disk.find? child).map Option.isSome else disk.isFolder child
    if found then select disk rest child else .ok []
  | .wildcard items :: rest, p => do
    let children := ((namesIn disk p).filter (matchesName items)).map (below p)
    let chosen ← children.filterM fun c => if rest.isEmpty then .ok true else disk.isFolder c
    let selected ← chosen.mapM (select disk rest)
    .ok selected.flatten
  | .folders :: rest, p => do
    let selected ← (foldersFrom disk p).mapM (select disk rest)
    .ok selected.flatten.eraseDups

/-- The files that a pattern selects below a folder, in the order of their names. -/
def files (disk : Disk) (folder : Path) (pattern : Text) : Except Failure (List Path) := do
  let ps ← parts pattern
  if ← disk.isFolder folder then
    let selected ← select disk ps folder
    let found ← selected.filterM disk.isFile
    .ok (found.mergeSort fun a b => Path.namesLe a.parts b.parts)
  else .ok []

end Glob
end BuildBlocks
