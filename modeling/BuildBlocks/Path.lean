import BuildBlocks.Text.Basic

/-!
# Paths

A path is a root and the names below it. Reading a path drops empty names and single points; two
points are kept, since what they mean depends on links. A path that starts with exactly two slashes
has a root of its own.
-/

namespace BuildBlocks

/-- A path: the slashes it starts with (none for a relative path) and the names after them. -/
structure Path where
  root : Text
  parts : List Text
  deriving DecidableEq, Repr

namespace Path

/-- The root of a written path. -/
def rootOf : Text → Text
  | '/' :: '/' :: '/' :: _ => ['/']
  | '/' :: '/' :: _ => ['/', '/']
  | '/' :: _ => ['/']
  | _ => []

/-- The names of a written path. -/
def partsOf (s : Text) : List Text :=
  (Text.splitBy (· = '/') s).filter fun p => !p.isEmpty && p != ['.']

/-- The names of the target of a link. A target that ends with a slash or a point asks for a folder; the
point is kept for that. -/
def targetParts (s : Text) : List Text :=
  let last := (Text.splitBy (· = '/') s).getLast?
  partsOf s ++ if last = some [] || last = some ['.'] then [['.']] else []

/-- The path that is written. -/
def ofText (s : Text) : Path := ⟨rootOf s, partsOf s⟩

/-- The path as it is written: its own folder is a single point. -/
def toText (p : Path) : Text :=
  if p.root.isEmpty && p.parts.isEmpty then ['.']
  else p.root ++ Text.join ['/'] p.parts

instance : ToString Path := ⟨fun p => String.ofList p.toText⟩

/-- Whether the path starts at a root. -/
def isAbsolute (p : Path) : Bool := !p.root.isEmpty

/-- `q` as seen from `p`. -/
def join (p q : Path) : Path :=
  if q.isAbsolute then q else ⟨p.root, p.parts ++ q.parts⟩

/-- The folder that holds the path; a root holds itself. -/
def parent (p : Path) : Path := ⟨p.root, p.parts.dropLast⟩

/-- The last name of the path. -/
def name (p : Path) : Text := p.parts.getLast?.getD []

/-- The last point of the last name and what follows it, unless the name starts or ends with that
point. -/
def suffix (p : Path) : Text :=
  let tail := Text.afterLast '.' p.name
  if tail.isEmpty || p.name.length ≤ tail.length + 1 then [] else '.' :: tail

/-- Whether names come before others or equal them, by the first names in which they differ. -/
def namesLe : (ss ts : List Text) → Bool
  | [], _ => true
  | _ :: _, [] => false
  | s :: ss, t :: ts => if s = t then namesLe ss ts else Text.le s t

/-- The absolute path with these names. -/
def absolute (parts : List Text) : Path := ⟨['/'], parts⟩

/-- The names of `p` below `base`, if `p` lies there. -/
def below? (base p : Path) : Option Path :=
  if base.root = p.root ∧ p.parts.take base.parts.length = base.parts then
    some ⟨[], p.parts.drop base.parts.length⟩
  else none

end Path
end BuildBlocks
