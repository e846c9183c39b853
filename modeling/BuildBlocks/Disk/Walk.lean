import BuildBlocks.Disk.Basic

/-!
# Following paths

Opening a file follows its path name by name from the folder in which it starts: every link on the
way is replaced by its target, and two points lead to the folder above. The walk stops with an error
at the first name that leads nowhere. At most `Disk.maxLinks` links are followed, so a walk ends
even if links lead in circles.
-/

namespace BuildBlocks

/-- Why the system refuses a path. -/
inductive Refusal where
  | notFound
  | notFolder
  | isFolder
  | exists
  | nameTooLong
  | tooManyLinks
  deriving DecidableEq, Repr

namespace Refusal

/-- The number of an error. -/
def code : Refusal → Nat
  | .notFound => 2
  | .exists => 17
  | .notFolder => 20
  | .isFolder => 21
  | .nameTooLong => 36
  | .tooManyLinks => 40

/-- The wording of an error. -/
def wording : Refusal → String
  | .notFound => "No such file or directory"
  | .exists => "File exists"
  | .notFolder => "Not a directory"
  | .isFolder => "Is a directory"
  | .nameTooLong => "File name too long"
  | .tooManyLinks => "Too many levels of symbolic links"

end Refusal

namespace Disk

/-- The most bytes a name may have. -/
def maxNameBytes : Nat := 255

/-- The most bytes a path may have. -/
def maxPathBytes : Nat := 4095

/-- The most links that are followed on the way to one file. -/
def maxLinks : Nat := 40

/-- Where a path leads: to something that is there, or to a name that its folder does not hold. -/
inductive Located where
  | present (place : Place) (e : Entry)
  | absent (place : Place)
  deriving DecidableEq, Repr

/-- Follows `names` from the folder at `place`, with `links` links left. The last name is followed
through links only if `follow` says so. -/
def walk (disk : Disk) (follow : Bool) (links : Nat) (place : Place) (names : List Text) :
    Except Refusal Located :=
  match names with
  | [] => match disk.lookup? place with
    | some e => .ok (.present place e)
    | none => .error .notFound
  | name :: rest =>
    if disk.lookup? place ≠ some .folder then .error .notFolder
    else if name = ['.'] then walk disk follow links place rest
    else if name = ['.', '.'] then walk disk follow links place.dropLast rest
    else if maxNameBytes < (Utf8.encode name).length then .error .nameTooLong
    else
      let next := place ++ [name]
      match disk.lookup? next with
      | none => if rest.isEmpty then .ok (.absent next) else .error .notFound
      | some (.link target) =>
        if rest.isEmpty && !follow then .ok (.present next (.link target))
        else match links with
          | 0 => .error .tooManyLinks
          | links + 1 =>
            let start := if Path.rootOf target = [] then place else []
            walk disk follow links start (Path.targetParts target ++ rest)
      | some e =>
        if rest.isEmpty then .ok (.present next e)
        else if e = .folder then walk disk follow links next rest
        else .error .notFolder
termination_by (links, names.length)

/-- Where a path leads; `follow` says whether its last name is followed through links. -/
def locateBy (disk : Disk) (follow : Bool) (p : Path) : Except Refusal Located :=
  if maxPathBytes < (Utf8.encode p.toText).length then .error .nameTooLong
  else disk.walk follow maxLinks (disk.start p) p.parts

/-- Where a path leads. -/
def locate (disk : Disk) (p : Path) : Except Refusal Located := disk.locateBy true p

/-- Where a path leads if its last name is not followed through links. -/
def locateLast (disk : Disk) (p : Path) : Except Refusal Located := disk.locateBy false p

end Disk
end BuildBlocks
