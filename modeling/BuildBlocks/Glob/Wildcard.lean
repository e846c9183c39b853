import BuildBlocks.Text.Basic

/-!
# Wildcards

A wildcard stands for file names: a star for any characters, a question mark for one, and a bracket
for one of a set. A set lists characters and ranges; an exclamation mark at its start makes it the set
of all others. A bracket that is not closed stands for itself.

A range whose ends are in the wrong order is dropped together with its ends, which may leave nothing:
the empty set stands for no character, and its opposite for every character.
-/

namespace BuildBlocks

/-- A set of characters: single ones and ranges, or all others. -/
structure Glob.CharSet where
  negated : Bool
  singles : Text
  ranges : List (Char × Char)
  deriving DecidableEq, Repr

/-- A part of a wildcard. -/
inductive Glob.Item where
  | star
  | any
  | set (s : Glob.CharSet)
  | char (c : Char)
  deriving DecidableEq, Repr

namespace Glob

/-! ## Sets -/

/-- Whether a set holds a character. -/
def CharSet.contains (s : CharSet) (c : Char) : Bool :=
  (s.singles.contains c || s.ranges.any fun (lo, hi) => lo ≤ c && c ≤ hi) != s.negated

/-- The text cut at the first `stop` that comes after `skip` characters. -/
def cutAfter (skip : Nat) (stop : Char) (s : Text) : Option (Text × Text) :=
  match (s.drop skip).dropWhile (· ≠ stop) with
  | [] => none
  | _ :: after => some (s.take skip ++ (s.drop skip).takeWhile (· ≠ stop), after)

theorem length_lt_of_cutAfter {skip : Nat} {stop : Char} {s before after : Text}
    (h : cutAfter skip stop s = some (before, after)) : after.length < s.length := by
  unfold cutAfter at h
  split at h
  · cases h
  · next x rest hs =>
    cases h
    have hle := (List.dropWhile_sublist (fun x => decide (x ≠ stop)) (l := s.drop skip)).length_le
    rw [hs, List.length_drop, List.length_cons] at hle
    omega

-- The equation `h` is used by `decreasing_by` only.
set_option linter.unusedVariables false in
/-- The chunks of a set between the hyphens that make ranges. A range takes a character on either
side, so the next hyphen that makes one comes after two more; a hyphen at the end stands for itself. -/
def chunksFrom (skip : Nat) (s : Text) : List Text :=
  match h : cutAfter skip '-' s with
  | none => [s]
  | some (chunk, []) => [chunk ++ ['-']]
  | some (chunk, after) => chunk :: chunksFrom 2 after
termination_by s.length
decreasing_by exact length_lt_of_cutAfter h

/-- The chunks without ranges whose ends are in the wrong order. -/
def dropReversed : List Text → List Text
  | [] => []
  | chunk :: chunks =>
    match dropReversed chunks, chunk.getLast? with
    | (hi :: after) :: more, some lo =>
      if hi < lo then (chunk.dropLast ++ after) :: more else chunk :: (hi :: after) :: more
    | more, _ => chunk :: more

/-- The ranges between chunks. -/
def rangesOf : List Text → List (Char × Char)
  | chunk :: next :: more =>
    (match chunk.getLast?, next.head? with
      | some lo, some hi => [(lo, hi)]
      | _, _ => []) ++ rangesOf (next :: more)
  | _ => []

/-- The set of chunks. The ends of a range are in the set like single characters. -/
def CharSet.ofChunks (negated : Bool) (chunks : List Text) : CharSet :=
  ⟨negated, chunks.flatten, rangesOf chunks⟩

/-- The set that is written between brackets. -/
def CharSet.ofText (s : Text) : CharSet :=
  let skip := if s.head? = some '!' then 2 else 1
  match dropReversed (chunksFrom skip s) with
  -- a hyphen right after the exclamation mark stands for itself
  | ['!'] :: next :: more => .ofChunks true (('-' :: next) :: more)
  | ('!' :: chunk) :: more => .ofChunks true (chunk :: more)
  | chunks => .ofChunks false chunks

/-! ## Wildcards -/

/-- What a bracket holds and what follows it, given what follows its opening; a closing bracket right
at the start is part of the set. -/
def bracket? (s : Text) : Option (Text × Text) :=
  let mark := if s.head? = some '!' then 1 else 0
  let skip := if s[mark]? = some ']' then mark + 1 else mark
  cutAfter skip ']' s

-- The equation `h` is used by `decreasing_by` only.
set_option linter.unusedVariables false in
/-- The parts of a wildcard. -/
def items (s : Text) : List Item :=
  match s with
  | [] => []
  | '*' :: rest => .star :: items rest
  | '?' :: rest => .any :: items rest
  | '[' :: rest =>
    match h : bracket? rest with
    | some (inner, after) => .set (.ofText inner) :: items after
    | none => .char '[' :: items rest
  | c :: rest => .char c :: items rest
termination_by s.length
decreasing_by
  all_goals simp only [List.length_cons]
  case _ => omega
  case _ => omega
  case _ => have := length_lt_of_cutAfter h; omega
  case _ => omega
  case _ => omega

/-- Whether a name is one that the parts stand for. -/
def matchesName (items : List Item) (name : Text) : Bool :=
  match items, name with
  | [], name => name.isEmpty
  | .star :: rest, [] => matchesName rest []
  | .star :: rest, c :: cs => matchesName rest (c :: cs) || matchesName (.star :: rest) cs
  | .any :: rest, _ :: cs => matchesName rest cs
  | .set s :: rest, c :: cs => s.contains c && matchesName rest cs
  | .char x :: rest, c :: cs => x = c && matchesName rest cs
  | _ :: _, [] => false
termination_by items.length + name.length

/-- Whether a text has characters that make it a wildcard. -/
def isWildcard (s : Text) : Bool := s.any fun c => c = '*' || c = '?' || c = '['

end Glob
end BuildBlocks
