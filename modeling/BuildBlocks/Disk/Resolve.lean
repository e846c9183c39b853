import BuildBlocks.Disk.Walk

/-!
# Resolving paths

The resolved form of a path is absolute and free of links and points. Names that lead nowhere stay
as they are, so that a path can be resolved before anything stands there. A link is expanded once
and its result remembered; meeting a link again while it is being expanded means that links lead in
a circle, and then the rest of the path is left unexpanded.

The expansion ends because every link of the disk is expanded at most once: the number of links not
yet met goes down, and between two links the list of names to go.
-/

namespace BuildBlocks
namespace Disk

/-- What is still to be done: a name to go to, or a link whose expansion is now complete. -/
inductive Step where
  | name (s : Text)
  | expanded (link : Place)
  deriving DecidableEq, Repr

/-- The links of the disk that have not been met. -/
def unmet (disk : Disk) (met : List Place) : List Place :=
  (disk.entries.map (·.1)).filter fun p => p ∉ met

/-- The names among what is still to be done. -/
def Step.names (steps : List Step) : List Text :=
  steps.filterMap fun
    | .name s => some s
    | .expanded _ => none

/-- Names taken one by one without regard to links: two points lead to the place above. -/
def climb (place : Place) : List Text → Place
  | [] => place
  | name :: rest => climb (if name = ['.', '.'] then place.dropLast else place ++ [name]) rest

/-- Meeting a link takes it out of the links not yet met. -/
theorem length_unmet_lt {disk : Disk} {met : List Place} {link : Place} {target : Text}
    (hl : disk.lookup? link = some (.link target)) (hm : link ∉ met) :
    (disk.unmet (link :: met)).length < (disk.unmet met).length := by
  -- the link is one of the places of the disk, and it has not been met
  have hmem : link ∈ disk.unmet met := by
    unfold lookup? at hl
    split at hl
    · cases hl
    · obtain ⟨l₁, l₂, hk, _⟩ := List.lookup_eq_some_iff.1 hl
      simp [unmet, hk, hm]
  -- what is left are the others
  have heq : disk.unmet (link :: met) = (disk.unmet met).filter fun p => p ≠ link := by
    simp [unmet, List.filter_filter]
  rw [heq]
  exact List.length_filter_lt_length_iff_exists.2 ⟨link, hmem, by simp⟩

-- The equations `hl` and `hm` are used by `decreasing_by` only.
set_option linter.unusedVariables false in
/-- Expands links from `place` along `steps`. `done` holds the expansions of links, and `met` the
links that have been met; a link that has been met but not expanded is being expanded. -/
def expand (disk : Disk) (done : List (Place × Place)) (met : List Place) (place : Place)
    (steps : List Step) : Place :=
  match steps with
  | [] => place
  | .expanded link :: rest => expand disk ((link, place) :: done) met place rest
  | .name s :: rest =>
    if s = ['.', '.'] then expand disk done met place.dropLast rest
    else
      let next := place ++ [s]
      match hl : disk.lookup? next with
      | some (.link target) =>
        match done.lookup next with
        | some known => expand disk done met known rest
        | none =>
          if hm : next ∈ met then climb next (Step.names rest)
          else
            let start := if Path.rootOf target = [] then place else []
            expand disk done (next :: met) start
              ((Path.partsOf target).map .name ++ .expanded next :: rest)
      | _ => expand disk done met next rest
termination_by ((disk.unmet met).length, steps.length)
decreasing_by
  all_goals try exact Prod.Lex.right _ (Nat.lt_succ_self _)
  exact Prod.Lex.left _ _ (length_unmet_lt hl hm)

/-- The place that a path resolves to. -/
def resolvePlace (disk : Disk) (p : Path) : Place :=
  disk.expand [] [] (disk.start p) (p.parts.map .name)

end Disk
end BuildBlocks
