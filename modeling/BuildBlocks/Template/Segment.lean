import BuildBlocks.Pattern.Match
import BuildBlocks.Pattern.Parser

/-!
# Segments of a template

A template is cut into placeholders and the text between them before anything is filled in. Delimiters
say where placeholders are: at every place the delimiter whose match starts first wins, and of two
that start together the one listed first. What has been matched is not looked at again.

A placeholder may be empty. The character after an empty placeholder is text, so that cutting always
moves on.
-/

namespace BuildBlocks

/-- A way to find placeholders: given what precedes a place, nearest character first, and what
follows it, the first match that follows. -/
structure Delimiter where
  search : (before after : Text) → Option Pattern.Hit
  /-- Whether values are escaped for markup. -/
  escapes : Bool

/-- The delimiters of a page. -/
structure Delimiters where
  interpolate : Pattern
  escape : Option Pattern := none
  deriving DecidableEq, Repr

namespace Delimiters

/-- The delimiters in order: those that escape come first. -/
def toList (ds : Delimiters) : List Delimiter :=
  ds.escape.toList.map (⟨·.search, true⟩) ++ [⟨ds.interpolate.search, false⟩]

end Delimiters

/-- A placeholder: the text it stands for, the expression in it, the line of the template on which it
starts, and whether its value is escaped. -/
structure Placeholder where
  text : Text
  expression : Text
  line : Nat
  escapes : Bool
  deriving DecidableEq, Repr

/-- A stretch of text or a placeholder. -/
inductive Segment where
  | text (s : Text)
  | placeholder (p : Placeholder)
  deriving DecidableEq, Repr

namespace Segment

/-- The placeholder of a segment. -/
def placeholder? : Segment → Option Placeholder
  | .text _ => none
  | .placeholder p => some p

/-- A match and whether its value is escaped. -/
abbrev Choice := Pattern.Hit × Bool

/-- Of two matches the one that starts first, and the earlier one if they start together. -/
def earlier (chosen : Option Choice) (next : Option Choice) : Option Choice :=
  match chosen, next with
  | none, next => next
  | some c, none => some c
  | some c, some n => if n.1.skipped < c.1.skipped then some n else some c

/-- The match that is chosen after a place. -/
def choose (ds : List Delimiter) (before after : Text) : Option Choice :=
  ds.foldl (fun chosen d => earlier chosen ((d.search before after).map (·, d.escapes))) none

/-- The placeholder of a match. Its expression is what the first group has matched, or all of it. -/
def toPlaceholder (choice : Choice) (line : Nat) (text : Text) : Placeholder where
  text := text
  expression := (choice.1.captures.lookup 1).getD text
  line := line
  escapes := choice.2

-- The conditions `h` and `hs` are used by `decreasing_by` only.
set_option linter.unusedVariables false in
/-- The segments of `after`, which starts on line `line`, where `before` is what precedes it, nearest
character first. -/
def cutFrom (ds : List Delimiter) (line : Nat) (before after : Text) : List Segment :=
  match choose ds before after with
  | none => [.text after]
  | some choice =>
    let skipped := after.take choice.1.skipped
    let start := after.drop choice.1.skipped
    let matched := start.take choice.1.length
    let line := line + Text.newlines skipped
    let before := skipped.reverse ++ before
    let found := .placeholder (toPlaceholder choice line matched)
    if h : matched = [] then
      match hs : start with
      | [] => [.text skipped, found]
      | c :: rest =>
        .text skipped :: found :: .text [c] ::
          cutFrom ds (line + Text.newlines [c]) (c :: before) rest
    else
      .text skipped :: found ::
        cutFrom ds (line + Text.newlines matched) (matched.reverse ++ before)
          (start.drop choice.1.length)
termination_by after.length
decreasing_by
  · have : (after.drop choice.1.skipped).length = rest.length + 1 := by
      rw [show after.drop choice.1.skipped = c :: rest from hs, List.length_cons]
    rw [List.length_drop] at this
    omega
  · have hne := List.length_pos_iff.2 h
    simp only [matched, start, List.length_take, List.length_drop] at hne ⊢
    omega

/-- The segments of a template. -/
def cut (ds : List Delimiter) (template : Text) : List Segment := cutFrom ds 1 [] template

end Segment
end BuildBlocks
