import BuildBlocks.Options.Invalid
import BuildBlocks.Text.Codec

/-!
# Reports on invalid options

A report names every option that cannot be used, says what is wrong with it and shows what was given.
What was given is shortened to its beginning and its end if it is long.
-/

namespace BuildBlocks
namespace InvalidOption

/-- The most bytes of a given value that a report shows in full. -/
def shownBytes : Nat := 50

/-- The longest start of a text with at most `n` bytes. -/
def takeBytes (n : Nat) : Text → Text
  | [] => []
  | c :: cs => if c.utf8Size ≤ n then c :: takeBytes (n - c.utf8Size) cs else []

/-- A text, without its middle if it is long. -/
def shorten (s : Text) : Text :=
  let half := (shownBytes + 1) / 2
  if (Utf8.encode s).length ≤ shownBytes then s
  else takeBytes half s ++ "...".toList ++ (takeBytes (half - 1) s.reverse).reverse

/-- A step on the way to an option as it is written. A key that holds a point is marked off, since
points stand between steps. -/
def stepText : OptionStep → String
  | .key s => if s.contains '.' then s!"`{s}`" else String.ofList s
  | .item n => toString n

/-- The two lines of a report for one option. -/
def lines (o : InvalidOption) : List String :=
  let shown := shorten o.input.describe
  [".".intercalate (o.location.map stepText),
    s!"  {o.problem.wording} [type={o.problem.code}, input_value={shown}, " ++
      s!"input_type={o.input.kindOf.name}]"]

/-- The report on invalid options. -/
def report (problems : List InvalidOption) : String :=
  let count := problems.length
  let errors := if count = 1 then "error" else "errors"
  "\n".intercalate
    (s!"{count} validation {errors} for ProcessorOptions" :: problems.flatMap lines)

end InvalidOption
end BuildBlocks
