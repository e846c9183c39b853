import BuildBlocks.Text.Basic

/-!
# Target lists

A block can be meant for some environments only. Its targets are written as names with commas or
bars between them; blanks around names and empty names do not count.
-/

namespace BuildBlocks
namespace Target

/-- The characters between targets. -/
def isSeparator (c : Char) : Bool := c = ',' || c = '|'

/-- The targets that are written. -/
def parse (s : Text) : List Text :=
  ((Text.splitBy isSeparator s).map Text.trim).filter (!·.isEmpty)

/-- Whether two lists name the same targets, in any order and any number of times. -/
def sameSet (a b : List Text) : Bool := a.all b.contains && b.all a.contains

end Target
end BuildBlocks
