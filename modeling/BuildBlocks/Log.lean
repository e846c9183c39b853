/-!
# The log

A run reports what it does as notes of three levels: results (1), details of files (2) and a trace
of single blocks (3). A run itself only collects notes; who listens decides by a verbosity which of
them are shown, and without a listener none is.
-/

namespace BuildBlocks

/-- A message of a run and the least verbosity that shows it. -/
structure Note where
  level : Int
  text : String
  deriving DecidableEq, Repr

/-- The messages of a log that a verbosity shows, in order. -/
def Note.shown (verbosity : Int) (notes : List Note) : List String :=
  (notes.filter fun n => n.level ≤ verbosity).map (·.text)

end BuildBlocks
