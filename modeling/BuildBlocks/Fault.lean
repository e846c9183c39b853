import BuildBlocks.Text.Basic

/-!
# Faults of a page

Everything that can be wrong with a page itself: a block that is never closed, an unknown block type,
an include that is missing, circular or too deep, a source of block types that cannot be loaded, a
placeholder that leads nowhere. A fault carries a one-line summary and the place it was found, and
`Fault.message` is the report that a person reads.
-/

namespace BuildBlocks

/-- Where a fault was found: the file, the line in it, and the marker or placeholder that stands
there. Each may be unknown. -/
structure Site where
  file : Option Text := none
  line : Option Int := none
  marker : Option Text := none
  deriving DecidableEq, Repr

namespace Fault

/-- The kinds of faults, with what is known beyond the summary. -/
inductive Kind where
  /-- Any fault that is none of the others. -/
  | general
  | unterminated
  | unknownBlock
  | includeNotFound (requested : Option Text)
  | circularInclude (chain : List Text)
  | includeDepth
  | loading (source : Text)
  | unresolved (outputLine : Option Int)
  deriving DecidableEq, Repr

end Fault

/-- A fault of a page. -/
structure Fault where
  kind : Fault.Kind
  summary : String
  site : Site
  deriving DecidableEq, Repr

namespace Site

/-- The file of a site, unless it is unknown or empty. -/
def namedFile (site : Site) : Option Text := site.file.filter (!·.isEmpty)

/-- The line of a report that says where a fault was found, if file or line is known. -/
def location (site : Site) : List String :=
  let file := site.namedFile.toList.map fun f => s!"File: {f}"
  let line := site.line.toList.map fun n => s!"line {n}"
  match file ++ line with
  | [] => []
  | parts => ["  " ++ ", ".intercalate parts]

/-- The line of a report that shows the marker, unless it is unknown or empty. -/
def markerLine (site : Site) : List String :=
  (site.marker.filter (!·.isEmpty)).toList.map fun m => s!"  Directive: {Text.trim m}"

end Site

namespace Fault

/-- The line of a report that gives the line of the assembled page, for faults found there. -/
def outputLines : Kind → List String
  | .unresolved (some n) => [s!"  Output line: {n} (after build blocks are resolved)"]
  | _ => []

/-- The report of a fault. -/
def message (f : Fault) : String :=
  "\n".intercalate ([f.summary] ++ f.site.location ++ f.site.markerLine ++ outputLines f.kind)

/-! ## The faults -/

/-- A block that is never closed. -/
def unterminated (block : Text) (site : Site) : Fault :=
  ⟨.unterminated, s!"Block '{block}' is never closed", site⟩

/-- A block whose type nobody registered. -/
def unknownBlock (block : Text) (site : Site) : Fault :=
  ⟨.unknownBlock, s!"Unknown block type '{block}'", site⟩

/-- An include of a file that is not there. -/
def includeNotFound (requested : Option Text) (site : Site) : Fault :=
  let name := requested.getD "None".toList
  let page := site.namedFile.getD "<string>".toList
  ⟨.includeNotFound requested, s!"Include file '{name}' not found (included from {page})", site⟩

/-- A file that includes itself along a chain of includes. -/
def circularInclude (chain : List Text) (site : Site) : Fault :=
  let shown := Text.join " -> ".toList chain
  ⟨.circularInclude chain, s!"Circular include detected: {shown}", site⟩

/-- An include nested deeper than the limit. -/
def includeDepth (limit : Int) (path : Text) (site : Site) : Fault :=
  ⟨.includeDepth, s!"Include depth limit ({limit}) exceeded at {path}", site⟩

/-- A source of block types that cannot be loaded, and why. -/
def loading (reason : String) (source : Text) (site : Site) : Fault :=
  ⟨.loading source, s!"{reason}: {source}", site⟩

/-- A placeholder that leads nowhere, at a line of the assembled page. -/
def unresolved (expression : Text) (outputLine : Int) (site : Site) : Fault :=
  ⟨.unresolved (some outputLine), s!"Unresolved template expression '{expression}'", site⟩

end Fault
end BuildBlocks
