import BuildBlocks.Block.Registry
import BuildBlocks.Disk.Access
import BuildBlocks.Options.Basic

/-!
# Contexts

A page is worked through in a context: the options and block types of the call, the file the page
belongs to, the folder in which its relative includes start, and the files that are being included on
the way to it. Entering an included file gives a context of its own, so the includes of one page do
not see those of its neighbours.
-/

namespace BuildBlocks

/-- The settings of a run and the files that it sees. -/
structure Workspace where
  settings : Settings
  disk : Disk

/-- What a page is worked through in. -/
structure Context where
  options : Options
  registry : Registry
  /-- The resolved files that are being worked through, the outermost first. -/
  includeStack : List Text := []
  /-- Where relative paths of includes start. -/
  base : Path
  /-- The file that the page belongs to. -/
  file : Option Path := none
  /-- The number of includes on the way to the page. -/
  depth : Nat := 0
  deriving Repr

namespace Context

/-- The context of a page that belongs to no file. -/
def ofText (disk : Disk) (options : Options) (registry : Registry) : Context where
  options := options
  registry := registry
  base := Path.absolute disk.here

/-- The context of a page that a call starts with. -/
def top (disk : Disk) (options : Options) (registry : Registry) (file : Option Path) :
    Except Failure Context := do
  match file with
  | none => .ok (ofText disk options registry)
  | some path =>
    let resolved ← disk.resolve path
    .ok {
      options := options
      registry := registry
      includeStack := [resolved.toText]
      base := resolved.parent
      file := some path }

/-- The context of an included file. -/
def enter (ctx : Context) (path : Path) : Context :=
  { ctx with
    includeStack := ctx.includeStack ++ [path.toText]
    base := path.parent
    file := some path
    depth := ctx.depth + 1 }

/-- The file of the context as it is written. -/
def fileText (ctx : Context) : Option Text := ctx.file.map Path.toText

/-- How many includes may still be nested. -/
def room (settings : Settings) (ctx : Context) : Nat :=
  (settings.maxIncludeDepth - ctx.depth).toNat

/-- Entering a file within the limit takes one level away. -/
theorem room_enter_lt {settings : Settings} {ctx : Context} (path : Path)
    (h : (ctx.depth : Int) < settings.maxIncludeDepth) :
    (ctx.enter path).room settings < ctx.room settings := by
  simp only [room, enter]
  omega

end Context
end BuildBlocks
