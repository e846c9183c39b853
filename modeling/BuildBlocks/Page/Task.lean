import BuildBlocks.Block.Activation
import BuildBlocks.Block.Attribute
import BuildBlocks.Page.Context

/-!
# Tasks

What becomes of a block is decided before the pages inside it are worked through. The decision is a
task: a text that is ready, the body of the block to be worked through and put into a frame, or an
included page to be worked through in its own context. A task to enter an included page carries the
proof that the limit for nested includes is not reached.
-/

namespace BuildBlocks

/-- What is to be done for a block in a context. -/
inductive Task (settings : Settings) (ctx : Context) where
  /-- Nothing more: the text is ready. -/
  | done (s : Text)
  /-- The body is worked through, and `frame` makes the text from it. -/
  | body (frame : Text → Text)
  /-- The content of an included page is worked through in the context of its file. -/
  | page (path : Path) (content : Text) (h : (ctx.depth : Int) < settings.maxIncludeDepth)

namespace Task

/-- Where a block stands. -/
def site (ctx : Context) (d : Directive) : Site :=
  ⟨ctx.fileText, some d.startLine, some d.openMarker⟩

/-! ## Includes -/

/-- The resolved path of an include. -/
def includePath (disk : Disk) (ctx : Context) (requested : Text) : Except Failure Path :=
  let path := Path.ofText requested
  if path.isAbsolute then disk.resolve path
  else disk.resolve ((ctx.options.includeBase.getD ctx.base).join path)

/-- The fault of an include of a file that is not there. -/
def notFound (ctx : Context) (d : Directive) : Failure :=
  .fault (.includeNotFound (some d.params) (site ctx d))

/-- The resolved path of the file that an include block names. -/
def includedFile (disk : Disk) (ctx : Context) (d : Directive) : Except Failure Path := do
  if d.params.isEmpty then .error (notFound ctx d)
  else
    let path ← includePath disk ctx d.params
    if ← disk.isFile path then .ok path else .error (notFound ctx d)

/-- An included file that is no page, as its suffix asks for it. -/
def wrapped (suffix content : Text) : Text :=
  if suffix = ".js".toList then "<script>".toList ++ content ++ "</script>".toList
  else if suffix = ".css".toList then "<style>".toList ++ content ++ "</style>".toList
  else content

/-- Enters an included page, unless it is being worked through already or lies too deep. -/
def enterPage (settings : Settings) (ctx : Context) (d : Directive) (path : Path) (content : Text) :
    Except Failure (Task settings ctx) :=
  let name := path.toText
  if ctx.includeStack.contains name then
    let chain := ctx.includeStack.dropWhile (· ≠ name) ++ [name]
    .error (.fault (.circularInclude chain (site ctx d)))
  else if h : (ctx.depth : Int) < settings.maxIncludeDepth then .ok (.page path content h)
  else .error (.fault (.includeDepth settings.maxIncludeDepth name (site ctx d)))

/-- What an include block asks for. -/
def ofInclude (w : Workspace) (ctx : Context) (d : Directive) : Outcome (Task w.settings ctx) := do
  let path ← Outcome.ofExcept (includedFile w.disk ctx d)
  let content ← Outcome.ofExcept (w.disk.readText w.settings.encoding path)
  Outcome.note 2 s!"Included {path} ({content.length} characters)"
  let suffix := Text.lower path.suffix
  if !w.settings.isHtml suffix then pure (.done (wrapped suffix content))
  else if !ctx.options.recursive then pure (.done content)
  else Outcome.ofExcept (enterPage w.settings ctx d path content)

/-! ## Handlers -/

/-- A part of what a block of a custom type becomes, where `expanded` is its body after it was worked
through. -/
def partText (ctx : Context) (d : Directive) (expanded : Text) : Part → Text
  | .literal s => s
  | .kind => d.kind
  | .targets => Text.join [','] d.targets
  | .params => d.params
  | .environment => ctx.options.environment.getD "None".toList
  | .body => d.body
  | .upperBody => Text.upper d.body
  | .expandedBody => expanded
  | .startLine => (toString d.startLine).toList
  | .endLine => (toString d.endLine).toList
  | .bodyOffset => (toString d.bodyOffset).toList
  | .bodyLineCount => (toString d.bodyLines.length).toList
  | .includeDepth => (toString ctx.depth).toList
  | .includeStackLength => (toString ctx.includeStack.length).toList

/-- What a block that names no target file asks for: its body, and a note. -/
def untargeted {settings : Settings} {ctx : Context} (what : String) (d : Directive) :
    Outcome (Task settings ctx) := do
  Outcome.note 1 s!"{what} block at line {d.startLine} has no target file"
  pure (.body id)

/-- What an active block asks for. -/
def ofHandler (w : Workspace) (ctx : Context) (d : Directive) : Handler → Outcome (Task w.settings ctx)
  | .keepBody => pure (.body id)
  | .conditionalComment =>
    let condition := if d.params.isEmpty then "IE".toList else d.params
    pure (.done ("<!--[if ".toList ++ condition ++ "]>".toList ++ d.body ++ "<![endif]-->".toList))
  | .includeFile => ofInclude w ctx d
  | .script =>
    if d.params.isEmpty then untargeted "js" d
    else pure (.done ("<script src=\"".toList ++ d.params ++ "\"></script>".toList))
  | .styleSheet =>
    if d.params.isEmpty then untargeted "css" d
    else pure (.done ("<link rel=\"stylesheet\" href=\"".toList ++ d.params ++ "\">".toList))
  | .setAttribute => pure (.body (Attribute.setAll (Attribute.nameOf d.kind) d.params))
  | .parts ps =>
    let text expanded := ps.flatMap (partText ctx d expanded)
    if ps.contains .expandedBody then pure (.body text) else pure (.done (text []))
  | .missingKey => Outcome.fail (.missingKey d.params)

/-- A block with `body` for its body, between its markers unless they are dropped. -/
def framed (ctx : Context) (d : Directive) (body : Text) : Text :=
  if ctx.options.strip then body else d.openMarker ++ body ++ d.closeMarker

/-- What an inactive block asks for: a gated one loses its body. -/
def ofInactive (settings : Settings) (ctx : Context) (d : Directive) (b : BlockType) :
    Task settings ctx :=
  if b.gated then .done (framed ctx d []) else .body (framed ctx d)

/-- What a block asks for. -/
def ofBlock (w : Workspace) (ctx : Context) (d : Directive) (active : Bool) :
    Outcome (Task w.settings ctx) := do
  let b ← Outcome.ofExcept (ctx.registry.resolve d.kind)
  if active then
    Outcome.note 3 s!"Resolving '{d.kind}' at line {d.startLine}"
    ofHandler w ctx d b.handler
  else pure (ofInactive w.settings ctx d b)

end Task
end BuildBlocks
