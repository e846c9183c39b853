import BuildBlocks.Outcome

/-!
# Block types

A block type has a name, a handler that says what an active block of that type becomes, and a flag
for target-gated types: their parameter lists the environments a block is meant for, and a block that
is not meant for the current one loses its body.

A registry holds the block types of a run in the order in which their names were first registered; a
name that is registered again keeps its place. Names in square brackets that nobody registered are
served by the type `[attr]`.
-/

namespace BuildBlocks

/-- A part of what a block of a custom type becomes. -/
inductive Part where
  | literal (s : Text)
  | kind
  | targets
  | params
  | environment
  /-- The body as it is written. -/
  | body
  /-- The body in upper case. -/
  | upperBody
  /-- The body after its own blocks have been worked through. -/
  | expandedBody
  | startLine
  | endLine
  | bodyOffset
  | bodyLineCount
  | includeDepth
  | includeStackLength
  deriving DecidableEq, Repr

/-- What an active block becomes. -/
inductive Handler where
  /-- The body, with the blocks in it worked through. -/
  | keepBody
  /-- The body as it is, in a conditional comment. -/
  | conditionalComment
  /-- The file that the parameter names. -/
  | includeFile
  /-- One reference to the script that the parameter names. -/
  | script
  /-- One reference to the style sheet that the parameter names. -/
  | styleSheet
  /-- The body, with the attribute that the block type names set to the parameter. -/
  | setAttribute
  /-- The parts one after another. -/
  | parts (ps : List Part)
  /-- The failure to find the parameter as a key. -/
  | missingKey
  deriving DecidableEq, Repr

/-- A block type. -/
structure BlockType where
  name : Text
  description : Text
  handler : Handler
  gated : Bool := false
  examples : List Text := []
  deriving DecidableEq, Repr

namespace BlockType

/-- The name that serves all attributes. -/
def attributeName : Text := "[attr]".toList

/-- Whether a name stands in square brackets. -/
def isBracketed (name : Text) : Bool := Text.startsWith name ['['] && Text.endsWith name [']']

/-- Whether a block type serves a name. -/
def servesName (b : BlockType) (name : Text) : Bool :=
  b.name = name || (b.name = attributeName && isBracketed name)

/-! ## The block types that are always there -/

def remove : BlockType where
  name := "remove".toList
  description := "Section kept only for the listed environments".toList
  handler := .keepBody
  gated := true
  examples := [
    "<!-- build:remove(dev) --><script src=\"debug.js\"></script><!-- /build -->".toList,
    "<!-- build:remove(dev|test) -->...<!-- /build -->".toList]

def conditional : BlockType where
  name := "ie".toList
  description := "Conditional IE comment wrapper".toList
  handler := .conditionalComment
  examples := [
    "<!-- build:ie(lt IE 9) --><script src=\"html5shiv.js\"></script><!-- /build -->".toList]

def includeFile : BlockType where
  name := "include".toList
  description := "Inline a partial, script or stylesheet file".toList
  handler := .includeFile
  examples := [
    "<!-- build:include(partials/header.html) --><!-- /build -->".toList,
    "<!-- build:include scripts/analytics.js --><!-- /build -->".toList]

def script : BlockType where
  name := "js".toList
  description := "Replace a group of scripts with one script reference".toList
  handler := .script
  examples := ["<!-- build:js app.min.js --><script src=\"a.js\"></script><!-- /build -->".toList]

def styleSheet : BlockType where
  name := "css".toList
  description := "Replace a group of stylesheets with one stylesheet reference".toList
  handler := .styleSheet
  examples := [
    "<!-- build:css style.min.css --><link rel=\"stylesheet\" href=\"a.css\"><!-- /build -->".toList]

def attributeValue : BlockType where
  name := attributeName
  description := "Rewrite an attribute value (value ending in / replaces the directory)".toList
  handler := .setAttribute
  examples := [
    "<!-- build:[src] img/ --><img src=\"assets/logo.png\"><!-- /build -->".toList,
    "<!-- build:[href]:dist /home --><a href=\"#\">Home</a><!-- /build -->".toList]

/-- The block types that every registry starts with, in order. -/
def builtins : List BlockType := [remove, conditional, includeFile, script, styleSheet, attributeValue]

/-- Whether a name belongs to a block type that every registry starts with. -/
def isBuiltin (name : Text) : Bool := builtins.any (·.name = name)

end BlockType

/-- The block types of a run. -/
structure Registry where
  types : List BlockType
  deriving DecidableEq, Repr

namespace Registry

/-- The registry that holds what is always there. -/
def initial : Registry := ⟨BlockType.builtins⟩

/-- The names of the registry, in order. -/
def names (r : Registry) : List Text := r.types.map (·.name)

/-- The types with `b` under its name: in the place of the type that had the name, or at the end. -/
def insert (b : BlockType) : List BlockType → List BlockType
  | [] => [b]
  | t :: ts => if t.name = b.name then b :: ts else t :: insert b ts

/-- Registers a block type. Taking the name of a type that is always there is noted. -/
def register (r : Registry) (b : BlockType) : Outcome Registry := do
  if r.names.contains b.name && BlockType.isBuiltin b.name then
    Outcome.note 2 s!"Block type '{b.name}' overrides the built-in handler"
  pure ⟨insert b r.types⟩

/-- The block type that serves a name: the one of that name, or else the one for all attributes. -/
def find? (r : Registry) (name : Text) : Option BlockType :=
  (r.types.find? (·.name = name)).orElse fun _ => r.types.find? (·.servesName name)

/-- The block type that serves a name; it is a fault if there is none. -/
def resolve (r : Registry) (name : Text) : Except Failure BlockType :=
  match r.find? name with
  | some b => .ok b
  | none => .error (.fault (.unknownBlock name {}))

/-- Whether blocks of a type read their parameter as a target list. -/
def isGated (r : Registry) (name : Text) : Bool := (r.find? name).any (·.gated)

/-! ## Requests to register -/

/-- What a caller gives for a handler: a handler, or something that is none. -/
inductive HandlerGiven where
  | handler (h : Handler)
  | other
  deriving DecidableEq, Repr

/-- A request to register a block type. -/
structure Request where
  name : Text
  description : Text := []
  handler : HandlerGiven
  gated : Bool := false
  examples : List Text := []
  deriving DecidableEq, Repr

/-- Grants a request, unless its handler is none. -/
def accept (r : Registry) (q : Request) : Outcome Registry :=
  match q.handler with
  | .handler h => r.register ⟨q.name, q.description, h, q.gated, q.examples⟩
  | .other => Outcome.fail (.notHandler q.name)

/-- Grants a request; a missing description is filled in. -/
def acceptCustom (r : Registry) (q : Request) : Outcome Registry :=
  let description :=
    if q.description.isEmpty then s!"Custom block type '{q.name}'".toList else q.description
  r.accept { q with description }

end Registry
end BuildBlocks
