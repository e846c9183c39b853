import BuildBlocks.Yaml.Lexer
import BuildBlocks.Yaml.Tag

/-!
# Nodes of a data file

A data file holds one node: a scalar, a list or a mapping. A node may be named by an anchor and stand
again wherever an alias names it, also inside itself. So the nodes of a file form a graph: they are
numbered, and a list or a mapping gives the numbers of what it holds.

Each step of reading takes a token or goes one level deeper without taking one at most twice, so the
number of steps is bounded by the number of tokens.
-/

namespace BuildBlocks
namespace Yaml

/-- What a node holds; other nodes are given by their numbers. -/
inductive Content where
  | scalar (s : Text)
  | list (items : List Nat)
  | mapping (entries : List (Nat × Nat))
  deriving DecidableEq, Repr

/-- A node with its tag. -/
structure Node where
  tag : Tag
  content : Content
  deriving DecidableEq, Repr

/-- The nodes of a data file by number. -/
abbrev Graph := Array Node

/-- What is left to read and why there is no more, the nodes so far, the numbers of those that have
anchors, and what the handles of tags stand for. -/
structure Parsing where
  tokens : List Token
  broken : Option Failure
  nodes : Graph := #[]
  anchors : List (Text × Nat) := []
  handles : List (Text × Text)

/-- A step of reading nodes; tokens that do not fit end it. -/
abbrev Parser := StateT Parsing (Except Failure)

namespace Parser

/-- Ends reading because the tokens do not fit. -/
def malformed {α : Type} : Parser α := throw .malformedData

/-- The next token, without taking it. -/
def peek : Parser (Option Token) := do
  let s ← get
  match s.tokens, s.broken with
  | t :: _, _ => return some t
  | [], some e => throw e
  | [], none => return none

/-- Takes the next token. -/
def skip : Parser Unit := modify fun s => { s with tokens := s.tokens.drop 1 }

/-- Takes the next token if it is `t`. -/
def accept (t : Token) : Parser Bool := do
  if (← peek) = some t then
    skip
    return true
  else return false

/-- Takes the next token, which must be `t`. -/
def expect (t : Token) : Parser Unit := do if ← accept t then pure () else malformed

/-- Whether the next token is one of these. -/
def startsWith (ts : List Token) : Parser Bool := do
  match ← peek with
  | some t => return ts.contains t
  | none => return false

/-- An anchor, if one follows. -/
def anchor? : Parser (Option Text) := do
  match ← peek with
  | some (.anchor name) =>
    skip
    return some name
  | _ => return none

/-- A tag as it is written, if one follows. -/
def tag? : Parser (Option (Option Text × Text)) := do
  match ← peek with
  | some (.tag handle suffix) =>
    skip
    return some (handle, suffix)
  | _ => return none

/-- A tag in full. -/
def fullTag : Option Text × Text → Parser Text
  | (none, suffix) => return suffix
  | (some h, suffix) => do
    match (← get).handles.lookup h with
    | some start => return start ++ suffix
    | none => malformed

/-- The anchor and the tag of a node, in either order. -/
def properties : Parser (Option Text × Option Text) := do
  let (a, t) ← match ← anchor? with
    | some a => pure (some a, ← tag?)
    | none => do
      let t ← tag?
      let a ← if t.isSome then anchor? else pure none
      pure (a, t)
  match t with
  | some t => return (a, some (← fullTag t))
  | none => return (a, none)

/-- Adds a node, under the name of its anchor if it has one; the name must be new. -/
def add (name : Option Text) (n : Node) : Parser Nat := do
  let s ← get
  let number := s.nodes.size
  let anchors ← match name with
    | none => pure s.anchors
    | some a => if (s.anchors.lookup a).isSome then malformed else pure ((a, number) :: s.anchors)
  set { s with nodes := s.nodes.push n, anchors }
  return number

/-- Adds the scalar that stands where nothing is written. -/
def addEmpty : Parser Nat := add none ⟨.null, .scalar []⟩

/-- Adds a list, which holds what is read next. -/
def addList (name tag : Option Text) (read : Parser (List Nat)) : Parser Nat := do
  let number ← add name ⟨.ofCollection tag .list, .list []⟩
  let items ← read
  modify fun s => { s with nodes := s.nodes.modify number fun n => { n with content := .list items } }
  return number

/-- Adds a mapping, which holds what is read next. -/
def addMapping (name tag : Option Text) (read : Parser (List (Nat × Nat))) : Parser Nat := do
  let number ← add name ⟨.ofCollection tag .mapping, .mapping []⟩
  let entries ← read
  modify fun s =>
    { s with nodes := s.nodes.modify number fun n => { n with content := .mapping entries } }
  return number

mutual

/-- A node. Lists without a block of their own stand only where `bare` allows them, and blocks only
where `block` does. -/
def node (block bare : Bool) (fuel : Nat) : Parser Nat :=
  match fuel with
  | 0 => malformed
  | fuel + 1 => do
    match ← peek with
    | some (.alias name) =>
      skip
      match (← get).anchors.lookup name with
      | some n => return n
      | none => malformed
    | _ =>
      let (name, tag) ← properties
      content block bare name tag fuel

/-- What follows the properties of a node. -/
def content (block bare : Bool) (name tag : Option Text) (fuel : Nat) : Parser Nat :=
  match fuel with
  | 0 => malformed
  | fuel + 1 => do
    match ← peek with
    | some (.scalar s plain) =>
      skip
      add name ⟨.ofScalar tag plain s, .scalar s⟩
    | some .flowListStart =>
      skip
      addList name tag (flowList true fuel)
    | some .flowMappingStart =>
      skip
      addMapping name tag (flowMapping true fuel)
    | t =>
      if bare && t = some .entry then addList name tag (bareList fuel)
      else if block && t = some .listStart then
        skip
        addList name tag (blockList fuel)
      else if block && t = some .mappingStart then
        skip
        addMapping name tag (blockMapping fuel)
      else if tag.isSome || name.isSome then add name ⟨.ofScalar tag true [], .scalar []⟩
      else malformed

/-- The entries of a list in a block of its own. -/
def blockList (fuel : Nat) : Parser (List Nat) :=
  match fuel with
  | 0 => malformed
  | fuel + 1 => do
    if ← accept .entry then
      let first ← if ← startsWith [.entry, .blockEnd] then addEmpty else node true false fuel
      return first :: (← blockList fuel)
    else
      expect .blockEnd
      return []

/-- The entries of a list without a block of its own. -/
def bareList (fuel : Nat) : Parser (List Nat) :=
  match fuel with
  | 0 => malformed
  | fuel + 1 => do
    if ← accept .entry then
      let first ←
        if ← startsWith [.entry, .key, .value, .blockEnd] then addEmpty else node true false fuel
      return first :: (← bareList fuel)
    else return []

/-- The entries of a mapping in a block. -/
def blockMapping (fuel : Nat) : Parser (List (Nat × Nat)) :=
  match fuel with
  | 0 => malformed
  | fuel + 1 => do
    let part : Parser Nat := do
      if ← startsWith [.key, .value, .blockEnd] then addEmpty else node true true fuel
    if ← accept .key then
      let k ← part
      let v ← if ← accept .value then part else addEmpty
      return (k, v) :: (← blockMapping fuel)
    else
      expect .blockEnd
      return []

/-- The entries of a list in brackets. An entry with a colon is a mapping of its own. -/
def flowList (first : Bool) (fuel : Nat) : Parser (List Nat) :=
  match fuel with
  | 0 => malformed
  | fuel + 1 => do
    if ← accept .flowListEnd then return []
    if !first then expect .flowEntry
    if ← accept .key then
      let k ←
        if ← startsWith [.value, .flowEntry, .flowListEnd] then addEmpty else node false false fuel
      let v ←
        if ← accept .value then
          if ← startsWith [.flowEntry, .flowListEnd] then addEmpty else node false false fuel
        else addEmpty
      let pair ← addMapping none none (return [(k, v)])
      return pair :: (← flowList false fuel)
    else if ← accept .flowListEnd then return []
    else
      let n ← node false false fuel
      return n :: (← flowList false fuel)

/-- The entries of a mapping in braces. -/
def flowMapping (first : Bool) (fuel : Nat) : Parser (List (Nat × Nat)) :=
  match fuel with
  | 0 => malformed
  | fuel + 1 => do
    if ← accept .flowMappingEnd then return []
    if !first then expect .flowEntry
    if ← accept .key then
      let k ←
        if ← startsWith [.value, .flowEntry, .flowMappingEnd] then addEmpty else node false false fuel
      let v ←
        if ← accept .value then
          if ← startsWith [.flowEntry, .flowMappingEnd] then addEmpty else node false false fuel
        else addEmpty
      return (k, v) :: (← flowMapping false fuel)
    else if ← accept .flowMappingEnd then return []
    else
      let k ← node false false fuel
      let v ← addEmpty
      return (k, v) :: (← flowMapping false fuel)

end

/-- What the handles of tags stand for unless a file says otherwise. -/
def defaultHandles : List (Text × Text) :=
  [(['!'], ['!']), (['!', '!'], "tag:yaml.org,2002:".toList)]

/-- Reads directives: the version may be given once and must be 1, a handle may be given once. -/
def directives (versioned : Bool) (own : List (Text × Text)) : (fuel : Nat) → Parser Unit
  | 0 => malformed
  | fuel + 1 => do
    match ← peek with
    | some .directive =>
      skip
      directives versioned own fuel
    | some (.version major) =>
      if versioned || major ≠ 1 then malformed
      skip
      directives true own fuel
    | some (.handle name start) =>
      if (own.lookup name).isSome then malformed
      skip
      directives versioned ((name, start) :: own) fuel
    | _ => modify fun s => { s with handles := own ++ s.handles }

/-- Skips marks that end a document. -/
def skipEnds : (fuel : Nat) → Parser Unit
  | 0 => pure ()
  | fuel + 1 => do if ← accept .documentEnd then skipEnds fuel

/-- Whether a token says something about a document before it starts. -/
def isDirective : Token → Bool
  | .directive | .version _ | .handle _ _ => true
  | _ => false

/-- The number of the node of a file, whose document must be the only one; a file without tokens has
none. -/
def document (fuel : Nat) : Parser (Option Nat) := do
  match ← peek with
  | none => return none
  | some t =>
    let n ←
      if isDirective t || t = .documentStart then do
        directives false [] fuel
        expect .documentStart
        match ← peek with
        | none | some .documentStart | some .documentEnd => addEmpty
        | some t => if isDirective t then addEmpty else node true false fuel
      else node true false fuel
    skipEnds fuel
    if (← peek).isNone then return some n else malformed

end Parser

/-- The nodes of a data file and the number of the one that holds the others; no number if the file
holds no document. -/
def Graph.ofText (text : Text) : Except Failure (Graph × Option Nat) := do
  let (tokens, broken) := Token.ofText text
  let (n, s) ← (Parser.document (4 * tokens.length + 8)).run
    { tokens, broken, handles := Parser.defaultHandles }
  return (s.nodes, n)

end Yaml
end BuildBlocks
