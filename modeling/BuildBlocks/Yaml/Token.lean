import BuildBlocks.Failure

/-!
# Tokens of a data file

A data file is read token by token: the marks of documents, collections, entries, keys and values,
and the scalars between them. Blocks have no brackets of their own; where indentation opens or closes
one, a token says so.

That a node is a key shows only at the colon after it. So a `mark` is left wherever a key may begin,
and the marks that turn out to be keys are replaced at the end (`Token.settle`).
-/

namespace BuildBlocks
namespace Yaml

/-- A token of a data file. -/
inductive Token where
  | version (major : Nat)
  | handle (name start : Text)
  /-- A directive that says nothing. -/
  | directive
  | documentStart
  | documentEnd
  | listStart
  | mappingStart
  | blockEnd
  | flowListStart
  | flowListEnd
  | flowMappingStart
  | flowMappingEnd
  | entry
  | flowEntry
  | key
  | value
  | alias (name : Text)
  | anchor (name : Text)
  | tag (handle : Option Text) (suffix : Text)
  | scalar (s : Text) (plain : Bool)
  /-- A place at which a key may begin. -/
  | mark (id : Nat)
  deriving DecidableEq, Repr

/-- Marks that turned out to be keys, and whether they open a mapping. -/
abbrev Keys := List (Nat × Bool)

/-- The tokens without marks: a mark that is a key becomes one. -/
def Token.settle (keys : Keys) (ts : List Token) : List Token :=
  ts.flatMap fun
    | .mark id => match keys.lookup id with
      | some true => [.mappingStart, .key]
      | some false => [.key]
      | none => []
    | t => [t]

/-! ## Characters -/

/-- Whether a character ends a line. -/
def isBreak (c : Char) : Bool :=
  c = '\n' || c = '\r' || c = '\x85' || c = '\u2028' || c = '\u2029'

/-- Whether a place is the end of the text or of a line. -/
def atBreak : Option Char → Bool
  | none => true
  | some c => isBreak c

/-- Whether a place is the end of the text, of a line or of a word. -/
def atBlank : Option Char → Bool
  | none => true
  | some c => isBreak c || c = ' ' || c = '\t'

/-- Whether a data file may hold a character. -/
def isPrintable (c : Char) : Bool :=
  let n := c.toNat
  n == 9 || n == 10 || n == 13 || (0x20 ≤ n && n ≤ 0x7e) || n == 0x85 || (0xa0 ≤ n && n ≤ 0xd7ff) ||
    (0xe000 ≤ n && n ≤ 0xfffd) || 0x10000 ≤ n

/-- A place at which a key may begin. A key that is `required` must turn out to be one. -/
structure PossibleKey where
  id : Nat
  required : Bool
  index : Nat
  line : Nat
  column : Int
  deriving Repr

/-- How far a data file has been read: what is left, where that is, the tokens so far with the last
one first, the columns of open blocks, the depth of brackets, and where keys may begin. -/
structure Reading where
  rest : Text
  index : Nat := 0
  line : Nat := 0
  column : Int := 0
  tokens : List Token := []
  indent : Int := -1
  outer : List Int := []
  depth : Nat := 0
  keyAllowed : Bool := true
  possible : List (Nat × PossibleKey) := []
  marks : Nat := 0
  keys : Keys := []

/-- A step of reading; a data file that is malformed ends it. -/
abbrev Reader := StateT Reading (Except Failure)

namespace Reader

/-- Ends reading because the data file is malformed. -/
def malformed {α : Type} : Reader α := throw .malformedData

/-- The character `n` places on. -/
def peek (n : Nat) : Reader (Option Char) := do return (← get).rest[n]?

/-- The state after one character. -/
def step (s : Reading) : Reading :=
  match s.rest with
  | [] => s
  | c :: rest =>
    if c = '\r' && rest.head? != some '\n' || c ≠ '\r' && isBreak c then
      { s with rest, index := s.index + 1, line := s.line + 1, column := 0 }
    else
      { s with rest, index := s.index + 1, column := if c = '\ufeff' then s.column else s.column + 1 }

/-- Goes `n` characters on. -/
def forward : (n : Nat) → Reader Unit
  | 0 => pure ()
  | n + 1 => do
    modify step
    forward n

/-- Takes the characters that satisfy `p`. -/
def takeWhile (p : Char → Bool) : Reader Text := do
  let taken := (← get).rest.takeWhile p
  forward taken.length
  return taken

/-- Takes the end of a line, if there is one, and gives what it stands for. -/
def lineBreak : Reader Text := do
  match (← get).rest with
  | '\r' :: '\n' :: _ =>
    forward 2
    return ['\n']
  | c :: _ =>
    if c = '\u2028' || c = '\u2029' then
      forward 1
      return [c]
    else if isBreak c then
      forward 1
      return ['\n']
    else return []
  | [] => return []

/-- Whether a line of three equal characters follows that separates documents. -/
def atSeparator : Reader Bool := do
  let rest := (← get).rest
  let three := rest.take 3
  return (three = ['-', '-', '-'] || three = ['.', '.', '.']) && atBlank rest[3]?

/-- Adds a token. -/
def emit (t : Token) : Reader Unit := modify fun s => { s with tokens := t :: s.tokens }

end Reader
end Yaml
end BuildBlocks
