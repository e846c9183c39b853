import BuildBlocks.Yaml.Token
import BuildBlocks.Value.Json

/-!
# Scalars of a data file

Scalars are written plainly, in single or double quotes, or as a block of lines. Lines of the first
three are folded: a single line end becomes a space, and of several the first is dropped. A block
keeps its line ends, or folds them where neither line is indented further.
-/

namespace BuildBlocks
namespace Yaml
namespace Reader

/-- The line ends and spaces between two lines of a quoted scalar: the line ends after the first. -/
def quotedBreaks : (fuel : Nat) → Reader Text
  | 0 => malformed
  | fuel + 1 => do
    if ← atSeparator then malformed
    let _ ← takeWhile fun c => c = ' ' || c = '\t'
    let b ← lineBreak
    if b.isEmpty then return []
    else return b ++ (← quotedBreaks fuel)

/-- What a line end and the line ends after it fold to. -/
def folded (first others : Text) : Text :=
  if first ≠ ['\n'] then first ++ others
  else if others.isEmpty then [' '] else others

/-- The character of an escape given by its letter alone. -/
def escape? : Char → Option Char
  | '0' => some '\x00'
  | 'a' => some '\x07'
  | 'b' => some '\x08'
  | 't' | '\t' => some '\t'
  | 'n' => some '\n'
  | 'v' => some '\x0b'
  | 'f' => some '\x0c'
  | 'r' => some '\r'
  | 'e' => some '\x1b'
  | ' ' => some ' '
  | '"' => some '"'
  | '\\' => some '\\'
  | '/' => some '/'
  | 'N' => some '\x85'
  | '_' => some '\u00a0'
  | 'L' => some '\u2028'
  | 'P' => some '\u2029'
  | _ => none

/-- The character of an escape given by its code in base sixteen, of `n` digits. -/
def codeEscape (n : Nat) : Reader Text := do
  let digits := (← get).rest.take n
  let values := digits.filterMap Json.hexDigit?
  let code := values.foldl (fun a d => a * 16 + d) 0
  if values.length ≠ n then malformed
  else if 0x10ffff < code then throw (.noSuchCode (0x7fffffff < code))
  else
    forward n
    return [Text.charOfCode code]

/-- What a backslash in double quotes stands for; the backslash is taken already. -/
def escaped (fuel : Nat) : Reader Text := do
  match ← peek 0 with
  | none => malformed
  | some c =>
    match escape? c with
    | some e =>
      forward 1
      return [e]
    | none =>
      if c = 'x' then
        forward 1
        codeEscape 2
      else if c = 'u' then
        forward 1
        codeEscape 4
      else if c = 'U' then
        forward 1
        codeEscape 8
      else if isBreak c then
        let _ ← lineBreak
        quotedBreaks fuel
      else malformed

/-- The spaces or line ends at a place in a quoted scalar, and what they fold to. -/
def quotedSpaces (fuel : Nat) : Reader Text := do
  let spaces ← takeWhile fun c => c = ' ' || c = '\t'
  match ← peek 0 with
  | none => malformed
  | some c =>
    if isBreak c then
      let first ← lineBreak
      let others ← quotedBreaks fuel
      return folded first others
    else return spaces

/-- The rest of a scalar in quotes, whose opening quote is taken already. -/
def quoted (double : Bool) : (fuel : Nat) → Reader Text
  | 0 => malformed
  | fuel + 1 => do
    let quote := if double then '"' else '\''
    match ← peek 0, ← peek 1 with
    | none, _ => malformed
    | some c, next =>
      if !double && c = '\'' && next = some '\'' then
        forward 2
        return '\'' :: (← quoted double fuel)
      else if c = quote then
        forward 1
        return []
      else if double && c = '\\' then
        forward 1
        let first ← escaped fuel
        return first ++ (← quoted double fuel)
      else if atBlank (some c) then
        let first ← quotedSpaces fuel
        return first ++ (← quoted double fuel)
      else
        forward 1
        return c :: (← quoted double fuel)

/-! ## Plain scalars -/

/-- Whether a plain scalar stops before the first of two characters. -/
def stopsPlain (depth : Nat) (c : Char) (next : Option Char) : Bool :=
  let inFlow := decide (0 < depth)
  atBlank (some c) ||
    (c = ':' && (atBlank next || (inFlow && next.any [',', '[', ']', '\x7b', '\x7d'].contains))) ||
    (inFlow && [',', '?', '[', ']', '\x7b', '\x7d'].contains c)

/-- The part of a plain scalar up to a blank or its end. -/
def plainPart (depth : Nat) : Text → Text
  | [] => []
  | c :: cs => if stopsPlain depth c cs.head? then [] else c :: plainPart depth cs

/-- The line ends and spaces between two lines of a plain scalar: the line ends after the first, or
nothing if documents are separated there. -/
def plainBreaks : (fuel : Nat) → Reader (Option Text)
  | 0 => malformed
  | fuel + 1 => do
    if (← peek 0) = some ' ' then
      forward 1
      plainBreaks fuel
    else
      let b ← lineBreak
      if b.isEmpty then return some []
      else if ← atSeparator then return none
      else return (← plainBreaks fuel).map (b ++ ·)

/-- The spaces or line ends after a part of a plain scalar, and what they fold to. -/
def plainSpaces (fuel : Nat) : Reader Text := do
  let spaces ← takeWhile (· = ' ')
  let first ← lineBreak
  if first.isEmpty then return spaces
  else
    modify fun s => { s with keyAllowed := true }
    if ← atSeparator then return []
    match ← plainBreaks fuel with
    | none => return []
    | some others => return folded first others

/-- A plain scalar after the spaces before it, which count only if something follows them. -/
def plain (indent : Int) (before : Text) : (fuel : Nat) → Reader Text
  | 0 => malformed
  | fuel + 1 => do
    if (← peek 0) = some '#' then return []
    let s ← get
    let part := plainPart s.depth s.rest
    if part.isEmpty then return []
    modify fun s => { s with keyAllowed := false }
    forward part.length
    let spaces ← plainSpaces fuel
    let s ← get
    if spaces.isEmpty || s.rest.head? = some '#' || (s.depth = 0 && s.column < indent) then
      return before ++ part
    else return before ++ part ++ (← plain indent spaces fuel)

/-! ## Blocks of lines -/

/-- How the line ends at the end of a block are kept. -/
inductive Chomp where
  | strip
  | clip
  | keep
  deriving DecidableEq, Repr

/-- The sign of a block that says how its end is kept. -/
def chomp? : Reader (Option Chomp) := do
  match ← peek 0 with
  | some '+' =>
    forward 1
    return some .keep
  | some '-' =>
    forward 1
    return some .strip
  | _ => return none

/-- The digit of a block that says how far it is indented. -/
def increment? : Reader (Option Nat) := do
  match ← peek 0 with
  | some c =>
    if c = '0' then malformed
    else if c.isDigit then
      forward 1
      return some (c.toNat - 48)
    else return none
  | none => return none

/-- The indicators after the mark of a block. -/
def blockIndicators : Reader (Chomp × Option Nat) := do
  match ← chomp? with
  | some k => return (k, ← increment?)
  | none =>
    let n ← increment?
    let k ← if n.isSome then chomp? else pure none
    return (k.getD .clip, n)

/-- The rest of the line after the indicators of a block: a comment at most. -/
def blockHead : Reader Unit := do
  match ← peek 0 with
  | some '\t' => malformed
  | c => if atBlank c then pure () else malformed
  let _ ← takeWhile (· = ' ')
  if (← peek 0) = some '#' then
    let _ ← takeWhile (!isBreak ·)
  if atBreak (← peek 0) then
    let _ ← lineBreak
  else malformed

/-- The line ends before the first line of a block, and the furthest column reached. -/
def blockIndentation (furthest : Int) : (fuel : Nat) → Reader (Text × Int)
  | 0 => malformed
  | fuel + 1 => do
    if (← peek 0) = some ' ' then
      forward 1
      blockIndentation (max furthest (← get).column) fuel
    else
      let b ← lineBreak
      if b.isEmpty then return ([], furthest)
      else
        let (others, furthest) ← blockIndentation furthest fuel
        return (b ++ others, furthest)

/-- Skips spaces up to a column. -/
def skipTo (indent : Int) : (fuel : Nat) → Reader Unit
  | 0 => pure ()
  | fuel + 1 => do
    if (← get).column < indent ∧ (← peek 0) = some ' ' then
      forward 1
      skipTo indent fuel

/-- The line ends before the next line of a block. -/
def blockBreaks (indent : Int) : (fuel : Nat) → Reader Text
  | 0 => malformed
  | fuel + 1 => do
    skipTo indent (← get).rest.length
    let b ← lineBreak
    if b.isEmpty then return []
    else return b ++ (← blockBreaks indent fuel)

/-- Whether a line of a block follows. -/
def atBlockLine (indent : Int) : Reader Bool := do
  let s ← get
  return s.column = indent && !s.rest.isEmpty

/-- The lines of a block from the current one on: the text, the end of the last line and the line
ends after it. -/
def blockLines (fold : Bool) (indent : Int) : (fuel : Nat) → Reader (Text × Text × Text)
  | 0 => malformed
  | fuel + 1 => do
    let flush := (← get).rest.head?.all fun c => c ≠ ' ' && c ≠ '\t'
    let line ← takeWhile (!isBreak ·)
    let ending ← lineBreak
    let breaks ← blockBreaks indent fuel
    if ← atBlockLine indent then
      let nextFlush := (← get).rest.head?.all fun c => c ≠ ' ' && c ≠ '\t'
      let joint :=
        if fold && ending = ['\n'] && flush && nextFlush then
          (if breaks.isEmpty then [' '] else [])
        else ending
      let (rest, ending, after) ← blockLines fold indent fuel
      return (line ++ joint ++ breaks ++ rest, ending, after)
    else return (line, ending, breaks)

/-- A scalar written as a block of lines, whose mark is taken already. -/
def block (fold : Bool) : Reader Text := do
  let (chomp, increment) ← blockIndicators
  blockHead
  let s ← get
  let fuel := s.rest.length + 1
  let least := max 1 (s.indent + 1)
  let (breaks, indent) ← match increment with
    | none => do
      let (breaks, furthest) ← blockIndentation 0 fuel
      pure (breaks, max least furthest)
    | some n => do
      let indent := least + n - 1
      pure (← blockBreaks indent fuel, indent)
  let (text, ending, after) ←
    if ← atBlockLine indent then do
      let (text, ending, after) ← blockLines fold indent fuel
      pure (breaks ++ text, ending, after)
    else pure ([], [], breaks)
  return text ++ (if chomp = .strip then [] else ending) ++ (if chomp = .keep then after else [])

end Reader
end Yaml
end BuildBlocks
