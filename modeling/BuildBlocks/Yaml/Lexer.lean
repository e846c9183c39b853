import BuildBlocks.Yaml.Scalar

/-!
# Reading tokens

`Token.ofText` gives the tokens of a data file. Before each token comments and line ends are skipped
and blocks are closed whose column is passed. A key must stand on one line with its colon and not
further than `maxKeyLength` characters before it.

A file that is malformed has tokens up to that place. Of these the ones count that are certain by
then, since nodes are made as soon as their tokens are.
-/

namespace BuildBlocks
namespace Yaml
namespace Reader

/-- How far a colon may stand behind the start of its key. -/
def maxKeyLength : Nat := 1024

/-! ## Blocks and keys -/

/-- Closes the blocks that are indented further than a column. -/
def unwind (column : Int) : (fuel : Nat) → Reader Unit
  | 0 => pure ()
  | fuel + 1 => do
    let s ← get
    if s.depth = 0 ∧ column < s.indent then
      match s.outer with
      | [] => pure ()
      | i :: outer =>
        set { s with indent := i, outer }
        emit .blockEnd
        unwind column fuel

/-- Closes the blocks that are indented further than a column. -/
def unwindTo (column : Int) : Reader Unit := do unwind column ((← get).outer.length + 1)

/-- Opens a block at a column, unless one is open there. -/
def openBlock (column : Int) : Reader Bool := do
  let s ← get
  if s.indent < column then
    set { s with indent := column, outer := s.indent :: s.outer }
    return true
  else return false

/-- Forgets the place at which a key may begin on the current level. -/
def dropKey : Reader Unit := do
  let s ← get
  match s.possible.lookup s.depth with
  | none => pure ()
  | some k =>
    if k.required then malformed
    set { s with possible := s.possible.filter (·.1 ≠ s.depth) }

/-- Whether a place at which a key may begin is too far back. -/
def isStale (s : Reading) (k : PossibleKey) : Bool :=
  k.line ≠ s.line || maxKeyLength < s.index - k.index

/-- Forgets the places at which a key may begin that are too far back. -/
def dropStaleKeys : Reader Unit := do
  let s ← get
  if s.possible.any fun (_, k) => isStale s k && k.required then malformed
  set { s with possible := s.possible.filter fun (_, k) => !isStale s k }

/-- Notes that a key may begin here, if one is allowed. -/
def saveKey : Reader Unit := do
  if (← get).keyAllowed then
    dropKey
    let s ← get
    let key : PossibleKey :=
      ⟨s.marks, s.depth = 0 && s.indent = s.column, s.index, s.line, s.column⟩
    set { s with possible := (s.depth, key) :: s.possible, marks := s.marks + 1 }
    emit (.mark s.marks)

/-- Says whether a key may begin after this. -/
def allowKey (b : Bool) : Reader Unit := modify fun s => { s with keyAllowed := b }

/-! ## Single tokens -/

/-- Skips spaces, comments and line ends before a token. -/
def skipToToken : (fuel : Nat) → Reader Unit
  | 0 => pure ()
  | fuel + 1 => do
    let _ ← takeWhile (· = ' ')
    if (← peek 0) = some '#' then
      let _ ← takeWhile (!isBreak ·)
    let b ← lineBreak
    if !b.isEmpty then
      if (← get).depth = 0 then allowKey true
      skipToToken fuel

/-- Takes a token of `n` characters that begins a block or a document. -/
def takeMark (n : Nat) (t : Token) : Reader Unit := do
  forward n
  emit t

/-- A mark that separates documents. -/
def documentMark (t : Token) : Reader Unit := do
  unwindTo (-1)
  dropKey
  allowKey false
  takeMark 3 t

/-- The opening bracket of a collection. -/
def flowStart (t : Token) : Reader Unit := do
  saveKey
  modify fun s => { s with depth := s.depth + 1 }
  allowKey true
  takeMark 1 t

/-- The closing bracket of a collection. -/
def flowEnd (t : Token) : Reader Unit := do
  dropKey
  modify fun s => { s with depth := s.depth - 1 }
  allowKey false
  takeMark 1 t

/-- The comma between the entries of a collection. -/
def flowComma : Reader Unit := do
  allowKey true
  dropKey
  takeMark 1 .flowEntry

/-- The dash of an entry of a list. -/
def dash : Reader Unit := do
  let s ← get
  if s.depth = 0 then
    if !s.keyAllowed then malformed
    if ← openBlock s.column then emit .listStart
  allowKey true
  dropKey
  takeMark 1 .entry

/-- The question mark of a key. -/
def questionMark : Reader Unit := do
  let s ← get
  if s.depth = 0 then
    if !s.keyAllowed then malformed
    if ← openBlock s.column then emit .mappingStart
  allowKey (s.depth = 0)
  dropKey
  takeMark 1 .key

/-- The colon of a value. If a key may have begun on this line, it has. -/
def colon : Reader Unit := do
  let s ← get
  match s.possible.lookup s.depth with
  | some k =>
    set { s with possible := s.possible.filter (·.1 ≠ s.depth) }
    let opens ← if s.depth = 0 then openBlock k.column else pure false
    modify fun s => { s with keys := (k.id, opens) :: s.keys }
    allowKey false
  | none =>
    if s.depth = 0 then
      if !s.keyAllowed then malformed
      if ← openBlock s.column then emit .mappingStart
    allowKey (s.depth = 0)
    dropKey
  takeMark 1 .value

/-- Whether a character may stand in the name of an anchor or a handle. -/
def isNameChar (c : Char) : Bool := c.isAlphanum || c = '-' || c = '_'

/-- The name of an anchor or an alias, whose sign is taken already. -/
def anchorName : Reader Text := do
  let name ← takeWhile isNameChar
  let next ← peek 0
  if name.isEmpty then malformed
  if atBlank next || next.any ['?', ':', ',', ']', '\x7d', '%', '@', '\x60'].contains then return name
  else malformed

/-- Whether a character may stand in the name of a tag. -/
def isTagChar (c : Char) : Bool :=
  c.isAlphanum || "-;/?:@&=+$,_.!~*'()[]".toList.contains c

/-- The bytes of escapes in the name of a tag. -/
def tagEscapes : (fuel : Nat) → Reader (List UInt8)
  | 0 => return []
  | fuel + 1 => do
    match (← get).rest with
    | '%' :: a :: b :: _ =>
      match Json.hexDigit? a, Json.hexDigit? b with
      | some x, some y =>
        forward 3
        return UInt8.ofNat (x * 16 + y) :: (← tagEscapes fuel)
      | _, _ => malformed
    | '%' :: _ => malformed
    | _ => return []

/-- The name of a tag, of which at most `fuel` stretches are read. -/
def tagNameFrom : (fuel : Nat) → Reader Text
  | 0 => return []
  | fuel + 1 => do
    let part ← takeWhile isTagChar
    let bytes ← tagEscapes (← get).rest.length
    if bytes.isEmpty then return part
    else match Utf8.decode bytes with
      | .ok decoded => return part ++ decoded ++ (← tagNameFrom fuel)
      | .error _ => malformed

/-- The name of a tag. There must be one. -/
def tagName : Reader Text := do
  let name ← tagNameFrom ((← get).rest.length + 1)
  if name.isEmpty then malformed else return name

/-- A handle between exclamation marks, or a single one. -/
def tagHandle : Reader Text := do
  let rest := (← get).rest
  match rest with
  | '!' :: more =>
    let name := more.takeWhile isNameChar
    if more.head? = some ' ' then
      forward 1
      return ['!']
    else if more[name.length]? = some '!' then
      forward (name.length + 2)
      return '!' :: name ++ ['!']
    else malformed
  | _ => malformed

/-- Whether an exclamation mark follows before the end of the word. -/
def hasHandle (rest : Text) : Bool :=
  (rest.takeWhile fun c => c ≠ ' ' && !isBreak c).contains '!'

/-- A tag. -/
def tag : Reader Token := do
  let next ← peek 1
  let t ←
    if next = some '<' then do
      forward 2
      let name ← tagName
      if (← peek 0) ≠ some '>' then malformed
      forward 1
      pure (Token.tag none name)
    else if atBlank next then do
      forward 1
      pure (Token.tag none ['!'])
    else do
      let handle ←
        if hasHandle ((← get).rest.drop 1) then tagHandle
        else do
          forward 1
          pure ['!']
      pure (Token.tag (some handle) (← tagName))
  match ← peek 0 with
  | some '\t' => malformed
  | c => if atBlank c then return t else malformed

/-! ## Directives -/

/-- Skips a comment to the end of the line, which nothing else may precede. -/
def endDirective : Reader Unit := do
  let _ ← takeWhile (· = ' ')
  if (← peek 0) = some '#' then
    let _ ← takeWhile (!isBreak ·)
  if atBreak (← peek 0) then
    let _ ← lineBreak
  else malformed

/-- The digits of a version number. -/
def versionDigits : Reader Nat := do
  let ds ← takeWhile Char.isDigit
  if ds.isEmpty then malformed
  else if Whole.maxDigits < ds.length then throw (.longNumber ds.length)
  else return Json.natOf ds

/-- A directive, whose sign is taken already. -/
def directive : Reader Unit := do
  let name ← takeWhile isNameChar
  if name.isEmpty then malformed
  match ← peek 0 with
  | some '\t' => malformed
  | c => if !atBlank c then malformed
  if name = "YAML".toList then
    let _ ← takeWhile (· = ' ')
    let major ← versionDigits
    if (← peek 0) ≠ some '.' then malformed
    forward 1
    let _ ← versionDigits
    if !atBlank (← peek 0) then malformed
    emit (.version major)
  else if name = "TAG".toList then
    let _ ← takeWhile (· = ' ')
    let handle ← tagHandle
    if (← peek 0) ≠ some ' ' then malformed
    let _ ← takeWhile (· = ' ')
    let start ← tagName
    if !atBlank (← peek 0) then malformed
    emit (.handle handle start)
  else
    let _ ← takeWhile (!isBreak ·)
    emit .directive
  endDirective

/-! ## The next token -/

/-- Whether a plain scalar may begin with the first of two characters. -/
def startsPlain (depth : Nat) (c : Char) (next : Option Char) : Bool :=
  !(atBlank (some c) || "-?:,[]\x7b\x7d#&*!|>'\"%@\x60".toList.contains c) ||
    (!atBlank next && (c = '-' || (depth = 0 && (c = '?' || c = ':'))))

/-- A node that is one token: a key may begin with it. -/
def leaf (read : Reader Token) : Reader Unit := do
  saveKey
  allowKey false
  emit (← read)

/-- A scalar in quotes. -/
def quotedToken (double : Bool) : Reader Token := do
  let fuel := (← get).rest.length + 1
  forward 1
  return .scalar (← quoted double fuel) false

/-- A plain scalar. -/
def plainToken : Reader Token := do
  let s ← get
  return .scalar (← plain (s.indent + 1) [] (s.rest.length + 1)) true

/-- A block of lines. -/
def blockToken (fold : Bool) : Reader Unit := do
  allowKey true
  dropKey
  forward 1
  emit (.scalar (← block fold) false)

/-- Reads the token that begins with a character. -/
def token (c : Char) : Reader Unit := do
  let s ← get
  let next := s.rest[1]?
  let inBlock := s.depth = 0
  let wordEnds := atBlank next
  let separator ← atSeparator
  if s.column = 0 && c = '%' then
    unwindTo (-1)
    dropKey
    allowKey false
    forward 1
    directive
  else if s.column = 0 && separator && c = '-' then documentMark .documentStart
  else if s.column = 0 && separator && c = '.' then documentMark .documentEnd
  else if c = '[' then flowStart .flowListStart
  else if c = '\x7b' then flowStart .flowMappingStart
  else if c = ']' then flowEnd .flowListEnd
  else if c = '\x7d' then flowEnd .flowMappingEnd
  else if c = ',' then flowComma
  else if c = '-' && wordEnds then dash
  else if c = '?' && (!inBlock || wordEnds) then questionMark
  else if c = ':' && (!inBlock || wordEnds) then colon
  else if c = '*' then leaf (do
    forward 1
    return .alias (← anchorName))
  else if c = '&' then leaf (do
    forward 1
    return .anchor (← anchorName))
  else if c = '!' then leaf tag
  else if c = '|' && inBlock then blockToken false
  else if c = '>' && inBlock then blockToken true
  else if c = '\'' then leaf (quotedToken false)
  else if c = '"' then leaf (quotedToken true)
  else if startsPlain s.depth c next then leaf plainToken
  else malformed

/-- Reads the next token, and tells whether there is none. -/
def nextToken : Reader Bool := do
  skipToToken ((← get).rest.length + 1)
  dropStaleKeys
  unwindTo (← get).column
  match ← peek 0 with
  | none =>
    unwindTo (-1)
    dropKey
    return true
  | some c =>
    token c
    return false

/-- The tokens that are certain: those before the first place that may still turn out to be a key. -/
def certain (s : Reading) : List Token :=
  let waiting := s.possible.filterMap fun (_, k) => if isStale s k then none else some k.id
  match waiting.min? with
  | none => s.tokens
  | some id => (s.tokens.dropWhile (· ≠ .mark id)).drop 1

/-- Reads all tokens, of which there are at most `fuel`: the tokens with the last one first, the marks
that are keys, and why there are no more if the file does not end there. -/
def tokens : (fuel : Nat) → Reading → List Token × Keys × Option Failure
  | 0, s => (s.tokens, s.keys, some .malformedData)
  | fuel + 1, s =>
    match nextToken.run s with
    | .error e => (certain s, s.keys, some e)
    | .ok (true, s) => (s.tokens, s.keys, none)
    | .ok (false, s) => tokens fuel s

end Reader

/-- The tokens of a data file, and why there are no more if it is not read to its end. -/
def Token.ofText (text : Text) : List Token × Option Failure :=
  if text.all isPrintable then
    let text := match text with
      | '\ufeff' :: rest => rest
      | text => text
    let (tokens, keys, broken) := Reader.tokens (text.length + 2) { rest := text }
    (Token.settle keys tokens.reverse, broken)
  else ([], some .malformedData)

end Yaml
end BuildBlocks
