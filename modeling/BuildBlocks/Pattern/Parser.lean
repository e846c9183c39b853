import BuildBlocks.Pattern.Escape
import BuildBlocks.Text.Identifier

/-!
# Reading patterns

`Pattern.read` reads a pattern, or says why a text is none. Alternatives hold sequences, and a group
holds alternatives again. Every step takes a token or goes one level deeper, so the number of steps is
bounded by the length of the pattern, and that bound is what the recursion runs on.

A group that only holds things together leaves its parts to the sequence around it. Alternatives give
up the parts with which all of them begin, and if each is then a single character, they are a set. For
most characters this changes nothing, but a set treats letter case differently from a single character
(`CharTest.passes`).

Looking behind needs a pattern of fixed width, so widths are kept along the way.
-/

namespace BuildBlocks
namespace Pattern

/-- What a part of a pattern is, as far as its neighbours need to know. -/
inductive Shape where
  | anchor
  | rounds
  /-- A part that is equal to any other one written the same way. -/
  | simple
  | other
  deriving DecidableEq, Repr

/-- A part of a sequence. -/
structure Part where
  node : Node
  width : Width
  shape : Shape
  deriving DecidableEq, Repr

namespace Part

/-- A single character. -/
def char (flags : Flags) (t : CharTest) : Part :=
  ⟨.char t flags.ignoreCase flags.ascii, .one, .simple⟩

/-- A place in the text. -/
def anchor (a : Anchor) : Part := ⟨.anchor a, .zero, .anchor⟩

/-- Parts in sequence as one pattern. -/
def sequence : List Part → Node
  | [] => .empty
  | [p] => p.node
  | p :: ps => .seq p.node (sequence ps)

/-- The width of parts in sequence. -/
def widthOf (ps : List Part) : Width := ps.foldl (fun w p => w.add p.width) .zero

/-- Whether two parts are certain to match the same. -/
def same (a b : Part) : Bool := (a.shape = .simple || a.shape = .anchor) && a.node = b.node

/-- The entries that a part adds to a set, if it is a character or a set. -/
def entries? : List Part → Option (List SetItem)
  | [⟨.char (.one false n) _ _, _, _⟩] => some [.one n]
  | [⟨.char (.set false items) _ _, _, _⟩] => some items
  | _ => none

/-- The parts with which all alternatives begin, and what is left of each. -/
def common : (fuel : Nat) → List (List Part) → List Part × List (List Part)
  | 0, options => ([], options)
  | fuel + 1, options =>
    match options.head?.bind List.head? with
    | none => ([], options)
    | some p =>
      if options.all fun o => o.head?.any (same p) then
        let (shared, rest) := common fuel (options.map (·.drop 1))
        (p :: shared, rest)
      else ([], options)

/-- One of several sequences as one pattern. -/
def branch : List (List Part) → Node × Width
  | [] => (.empty, .zero)
  | [ps] => (sequence ps, widthOf ps)
  | ps :: rest =>
    let (node, width) := branch rest
    (.alt (sequence ps) node, (widthOf ps).or width)

/-- The parts of alternatives. -/
def ofOptions (flags : Flags) (options : List (List Part)) : List Part :=
  match options with
  | [ps] => ps
  | _ =>
    let (shared, rest) := common (options.head?.map List.length |>.getD 0) options
    match rest.mapM entries? with
    | some items => shared ++ [char flags (.set false items.flatten.eraseDups)]
    | none =>
      let (node, width) := branch rest
      shared ++ [⟨node, width, .other⟩]

end Part

/-- What a sequence is read as: a part, or a group that only holds parts together. -/
structure Item where
  /-- Where it begins. -/
  start : Nat
  parts : List Part
  /-- Whether it is a group. -/
  grouped : Bool
  deriving DecidableEq, Repr

/-- The shape of an item that is no group. -/
def Item.shape (i : Item) : Shape :=
  match i.grouped, i.parts with
  | false, [p] => p.shape
  | _, _ => .other

/-! ## References to groups -/

/-- Whether a group is closed. -/
def isClosed (index : Nat) : Reader Bool := do return ((← get).closed.lookup index).isSome

/-- Where the pattern looks behind, a group that is referred to must be closed and within reach. -/
def checkReach (index : Nat) : Reader Unit := do
  match (← get).behindFrom with
  | none => pure ()
  | some first =>
    if !(← isClosed index) then Reader.flaw .openGroup
    if first ≤ index then Reader.flaw .groupInSameLook

/-- A reference to what a group has matched, written with `written` characters. -/
def groupAgain (flags : Flags) (index written : Nat) : Reader Part := do
  match (← get).closed.lookup index with
  | none => Reader.flawBefore written .openGroup
  | some w =>
    checkReach index
    return ⟨.again index flags.ignoreCase flags.ascii, w, .simple⟩

/-- A reference to a group by its number, or a code point of three digits in base eight. -/
def numberedEscape (flags : Flags) (c : Char) : Reader Part := do
  let second ← Reader.takeWhile Char.isDigit 1
  let third ←
    if isOctalDigit c && second.any isOctalDigit then Reader.takeWhile isOctalDigit 1 else pure []
  let digits := c :: second ++ third
  if third.isEmpty then
    let index := numberIn 10 digits
    if index < (← get).groups then groupAgain flags index (digits.length + 1)
    else Reader.flawBefore digits.length (.invalidGroup index)
  else return .char flags (.one false (← octalCode digits))

/-- An escape outside sets. -/
def escape (flags : Flags) (c : Char) : Reader Part := do
  match c with
  | 'A' => return .anchor .textStart
  | 'Z' => return .anchor .textEnd
  | 'b' => return .anchor (.wordBoundary flags.ascii)
  | 'B' => return .anchor (.noWordBoundary flags.ascii)
  | _ =>
    match class? c, controlCode? c with
    | some k, _ => return .char flags (.set false [k])
    | _, some n => return .char flags (.one false n)
    | _, _ =>
      match ← codeEscape? c with
      | some n => return .char flags (.one false n)
      | none =>
        if c = '0' then
          let ds ← Reader.takeWhile isOctalDigit 2
          return .char flags (.one false (numberIn 8 (c :: ds)))
        else if c.isDigit then numberedEscape flags c
        else if c.isAlpha then Reader.flawBefore 2 (.badEscape ['\\', c])
        else return .char flags (.one false c.toNat)

/-! ## Flags -/

/-- The letters of flags. -/
def isFlag (c : Char) : Bool := ['i', 'L', 'm', 's', 'x', 'a', 't', 'u'].contains c

/-- Whether a letter says which alphabet the pattern is about. -/
def isAlphabetFlag (c : Char) : Bool := c = 'a' || c = 'L' || c = 'u'

/-- Turns the flag of a letter on or off. -/
def Flags.set (on : Bool) (f : Flags) : Char → Flags
  | 'i' => { f with ignoreCase := on }
  | 'm' => { f with multiLine := on }
  | 's' => { f with dotAll := on }
  | 'x' => { f with verbose := on }
  | 'a' => { f with ascii := on }
  | 'u' => { f with beyondAscii := on }
  | 't' => { f with noRounds := on }
  | _ => f

/-- The flags of a group after letters are turned on and off: the alphabet that is said last
counts. -/
def Flags.within (f : Flags) (on off : List Char) : Flags :=
  let f := if on.any isAlphabetFlag then { f with ascii := false, beyondAscii := false } else f
  off.foldl (Flags.set false) (on.foldl (Flags.set true) f)

/-- Ends reading at something that is no flag, where `missing` should stand. -/
def noFlag {α : Type} (missing : String) : Option Token → Reader α
  | none => Reader.flaw (.missing missing)
  | some t =>
    let isLetter := match t with
      | .plain c => c ≠ '_' && Text.isIdentifierStart c
      | .escaped _ => false
    Reader.flawBefore t.text.length (if isLetter then .unknownFlag else .missing missing)

/-- The letters of flags that are turned on, from `c` on, and the character that ends them. -/
def flagsOn (before : List Char) : (fuel : Nat) → (c : Char) → Reader (List Char × Char)
  | 0, _ => Reader.flaw (.missing "-, : or )")
  | fuel + 1, c => do
    if c = 'L' then Reader.flaw .localeFlag
    if isAlphabetFlag c && before.any fun d => isAlphabetFlag d && d ≠ c then
      Reader.flaw .clashingFlags
    match ← Reader.next with
    | some (.plain d) =>
      if [')', '-', ':'].contains d then return (before ++ [c], d)
      else if isFlag d then flagsOn (before ++ [c]) fuel d
      else noFlag "-, : or )" (some (.plain d))
    | t => noFlag "-, : or )" t

/-- The letters of flags that are turned off, up to the colon; `first` tells that none has been
read. -/
def flagsOff (first : Bool) : (fuel : Nat) → Reader (List Char)
  | 0 => Reader.flaw (.missing ":")
  | fuel + 1 => do
    let missing := if first then "flag" else ":"
    match ← Reader.next with
    | some (.plain d) =>
      if d = ':' && !first then return []
      else if !isFlag d then noFlag missing (some (.plain d))
      else
        if isAlphabetFlag d then Reader.flaw .alphabetOff
        return d :: (← flagsOff false fuel)
    | t => noFlag missing t

/-! ## What a parenthesis begins -/

/-- What an opening parenthesis begins. -/
inductive Opened where
  | capture (name : Option Text)
  | plain
  /-- A group with flags of its own. -/
  | flagged (on off : List Char)
  | atomic
  | look (behind negated : Bool)
  | again (name : Text)
  | ifGroup (condition : Text)
  | comment
  /-- Flags of the whole pattern. -/
  | flags (on : List Char)

/-- Reads flags after a parenthesis and a question mark, beginning with `c`. -/
def openedFlags (c : Char) : Reader Opened := do
  let fuel := (← get).rest.length + 2
  let (on, stop) ← if c = '-' then pure ([], '-') else flagsOn [] fuel c
  if stop = ')' then return .flags on
  if on.contains 't' then Reader.flawBefore 1 .globalFlagOn
  let off ← if stop = '-' then flagsOff true fuel else pure []
  if off.contains 't' then Reader.flawBefore 1 .globalFlagOff
  if off.any (on.contains ·) then Reader.flawBefore 1 .flagOnAndOff
  return .flagged on off

/-- The name of a group, which must be an identifier. -/
def groupName (stop : Char) : Reader Text := do
  let name ← Reader.name stop "group name"
  if Text.isIdentifier name then return name
  else Reader.flawBefore (name.length + 1) (.badGroupName name)

/-- What follows a parenthesis, a question mark and a `P`. -/
def openedNamed : Reader Opened := do
  match ← Reader.next with
  | none => Reader.flaw .unexpectedEnd
  | some (.plain '<') => return .capture (some (← groupName '>'))
  | some (.plain '=') => return .again (← groupName ')')
  | some t => Reader.flawBefore (t.text.length + 2) (.unknownExtension ('P' :: t.text))

/-- What the parenthesis that has just been taken begins. -/
def opened : Reader Opened := do
  if !(← Reader.accept '?') then return .capture none
  match ← Reader.next with
  | none => Reader.flaw .unexpectedEnd
  | some (.plain 'P') => openedNamed
  | some (.plain ':') => return .plain
  | some (.plain '#') => return .comment
  | some (.plain '=') => return .look false false
  | some (.plain '!') => return .look false true
  | some (.plain '<') =>
    match ← Reader.next with
    | none => Reader.flaw .unexpectedEnd
    | some (.plain '=') => return .look true false
    | some (.plain '!') => return .look true true
    | some t => Reader.flawBefore (t.text.length + 2) (.unknownExtension ('<' :: t.text))
  | some (.plain '(') => return .ifGroup (← Reader.name ')' "group name")
  | some (.plain '>') => return .atomic
  | some (.plain c) =>
    if isFlag c || c = '-' then openedFlags c
    else Reader.flawBefore 2 (.unknownExtension [c])
  | some t => Reader.flawBefore (t.text.length + 1) (.unknownExtension t.text)

/-- Skips a comment that begins at `start`, up to its closing parenthesis. -/
def skipComment (start : Nat) : (fuel : Nat) → Reader Unit
  | 0 => Reader.flawAt .unterminatedComment start
  | fuel + 1 => do
    match ← Reader.peek with
    | none => Reader.flawAt .unterminatedComment start
    | some t =>
      Reader.advance
      if t ≠ .plain ')' then skipComment start fuel

/-- Skips the rest of a line. -/
def skipLine : (fuel : Nat) → Reader Unit
  | 0 => pure ()
  | fuel + 1 => do
    match ← Reader.next with
    | none | some (.plain '\n') => pure ()
    | _ => skipLine fuel

/-! ## Repetitions -/

/-- One more than the most rounds that a repetition can be told to have. -/
def roundsBound : Nat := 4294967295

/-- The number of rounds that digits write. -/
def roundsOf (ds : Text) : Reader Nat := do
  if Whole.maxDigits < ds.length then throw (.longNumber ds.length)
  let n := numberIn 10 ds
  if roundsBound ≤ n then throw .manyRounds else return n

/-- The bounds of a repetition in braces, or nothing if the brace stands for itself. -/
def bracedBounds : Reader (Option (Nat × Option Nat)) := do
  let s ← get
  let start ← Reader.position
  let digits : Reader Text := do Reader.takeWhile Char.isDigit ((← get).rest.length + 1)
  if (← Reader.peek) = some (.plain '\x7d') then return none
  let lo ← digits
  let hi ← if ← Reader.accept ',' then digits else pure lo
  if ← Reader.accept '\x7d' then
    let least ← if lo.isEmpty then pure 0 else roundsOf lo
    let most ← if hi.isEmpty then pure none else some <$> roundsOf hi
    if most.any (· < least) then Reader.flawAt .leastOverMost start
    return some (least, most)
  else
    set s
    return none

/-- The bounds of a repetition that begins with `c`, or nothing if `c` stands for itself. -/
def bounds (c : Char) : Reader (Option (Nat × Option Nat)) :=
  match c with
  | '?' => return some (0, some 1)
  | '*' => return some (0, none)
  | '+' => return some (1, none)
  | _ => bracedBounds

/-- How the repetition that has just been read chooses the number of its rounds. -/
def greed : Reader Greed := do
  if ← Reader.accept '?' then return .reluctant
  else if ← Reader.accept '+' then return .possessive
  else return .greedy

/-- What a repetition is called where it is refused. -/
def Greed.title : Greed → String
  | .greedy => "MAX_REPEAT"
  | .reluctant => "MIN_REPEAT"
  | .possessive => "POSSESSIVE_REPEAT"

/-- The last item repeated. Places in the text cannot be repeated, nor can a repetition that begins
at `start`. -/
def repeatLast (start least : Nat) (most : Option Nat) (items : List Item) : Reader (List Item) := do
  match items with
  | [] => Reader.flawAt .nothingToRepeat start
  | last :: before =>
    match last.shape with
    | .anchor => Reader.flawAt .nothingToRepeat start
    | .rounds => Reader.flawAt .multipleRepeat start
    | _ =>
      let g ← greed
      if (← get).flags.noRounds then Reader.noteLater last.start (.refusedRounds g.title)
      let node := Node.rounds least most g (Part.sequence last.parts)
      let width := (Part.widthOf last.parts).rounds least most
      return ⟨last.start, [⟨node, width, .rounds⟩], false⟩ :: before

/-! ## Sequences and alternatives -/

/-- One more than the greatest number that a group can be called by. -/
def groupBound : Nat := 1073741823

/-- The number of a group that a condition asks for. -/
def conditionGroup (condition : Text) : Reader Nat := do
  let s ← get
  let flaw {α : Type} (f : Flaw) : Reader α := Reader.flawBefore (condition.length + 1) f
  if Text.isIdentifier condition then
    match s.names.lookup condition with
    | some n => return n
    | none => flaw (.unknownGroupName condition)
  else match Whole.read 10 condition with
    | .ok (.ofNat n) =>
      if n = 0 then flaw .badGroupNumber
      if groupBound ≤ n then flaw (.invalidGroup n)
      if (s.conditions.lookup n).isNone then
        let place := (← Reader.position) - condition.length - 1
        set { s with conditions := s.conditions ++ [(n, place)] }
      return n
    | _ => flaw (.badGroupName condition)

/-- Opens a group, with or without a name of its own. -/
def openGroup (name : Option Text) : Reader Nat := do
  let s ← get
  match name with
  | none => set { s with groups := s.groups + 1 }
  | some name =>
    match s.names.lookup name with
    | some earlier => Reader.flawBefore (name.length + 1) (.groupRedefined name s.groups earlier)
    | none => set { s with groups := s.groups + 1, names := (name, s.groups) :: s.names }
  return s.groups

/-- Closes a group of a width. -/
def closeGroup (index : Nat) (w : Width) : Reader Unit :=
  modify fun s => { s with closed := (index, w) :: s.closed }

/-- Takes the parenthesis that closes what began at `start`. -/
def closeAt (start : Nat) : Reader Unit := do
  if !(← Reader.accept ')') then Reader.flawAt .unterminatedGroup start

/-- How far a pattern looks behind that begins at `start`. -/
def reachBehind (start : Nat) (w : Width) : Reader Nat := do
  if roundsBound < w.least then Reader.noteLater start .farLook
  else if w.most ≠ some w.least then Reader.noteLater start .looseLook
  return w.least

mutual

/-- Alternatives, up to the end of the pattern or a closing parenthesis. `top` tells that they stand
outside all groups. -/
def alternatives (fuel : Nat) (top : Bool) (flags : Flags) : Reader (List Part) :=
  match fuel with
  | 0 => throw .manyRounds
  | fuel + 1 => do
    let first ← items fuel top flags []
    let whole := (← get).flags
    let flags := if top then whole else flags
    let others ← moreAlternatives fuel flags
    return Part.ofOptions flags (first :: others)

/-- Further alternatives after the first ones. -/
def moreAlternatives (fuel : Nat) (flags : Flags) : Reader (List (List Part)) :=
  match fuel with
  | 0 => throw .manyRounds
  | fuel + 1 => do
    if ← Reader.accept '|' then
      let next ← items fuel false flags []
      return next :: (← moreAlternatives fuel flags)
    else return []

/-- A sequence of items, the items before it given last one first. `first` tells that flags for the
whole pattern may still be given. -/
def items (fuel : Nat) (first : Bool) (flags : Flags) (done : List Item) : Reader (List Part) :=
  match fuel with
  | 0 => throw .manyRounds
  | fuel + 1 => do
    match ← Reader.peek with
    | none => return done.reverse.flatMap (·.parts)
    | some (.escaped c) =>
      let start ← Reader.position
      Reader.advance
      let part ← escape flags c
      items fuel first flags (⟨start, [part], false⟩ :: done)
    | some (.plain c) =>
      if c = '|' || c = ')' then return done.reverse.flatMap (·.parts)
      else
        Reader.advance
        plainItem fuel first flags done c

/-- The item that begins with the plain character `c`, which is taken already, and the items after
it. -/
def plainItem (fuel : Nat) (first : Bool) (flags : Flags) (done : List Item) (c : Char) :
    Reader (List Part) :=
  match fuel with
  | 0 => throw .manyRounds
  | fuel + 1 => do
    let start := (← Reader.position) - 1
    let further (p : Part) := items fuel first flags (⟨start, [p], false⟩ :: done)
    if flags.verbose && [' ', '\t', '\n', '\r', '\x0b', '\x0c'].contains c then
      items fuel first flags done
    else if flags.verbose && c = '#' then
      skipLine ((← get).rest.length + 2)
      items fuel first flags done
    else if c = '.' then further ⟨.any flags.dotAll, .one, .simple⟩
    else if c = '^' then further (.anchor (if flags.multiLine then .lineStart else .textStart))
    else if c = '$' then further (.anchor (if flags.multiLine then .lineEnd else .lastLineEnd))
    else if c = '[' then
      let negated ← Reader.accept '^'
      let set ← setItems start ((← get).rest.length + 2) []
      further (.char flags (.ofSet negated set))
    else if c = '(' then parenthesis fuel first flags done start
    else if ['*', '+', '?', '\x7b'].contains c then
      match ← bounds c with
      | none => further (.char flags (.one false c.toNat))
      | some (least, most) => items fuel first flags (← repeatLast start least most done)
    else further (.char flags (.one false c.toNat))

/-- A group that begins at `start` and the items after it, its opening parenthesis being taken
already. -/
def parenthesis (fuel : Nat) (first : Bool) (flags : Flags) (done : List Item) (start : Nat) :
    Reader (List Part) :=
  match fuel with
  | 0 => throw .manyRounds
  | fuel + 1 => do
    let further (p : Part) := items fuel first flags (⟨start, [p], false⟩ :: done)
    match ← opened with
    | .comment =>
      skipComment start ((← get).rest.length + 2)
      items fuel first flags done
    | .flags on =>
      if !first || !done.isEmpty then Reader.flawAt .flagsNotFirst start
      let f := on.foldl (Flags.set true) (← get).flags
      modify fun s => { s with flags := f }
      items fuel first f done
    | .again name =>
      match (← get).names.lookup name with
      | none => Reader.flawBefore (name.length + 1) (.unknownGroupName name)
      | some index => further (← groupAgain flags index (name.length + 1))
    | .capture name =>
      let index ← openGroup name
      let body ← alternatives fuel false flags
      closeAt start
      let w := Part.widthOf body
      closeGroup index w
      further ⟨.group index (Part.sequence body), w, .other⟩
    | .plain =>
      let body ← alternatives fuel false flags
      closeAt start
      items fuel first flags (⟨start, body, true⟩ :: done)
    | .flagged on off =>
      let body ← alternatives fuel false (flags.within on off)
      closeAt start
      further ⟨Part.sequence body, Part.widthOf body, .other⟩
    | .atomic =>
      let body ← alternatives fuel false flags
      closeAt start
      further ⟨.atomic (Part.sequence body), Part.widthOf body, .other⟩
    | .look behind negated =>
      let outer := (← get).behindFrom
      if behind && outer.isNone then modify fun s => { s with behindFrom := some s.groups }
      let body ← alternatives fuel false flags
      modify fun s => { s with behindFrom := outer }
      closeAt start
      let back ← if behind then some <$> reachBehind start (Part.widthOf body) else pure none
      further ⟨.look back negated (Part.sequence body), .zero, .other⟩
    | .ifGroup condition =>
      let index ← conditionGroup condition
      checkReach index
      let yes ← items fuel false flags []
      let no ←
        if ← Reader.accept '|' then
          let no ← items fuel false flags []
          if (← Reader.peek) = some (.plain '|') then Reader.flaw .manyBranches
          pure no
        else pure []
      closeAt start
      further ⟨.ifGroup index (Part.sequence yes) (Part.sequence no),
        (Part.widthOf yes).or (Part.widthOf no), .other⟩

end

/-- Of the problems that count only when the pattern is complete, the one that begins first. Of two
that begin together, the one noted last is about the part that holds the other. -/
def firstLater (later : List (Nat × Problem)) : Option Problem :=
  (later.foldr (fun p best =>
    match best with
    | none => some p
    | some b => if p.1 ≤ b.1 then some p else best) none).map (·.2)

/-- The alternatives of a whole pattern. What counts only when it is complete is looked at last. -/
def whole (fuel : Nat) : Reader Node := do
  Reader.advance
  let body ← alternatives fuel true {}
  let s ← get
  if s.flags.ascii && s.flags.beyondAscii then throw .clashingAlphabets
  if s.ahead.isSome then Reader.flaw .unbalanced
  match s.conditions.find? fun (n, _) => s.groups ≤ n with
  | some (n, place) => Reader.flawAt (.invalidGroup n) place
  | none => pure ()
  match firstLater s.later with
  | some p => throw p
  | none => return Part.sequence body

/-- The pattern that a text is read as. -/
def read (source : Text) : Except Problem Pattern := do
  let (node, s) ← (whole (4 * source.length + 8)).run { rest := source }
  return ⟨source, node, s.groups - 1, s.flags.ascii⟩

end Pattern

/-- The pattern that a text is read as, or nothing if it is none. -/
def Pattern.ofText? (source : Text) : Option Pattern := (Pattern.read source).toOption

end BuildBlocks
