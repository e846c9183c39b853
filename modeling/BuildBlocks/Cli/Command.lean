import BuildBlocks.Cli.Arguments
import BuildBlocks.Text.Digit
import BuildBlocks.Text.Quoted

/-!
# Commands

A command line is read in two passes. First every word is told apart on its own: an option, by its
name, by a beginning that only one name has, or by single letters run together; or an argument. After
two hyphens all words are arguments. Then the words are taken in order; the first two arguments that
belong to no option are the folders.

`Command.ofWords` gives the command or what is wrong with the line. The first thing wrong is reported;
asking for help or for the version ends the reading.
-/

namespace BuildBlocks
namespace Cli

/-- What is wrong with a command line. -/
inductive UsageError where
  | ambiguous (word : Text) (candidates : List Text)
  | valueIgnored (option : Switch) (value : Text)
  | valueMissing (option : Switch)
  | foldersMissing (names : List String)
  | unrecognized (words : List Text)
  deriving DecidableEq, Repr

namespace UsageError

/-- The wording of an error. -/
def message : UsageError → String
  | .ambiguous word candidates =>
    let shown := Text.join ", ".toList candidates
    s!"ambiguous option: {word} could match {shown}"
  | .valueIgnored option value =>
    s!"argument {option.title}: ignored explicit argument {Text.quoted value}"
  | .valueMissing option => s!"argument {option.title}: expected one argument"
  | .foldersMissing names =>
    let shown := ", ".intercalate names
    s!"the following arguments are required: {shown}"
  | .unrecognized words =>
    let shown := Text.join [' '] words
    s!"unrecognized arguments: {shown}"

end UsageError

/-! ## Words -/

/-- A word of a command line. -/
inductive Word where
  | argument (s : Text)
  /-- Two hyphens. -/
  | separator
  /-- An option, whether it is given by its letter, and the value attached to it. -/
  | option (o : Switch) (letter : Bool) (value : Option Text)
  /-- A word that looks like an option and is none. -/
  | unknown (s : Text)
  deriving DecidableEq, Repr

namespace Word

/-- The part of a word before its first equals sign, and the value after it. -/
def splitEquals (s : Text) : Text × Option Text :=
  match Text.cutAt '=' s with
  | some (before, after) => (before, some after)
  | none => (s, none)

/-- Whether a name has one letter only. -/
def isLetter (name : Text) : Bool := name[1]? ≠ some '-'

/-- The options that a word may mean, with the name that it is short for. -/
def candidates (s : Text) : List (Text × Word) :=
  match s with
  | '-' :: '-' :: _ =>
    let (start, value) := splitEquals s
    Switch.named.filterMap fun (name, o) =>
      if Text.startsWith name start then some (name, .option o (isLetter name) value) else none
  | _ =>
    Switch.named.filterMap fun (name, o) =>
      if name = s.take 2 then some (name, .option o true (some (s.drop 2)))
      else if Text.startsWith name s then some (name, .option o (isLetter name) none)
      else none

/-- Whether a word is a negative number. A line may end after it. -/
def isNegative : Text → Bool
  | '-' :: rest =>
    let ends (s : Text) : Bool := s.isEmpty || s = ['\n']
    match rest.dropWhile Text.isDigit with
    | '.' :: fraction => fraction.head?.any Text.isDigit && ends (fraction.dropWhile Text.isDigit)
    | after => rest.head?.any Text.isDigit && ends after
  | _ => false

/-- A word that starts with a hyphen and is no name of an option. -/
def ofOther (s : Text) : Except UsageError Word :=
  match candidates s with
  | [(_, w)] => .ok w
  | [] => .ok (if isNegative s || s.contains ' ' then .argument s else .unknown s)
  | several => .error (.ambiguous s (several.map (·.1)))

/-- What a word is. -/
def ofText (s : Text) : Except UsageError Word :=
  if s.head? ≠ some '-' then .ok (.argument s)
  else match Switch.ofName? s with
    | some o => .ok (.option o (isLetter s) none)
    | none =>
      if s.length = 1 then .ok (.argument s)
      else match splitEquals s with
        | (name, some value) => match Switch.ofName? name with
          | some o => .ok (.option o (isLetter name) (some value))
          | none => ofOther s
        | (_, none) => ofOther s

/-- What the words of a line are. -/
def ofTexts : List Text → Except UsageError (List Word)
  | [] => .ok []
  | ['-', '-'] :: rest => .ok (.separator :: rest.map .argument)
  | s :: rest => do
    let w ← ofText s
    let ws ← ofTexts rest
    .ok (w :: ws)

end Word

/-! ## Commands -/

/-- What the command is asked to do. -/
inductive Command where
  | help
  | version
  | process (input output : Value) (arguments : Arguments)
  deriving Repr

/-- What has been read of a command line: the folders, the arguments, and the words that belong to
nothing. -/
structure Line where
  folders : List Value := []
  arguments : Arguments := {}
  extra : List Text := []
  deriving Repr

/-- Why the reading of a line ends early. -/
inductive Ending where
  | error (e : UsageError)
  | command (c : Command)
  deriving Repr

namespace Line

/-- The names of the folders. -/
def folderNames : List String := ["inputdir", "outputdir"]

/-- Two hyphens. -/
def hyphens : Text := ['-', '-']

/-- The value that words give. Two hyphens do not count, the first time; if no word is left, the value
is a list without items. -/
def valueOf (words : List Text) : Value :=
  match words.erase hyphens with
  | [s] => .text s
  | left => .list (left.map .text)

/-- The line after an option with the words of its value. -/
def take (line : Line) (value : List Text) (o : Switch) : Except Ending Line :=
  match o with
  | .help => .error (.command .help)
  | .version => .error (.command .version)
  | o => .ok { line with arguments := o.apply (valueOf value) line.arguments }

/-- The options of a word in which `value` follows the option `o`, each with the words of its value.
Letters without values may run together. -/
def attached (o : Switch) (letter : Bool) (value : Text) :
    Except UsageError (List (Switch × List Text)) :=
  if o.takesValue then .ok [(o, [value])]
  else match value with
    | [] => .error (.valueIgnored o value)
    | c :: rest =>
      match (if letter then Switch.ofName? ['-', c] else none) with
      | none => .error (.valueIgnored o value)
      | some next =>
        if rest.isEmpty then .ok [(o, []), (next, [])]
        else (attached next true rest).map ((o, []) :: ·)
termination_by value.length

/-- The line after several options. -/
def takeAll (line : Line) : List (Switch × List Text) → Except Ending Line
  | [] => .ok line
  | (o, value) :: rest => do
    let line ← line.take value o
    line.takeAll rest

/-- Whether a folder is still missing. -/
def hasRoom (line : Line) : Bool := line.folders.length < folderNames.length

/-- The line after a folder. -/
def addFolder (line : Line) (words : List Text) : Line :=
  { line with folders := line.folders ++ [valueOf words] }

/-- The line after a word that belongs to nothing. -/
def addExtra (line : Line) (s : Text) : Line := { line with extra := line.extra ++ [s] }

/-- Reads the words in order. A separator goes with the folder before it or after it. -/
def read (line : Line) (words : List Word) : Except Ending Line :=
  match words with
  | [] => .ok line
  | .unknown s :: rest => read (line.addExtra s) rest
  | .option o letter (some value) :: rest =>
    match attached o letter value with
    | .error e => .error (.error e)
    | .ok options => match line.takeAll options with
      | .error e => .error e
      | .ok line => read line rest
  | .option o _ none :: rest =>
    if o.takesValue then
      match rest with
      | .argument value :: rest => match line.take [value] o with
        | .error e => .error e
        | .ok line => read line rest
      | _ => .error (.error (.valueMissing o))
    else match line.take [] o with
      | .error e => .error e
      | .ok line => read line rest
  | .argument s :: .separator :: rest =>
    if line.hasRoom then read (line.addFolder [s, hyphens]) rest
    else read (line.addExtra s) (.separator :: rest)
  | .argument s :: rest =>
    if line.hasRoom then read (line.addFolder [s]) rest else read (line.addExtra s) rest
  | .separator :: .argument s :: rest =>
    if line.hasRoom then read (line.addFolder [hyphens, s]) rest
    else read (line.addExtra hyphens) (.argument s :: rest)
  | .separator :: rest => read (line.addExtra hyphens) rest
termination_by words.length

/-- The command of a line that has been read to its end. -/
def command (line : Line) : Except UsageError Command :=
  match line.folders with
  | input :: output :: _ =>
    if line.extra.isEmpty then .ok (.process input output line.arguments)
    else .error (.unrecognized line.extra)
  | given => .error (.foldersMissing (folderNames.drop given.length))

end Line

/-- The command that the words of a line give, or what is wrong with them. -/
def Command.ofWords (words : List Text) : Except UsageError Command := do
  let ws ← Word.ofTexts words
  match Line.read {} ws with
  | .error (.error e) => .error e
  | .error (.command c) => .ok c
  | .ok line => line.command

end Cli
end BuildBlocks
