import BuildBlocks.Value.Basic

/-!
# Arguments of the command

What the command can be told besides its two folders. Every option has one or two names; some take a
value, the others only have to be there.

Arguments are values as they were given: whether the options of pages can be made of them is checked
only when they are.
-/

namespace BuildBlocks
namespace Cli

/-- The arguments of the command besides its folders. -/
structure Arguments where
  /-- Which files are processed, relative to the input folder. -/
  pattern : Value := .text "**/*.html".toList
  environment : Value := .null
  /-- The file that holds the data of pages. -/
  data : Value := .null
  marker : Value := .text "build".toList
  strip : Value := .bool false
  recursive : Value := .bool false
  /-- The pattern of placeholders. -/
  interpolate : Value := .null
  /-- Files that register block types. -/
  extensions : Value := .list []
  includeBase : Value := .null
  strict : Value := .bool false
  verbosity : Int := 1
  deriving Repr

/-- A list with one more value. -/
def Arguments.append (items : Value) (v : Value) : Value :=
  match items with
  | .list vs => .list (vs ++ [v])
  | _ => .list [v]

/-- The options of the command. -/
inductive Switch where
  | help
  | pattern
  | environment
  | data
  | marker
  | strip
  | recursive
  | interpolate
  | extension
  | includeBase
  | strict
  | verbosity
  | version
  | saveInputMeta
  | saveOutputMeta
  deriving DecidableEq, Repr

namespace Switch

/-- All options, in the order in which they are listed. -/
def all : List Switch :=
  [.help, .pattern, .environment, .data, .marker, .strip, .recursive, .interpolate, .extension,
    .includeBase, .strict, .verbosity, .version, .saveInputMeta, .saveOutputMeta]

/-- The names of an option. -/
def names : Switch → List String
  | .help => ["-h", "--help"]
  | .pattern => ["--pattern"]
  | .environment => ["--environment"]
  | .data => ["--data"]
  | .marker => ["--commentMarker"]
  | .strip => ["--strip"]
  | .recursive => ["--recursive"]
  | .interpolate => ["--interpolate"]
  | .extension => ["--customBlockTypes"]
  | .includeBase => ["--includeBase"]
  | .strict => ["--strict"]
  | .verbosity => ["-v", "--verbosity"]
  | .version => ["-V", "--version"]
  | .saveInputMeta => ["--saveinputmeta"]
  | .saveOutputMeta => ["--saveoutputmeta"]

/-- Whether an option takes a value. -/
def takesValue : Switch → Bool
  | .pattern | .environment | .data | .marker | .interpolate | .extension | .includeBase => true
  | _ => false

/-- An option as messages name it. -/
def title (s : Switch) : String := "/".intercalate s.names

/-- All names, each with its option. -/
def named : List (Text × Switch) := all.flatMap fun s => s.names.map fun n => (n.toList, s)

/-- The option with a name. -/
def ofName? (name : Text) : Option Switch := named.lookup name

/-- What an option with its value makes of the arguments. -/
def apply (value : Value) (a : Arguments) : Switch → Arguments
  | .pattern => { a with pattern := value }
  | .environment => { a with environment := value }
  | .data => { a with data := value }
  | .marker => { a with marker := value }
  | .strip => { a with strip := .bool true }
  | .recursive => { a with recursive := .bool true }
  | .interpolate => { a with interpolate := value }
  | .extension => { a with extensions := Arguments.append a.extensions value }
  | .includeBase => { a with includeBase := value }
  | .strict => { a with strict := .bool true }
  | .verbosity => { a with verbosity := a.verbosity + 1 }
  | .help | .version | .saveInputMeta | .saveOutputMeta => a

end Switch
end Cli
end BuildBlocks
