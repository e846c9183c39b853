import BuildBlocks.Disk.Access
import BuildBlocks.Options.Check
import BuildBlocks.Settings.Basic
import BuildBlocks.Settings.EnvFile
import BuildBlocks.Settings.Integer
import BuildBlocks.Value.Json

/-!
# Loading settings

Settings come from variables of the environment and of a file in the current folder; the environment
wins. The names of the variables are those of the settings after a fixed beginning, in any letter
case. A list is written in JSON. All variables that cannot be used are reported together.
-/

namespace BuildBlocks
namespace Settings

/-- The beginning of the names of all variables, in lower case. -/
def variableStart : Text := "htmlprocessor_".toList

/-- The name of the file of variables. -/
def envFile : Path := Path.ofText ".env".toList

/-- The names of the settings, in order. -/
def names : List String :=
  ["comment_marker", "max_include_depth", "html_extensions", "file_encoding", "default_interpolate",
    "strict_mode", "max_workers"]

/-- The setting that is written in JSON. -/
def listName : String := "html_extensions"

/-- Variables by name in lower case; a name that comes again replaces the value under it. -/
abbrev Variables := List (Text × Text)

/-- A binding put among others: a name that is there already keeps its place. -/
def bind (name : Text) (value : Option Text) : List EnvFile.Binding → List EnvFile.Binding
  | [] => [(name, value)]
  | (n, v) :: rest => if n = name then (n, value) :: rest else (n, v) :: bind name value rest

/-- Variables with their names in lower case. A name alone leaves its variable without a value. -/
def byName (bindings : List EnvFile.Binding) : Variables :=
  let bound := bindings.foldl (fun bs (name, value) => bind name value bs) []
  let lowered := bound.foldl (fun bs (name, value) => bind (Text.lower name) value bs) []
  lowered.filterMap fun (name, value) => value.map (name, ·)

/-- The value of a setting among variables. -/
def given? (vs : Variables) (name : String) : Option Text :=
  vs.lookup (variableStart ++ name.toList)

/-- The setting that is written in JSON, among the variables of an origin. -/
def givenList (origin : String) (vs : Variables) : Except Failure (Option Value) :=
  match given? vs listName with
  | none => .ok none
  | some s => match Value.ofJson? s with
    | none => .error (.unreadableSetting listName origin)
    | some .null => .ok none
    | some v => .ok (some v)

/-- A whole number. -/
def checkInt (loc : List OptionStep) (v : Value) : Check Int :=
  match v with
  | .text s => match int s with
    | .ok n => .ok n
    | .error .malformed => Check.problem loc .intParsing v
    | .error .long => Check.problem loc .intSize v
  | v => Check.problem loc .intParsing v

/-! ## Checking and loading -/

/-- Checks the settings that `given` gives. -/
def check (given : String → Option Value) : Check Settings :=
  let field {α : Type} (name : String) (missing : α)
      (check : List OptionStep → Value → Check α) : Check α :=
    match given name with
    | some v => check [.key name.toList] v
    | none => .ok missing
  let default : Settings := {}
  let make commentMarker maxIncludeDepth htmlExtensions (encoding : Encoding) interpolate strict
      maxWorkers : Settings :=
    { commentMarker, maxIncludeDepth, htmlExtensions, encoding, interpolate, strict, maxWorkers }
  let made := Check.seq (.ok make) (field "comment_marker" default.commentMarker Check.text)
  let made := made.seq (field "max_include_depth" default.maxIncludeDepth checkInt)
  let made := made.seq (field listName default.htmlExtensions Check.texts)
  let made := made.seq (field "file_encoding" default.encoding fun loc v =>
    (Check.text loc v).map Encoding.ofName)
  let made := made.seq (field "default_interpolate" default.interpolate Check.text)
  let made := made.seq (field "strict_mode" default.strict Check.bool)
  made.seq (field "max_workers" none fun loc v => (checkInt loc v).map some)

/-- The variables of a file that belong to no setting. -/
def strangers (vs : Variables) : List InvalidOption :=
  vs.filterMap fun (name, value) =>
    let known := names.any (fun n => n.toList = name || variableStart ++ n.toList = name)
    if value.isEmpty || known then none else some ⟨[.key name], .unknown, .text value⟩

/-- The variables of the file in the current folder, if it is there. -/
def readEnvFile (disk : Disk) (environment : List (Text × Text)) : Except Failure Variables := do
  if ← disk.isFile envFile then
    let s ← disk.readText "utf-8".toList envFile
    .ok (byName (EnvFile.parse environment s))
  else .ok []

/-- The settings that an environment and the file of variables give. -/
def load (disk : Disk) (environment : List (Text × Text)) : Except Failure Settings := do
  let own := byName (environment.map fun (name, value) => (name, some value))
  let ownList ← givenList "EnvSettingsSource" own
  let file ← readEnvFile disk environment
  let fileList ← givenList "DotEnvSettingsSource" file
  let given (name : String) : Option Value :=
    if name = listName then ownList.orElse fun _ => fileList
    else ((given? own name).orElse fun _ => given? file name).map .text
  let checked := Check.seq ((check given).map fun s _ => s)
    (match strangers file with
      | [] => .ok ()
      | problems => .error (.invalid problems))
  checked.mapError Rejection.failure

end Settings
end BuildBlocks
