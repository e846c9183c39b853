import BuildBlocks.Cli.Action
import BuildBlocks.Cli.Arguments
import BuildBlocks.Glob.Basic
import BuildBlocks.Options.Report
import BuildBlocks.Yaml.Value

/-!
# Stages of the command

The command works in four stages: it checks its folders and files, loads the options of pages,
processes the files that its pattern selects, and reports. Each stage takes what is known so far and
adds to it. The stages can be run in any order; a stage that misses what another would have added goes
on with what holds without it, or ends the command.

Two things the stages leave to others, `Delegates`: what the text of a data file says, and how the jobs
of a batch are run.
-/

namespace BuildBlocks
namespace Cli

/-- What the stages leave to others. -/
structure Delegates where
  /-- The value of a data file from its text. The failure `malformedData` says that the text is not well
  formed; any other is about something that the text says. -/
  readData : Text → Except Failure Value := Value.ofYaml
  /-- How the jobs of a batch are run. -/
  runJobs : Job.Runner := Job.runAll

/-- What is known while the command works. -/
structure Progress where
  input : Path
  output : Path
  arguments : Arguments := {}
  /-- Whether the folders and files have been checked. -/
  checked : Bool := false
  dataFile : Option Path := none
  includeBase : Option Path := none
  /-- The options of pages, once they are loaded. -/
  options : Option Options := none
  /-- The files that were written, once files have been processed. -/
  written : Option (List Path) := none
  deriving Repr

/-- The stages. -/
inductive Stage where
  | check
  | load
  | process
  | report
  deriving DecidableEq, Repr

namespace Stage

/-- The title that a talkative command starts with. -/
def title : String :=
  "\n  _     _             _\n" ++
  " | |__ | |_ _ __ ___ | |_ __  _ __ ___   ___ ___  ___ ___  ___  _ __\n" ++
  " | '_ \\| __| '_ ` _ \\| | '_ \\| '__/ _ \\ / __/ _ \\/ __/ __|/ _ \\| '__|\n" ++
  " | | | | |_| | | | | | | |_) | | | (_) | (_|  __/\\__ \\__ \\ (_) | |\n" ++
  " |_| |_|\\__|_| |_| |_|_| .__/|_|  \\___/ \\___\\___||___/___/\\___/|_|\n" ++
  "                       |_|\n" ++
  "  Build-time HTML preprocessor\n"

/-- The path that an argument is. -/
def pathOf : Value → Except Failure Path
  | .text s => .ok (Path.ofText s)
  | v => .error (.notPath v.kindOf)

/-! ## Checking -/

/-- The path of an argument, which must lead to what `present` asks for. -/
def locate (p : Progress) (argument : Value) (what noted : String)
    (present : Disk → Path → Except Failure Bool) : Action (Option Path) := do
  if argument.isNothing then pure none
  else
    let path := p.input.join (← Action.look fun _ => pathOf argument)
    if ← Action.look fun disk => present disk path then
      Action.note 2 s!"{noted}: {path}"
      pure (some path)
    else Action.exit s!"Error: {what} not found: {path}"

/-- Checks the folders and files, and makes the output folder. -/
def runCheck (p : Progress) : Action Progress := do
  Action.note 2 title
  Action.note 2 "Checking environment..."
  if ← Action.look fun disk => disk.isFolder p.input then
    let dataFile ← locate p p.arguments.data "Data file" "Data file" Disk.isFile
    let includeBase ←
      locate p p.arguments.includeBase "Include base directory" "Include base" Disk.isFolder
    Action.change fun disk => disk.makeFolder p.output
    Action.note 2 s!"Output directory: {p.output}"
    pure { p with
      checked := true
      dataFile := dataFile.orElse fun _ => p.dataFile
      includeBase := includeBase.orElse fun _ => p.includeBase }
  else Action.exit s!"Error: Input directory not found: {p.input}"

/-! ## Loading -/

/-- How a data file that cannot be read ends the command. -/
def unreadable : Failure → Halt
  | .malformedData => .exit 1 "Error reading data file"
  | .refused why path =>
    let shown := (Failure.refused why path).message
    .exit 1 s!"Error reading data file: {shown}"
  | e => .crash e

/-- The value of a data file. -/
def dataValue (delegates : Delegates) (settings : Settings) (path : Path) (disk : Disk) :
    Except Failure Value := do
  delegates.readData (← disk.readText settings.encoding path)

/-- The entries of the data file; a file that holds nothing has none. -/
def loadData (delegates : Delegates) (settings : Settings) (file : Option Path) :
    Action (List (Value × Value)) := do
  match file with
  | none => pure []
  | some path =>
    let v ← Action.perform unreadable fun disk =>
      ⟨disk, .ofExcept (dataValue delegates settings path disk)⟩
    let v := if v.isNothing then .mapping [] else v.unfold
    match v with
    | .mapping entries =>
      Action.note 2 s!"Loaded {entries.length} data keys"
      pure entries
    | _ => Action.exit s!"Error: Data file must hold a mapping: {path}"

/-- The options of pages as the arguments give them. -/
def optionFields (p : Progress) (data : List (Value × Value)) : List (Text × Value) :=
  let a := p.arguments
  let includeBase := match p.includeBase with
    | some path => .text path.toText
    | none => .null
  [("data".toList, .mapping data), ("environment".toList, a.environment),
    ("commentMarker".toList, a.marker), ("strip".toList, a.strip),
    ("recursive".toList, a.recursive), ("customBlockTypes".toList, a.extensions),
    ("includeBase".toList, includeBase), ("strict".toList, a.strict)] ++
  if a.interpolate.isNothing then []
  else [("templateSettings".toList, .ofFields [("interpolate".toList, a.interpolate)])]

/-- How options that cannot be used end the command. -/
def unusable : Failure → Halt
  | .invalid problems => .exit 1 s!"Error: Invalid options: {InvalidOption.report problems}"
  | e => .crash e

/-- Loads the options of pages. -/
def runLoad (delegates : Delegates) (settings : Settings) (p : Progress) : Action Progress := do
  let data ← loadData delegates settings p.dataFile
  let options ← Action.perform unusable fun disk =>
    ⟨disk, .ofExcept (Options.ofValue settings (.ofFields (optionFields p data)))⟩
  pure { p with options := some options }

/-! ## Processing -/

/-- How a failure while files are processed ends the command. -/
def unprocessed : Failure → Halt
  | .fault f => .exit 1 s!"Processing error: {f.message}"
  | .refused why path =>
    let shown := (Failure.refused why path).message
    .exit 1 s!"Error: {shown}"
  | e => .crash e

/-- The job for an input file: its output has the same place in the output folder. -/
def jobFor (p : Progress) (file : Path) : Job :=
  ⟨file, p.output.join ((Path.below? p.input file).getD file)⟩

/-- Processes the files; without loaded options the settings decide. -/
def batch (delegates : Delegates) (settings : Settings) (p : Progress) (files : List Path)
    (disk : Disk) : Effect (List Path) :=
  let options := match p.options with
    | some o => Except.ok o
    | none => Options.ofValue settings .null
  match options with
  | .ok o => Batch.run ⟨settings, disk⟩ o none (files.map (jobFor p)) delegates.runJobs
  | .error e => ⟨disk, .fail e⟩

/-- The pattern for files that an argument is. -/
def globOf : Value → Except Failure Text
  | .text s => .ok s
  | v => .error (if v.isNothing then .emptyGlob v.describe else .notGlob v.kindOf)

/-- Processes the files that the pattern selects. -/
def runProcess (delegates : Delegates) (settings : Settings) (p : Progress) : Action Progress := do
  let pattern ← Action.look fun _ => globOf p.arguments.pattern
  let files ← Action.look fun disk => Glob.files disk p.input pattern
  Action.note 1 s!"Processing {files.length} files matching {pattern}..."
  let written ← Action.perform unprocessed (batch delegates settings p files)
  pure { p with written := some written }

/-! ## Reporting -/

/-- Notes things one after another. -/
def noteAll (level : Int) : List String → Action Unit
  | [] => pure ()
  | text :: rest => do
    Action.note level text
    noteAll level rest

/-- Reports what was written. -/
def runReport (p : Progress) : Action Progress := do
  match p.written with
  | none => Action.exit "Error: Processing failed"
  | some files =>
    Action.note 1 "\n✓ Processing successful!"
    Action.note 1 s!"  Files: {files.length}"
    Action.note 1 s!"  Output: {p.output}"
    noteAll 2 (files.map fun f => s!"    {f}")
    pure p

/-! ## Running stages -/

/-- Runs a stage. -/
def run (delegates : Delegates) (settings : Settings) (p : Progress) : Stage → Action Progress
  | .check => runCheck p
  | .load => runLoad delegates settings p
  | .process => runProcess delegates settings p
  | .report => runReport p

/-- The stages in their order. -/
def all : List Stage := [.check, .load, .process, .report]

end Stage

/-- What stages left behind: the disk, the notes, what was known after each stage that was completed,
and how the command ended if it did. -/
structure Trace where
  disk : Disk
  notes : List Note := []
  steps : List Progress := []
  halt : Option Halt := none

/-- Runs stages one after another, up to the first in which the command ends. -/
def Stage.runAll (settings : Settings) (disk : Disk) (p : Progress) (stages : List Stage)
    (delegates : Delegates := {}) : Trace :=
  match stages with
  | [] => { disk }
  | stage :: rest =>
    let done := stage.run delegates settings p disk
    match done.result with
    | .error h => { disk := done.disk, notes := done.notes, halt := some h }
    | .ok next =>
      let after := runAll settings done.disk next rest delegates
      { after with notes := done.notes ++ after.notes, steps := next :: after.steps }

end Cli
end BuildBlocks
