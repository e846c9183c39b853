import BuildBlocks.Cli.Command
import BuildBlocks.Cli.Stage

/-!
# The command

The whole command as a function: from its settings, the files it sees, the words of its line and what
it leaves to others to what it prints, what it leaves on the disk and how it ends.
-/

namespace BuildBlocks
namespace Cli

/-- The name of the command. -/
def name : String := "htmlprocessor"

/-- The version of the command. -/
def version : String := "1.0.0"

/-- What the command prints, notes and leaves on the disk, the verbosity with which its notes are
shown, and how it ended unless it did its work. -/
structure Report where
  disk : Disk
  output : List String := []
  notes : List Note := []
  verbosity : Int := 1
  halt : Option Halt := none

namespace Report

/-- The status with which the command leaves; a failure that nobody handles has none. -/
def status? (r : Report) : Option Nat :=
  match r.halt with
  | none => some 0
  | some (.exit status _) => some status
  | some (.crash _) => none

/-- What the command says about how it ended. -/
def message (r : Report) : String :=
  match r.halt with
  | some (.exit _ message) => message
  | _ => ""

/-- The notes that are shown. -/
def shown (r : Report) : List String := Note.shown r.verbosity r.notes

end Report

/-- How the command is called. -/
def usage : List String :=
  let option (s : Switch) : String :=
    let value := if s.takesValue then " VALUE" else ""
    s!"  {s.title}{value}"
  s!"usage: {name} [options] inputdir outputdir" :: Switch.all.map option

/-- Makes sure that both folders of the command are folders. The output folder is looked at first and
made if nothing is there. -/
def prepare (input output : Path) : Action Unit := do
  let notFolder (p : Path) : Action Unit := Action.exit s!"Not a directory: {p}"
  let found ← Action.look fun disk => disk.find? output
  match found with
  | some .folder => pure ()
  | some _ => notFolder output
  | none => Action.change fun disk => disk.makeFolder output
  if ← Action.look fun disk => disk.isFolder input then pure () else notFolder input

/-- Processes the pages of a folder. -/
def process (settings : Settings) (disk : Disk) (p : Progress) (delegates : Delegates) : Report :=
  let verbosity := p.arguments.verbosity
  let prepared := prepare p.input p.output disk
  match prepared.result with
  | .error h => { disk := prepared.disk, verbosity, halt := some h }
  | .ok _ =>
    let trace := Stage.runAll settings prepared.disk p Stage.all delegates
    { disk := trace.disk, notes := trace.notes, verbosity, halt := trace.halt }

/-- Runs the command with the words of its line. -/
def run (settings : Settings) (disk : Disk) (words : List Text) (delegates : Delegates := {}) :
    Report :=
  match Command.ofWords words with
  | .error e => { disk, halt := some (.exit 2 s!"{name}: error: {e.message}") }
  | .ok .help => { disk, output := usage }
  | .ok .version => { disk, output := [s!"{name} {version}"] }
  | .ok (.process input output arguments) =>
    match Stage.pathOf input, Stage.pathOf output with
    | .ok input, .ok output =>
      process settings disk ⟨input, output, arguments, false, none, none, none, none⟩ delegates
    | .error e, _ | _, .error e => { disk, halt := some (.crash e) }

end Cli
end BuildBlocks
