import BuildBlocks.Cli.Basic
import BuildBlocks.Settings.Load

/-!
# The program

The program takes a picture of the files it may need, runs the command on it, and writes back what
has changed. It sees everything below the current folder and below the folders that its line names.
-/

namespace BuildBlocks
namespace Program

/-- The absolute path of a place. -/
def pathOf (place : Place) : String := s!"{Path.absolute place}"

/-- A place with every folder above it. -/
def above (place : Place) : List (Place × Entry) :=
  (List.range place.length).tail.map fun n => (place.take n, .folder)

/-- Everything at a place and below it. -/
partial def picture (place : Place) : IO (List (Place × Entry)) := do
  let path := (← IO.currentDir) / pathOf place
  if ← path.isDir then
    let mut found : List (Place × Entry) := [(place, .folder)]
    for child in ← path.readDir do
      found := found ++ (← picture (place ++ [child.fileName.toList]))
    return found
  else if ← path.pathExists then
    return [(place, .file (← IO.FS.readBinFile path).toList)]
  else return []

/-- The disk as it is seen from the current folder. -/
def disk (words : List Text) : IO Disk := do
  let here := Path.ofText (← IO.currentDir).toString.toList
  let named := words.filter fun w => w.head? ≠ some '-'
  let places := (here :: named.map fun w => here.join (Path.ofText w)).map (·.parts)
  let mut entries : List (Place × Entry) := []
  for place in places do
    entries := entries ++ above place ++ (← picture place)
  return ⟨entries, here.parts⟩

/-- Writes what has changed. -/
def writeBack (before after : Disk) : IO Unit := do
  for (place, e) in after.entries do
    if before.lookup? place ≠ some e then
      match e with
      | .folder => IO.FS.createDirAll (pathOf place)
      | .file content => IO.FS.writeBinFile (pathOf place) ⟨content.toArray⟩
      | _ => pure ()

/-- The variables of the environment that are settings. -/
def environment : IO (List (Text × Text)) := do
  let mut found : List (Text × Text) := []
  for name in Settings.names do
    let variableName := (String.ofList Settings.variableStart ++ name).toUpper
    if let some value ← IO.getEnv variableName then
      found := found ++ [(variableName.toList, value.toList)]
  return found

/-- Prints what the command printed and says how it ended. -/
def finish (report : Cli.Report) : IO UInt32 := do
  for line in report.output ++ report.shown do IO.println line
  unless report.message.isEmpty do IO.eprintln report.message
  match report.halt with
  | some (.crash e) =>
    IO.eprintln e.message
    return 1
  | _ => return UInt32.ofNat (report.status?.getD 1)

end Program
end BuildBlocks

open BuildBlocks Program in
/-- Runs the command. -/
def main (args : List String) : IO UInt32 := do
  let words := args.map String.toList
  let before ← disk words
  match Settings.load before (← environment) with
  | .error e =>
    IO.eprintln e.message
    return 1
  | .ok settings =>
    let report := Cli.run settings before words
    writeBack before report.disk
    finish report
