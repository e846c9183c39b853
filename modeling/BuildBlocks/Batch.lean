import BuildBlocks.Page.Basic

/-!
# Batches

A batch processes files into files. Every job reads its input, processes it and writes its output;
the folders above the output are made as needed.

How the jobs of a batch are run is left to a runner: which of them run side by side, and in which
order they look at the disk. The runner that is given nothing else runs them one after another. The
files a job writes are then there for the jobs after it, and the first job that fails ends the batch;
nothing is written for it unless its output could be opened but not filled.
-/

namespace BuildBlocks

/-- A file to process and the file to write. -/
structure Job where
  input : Path
  output : Path
  deriving DecidableEq, Repr

/-- What a step left on the disk, and its outcome. -/
structure Effect (α : Type) where
  disk : Disk
  outcome : Outcome α

namespace Job

/-- Writes the output of a job. -/
def write (w : Workspace) (output : Path) (page : Text) : Effect Path :=
  match w.disk.buildFolder output.parent with
  | (disk, .error e) => ⟨disk, Outcome.fail e⟩
  | (disk, .ok ()) =>
    let (disk, written) := disk.writeText w.settings.encoding output page
    ⟨disk, do
      Outcome.ofExcept written
      Outcome.note 2 s!"Wrote {output}"
      pure output⟩

/-- Processes the input of a job and writes its output. -/
def run (w : Workspace) (options : Options) (job : Job) : Effect Path :=
  let processed := Page.processFile w options job.input
  match processed.result with
  | .error e => ⟨w.disk, ⟨processed.notes, .error e⟩⟩
  | .ok page =>
    let effect := write w job.output page
    ⟨effect.disk, ⟨processed.notes ++ effect.outcome.notes, effect.outcome.result⟩⟩

/-- Runs jobs one after another, up to the first that fails. -/
def runAll (w : Workspace) (options : Options) : List Job → Effect (List Path)
  | [] => ⟨w.disk, pure []⟩
  | job :: jobs =>
    let first := run w options job
    match first.outcome.result with
    | .error e => ⟨first.disk, ⟨first.outcome.notes, .error e⟩⟩
    | .ok output =>
      let rest := runAll { w with disk := first.disk } options jobs
      ⟨rest.disk, do
        let _ ← first.outcome
        let outputs ← rest.outcome
        pure (output :: outputs)⟩

/-- A way to run the jobs of a batch. -/
abbrev Runner := Workspace → Options → List Job → Effect (List Path)

end Job

namespace Batch

/-- The number of workers that is asked for; none or zero leaves it to the settings. -/
def workers (settings : Settings) (requested : Option Int) : Option Int :=
  match requested with
  | none | some 0 => settings.maxWorkers
  | some n => some n

/-- Runs a batch, if there are workers to run it. -/
def run (w : Workspace) (options : Options) (requested : Option Int) (jobs : List Job)
    (runner : Job.Runner := Job.runAll) : Effect (List Path) :=
  if (workers w.settings requested).any (· ≤ 0) then ⟨w.disk, Outcome.fail .noWorkers⟩
  else runner w options jobs

end Batch
end BuildBlocks
