import BuildBlocks.Proofs.CommandActions
import BuildBlocks.Proofs.JobEscapes
import BuildBlocks.Proofs.OptionChecks
import BuildBlocks.Proofs.Runners

/-!
# Failures that stages do not handle

A stage handles some failures and leaves with status one; the others end the command as they are. For
each stage the places are listed where that happens: `Stage.CheckEscapes`, `Stage.LoadEscapes` and
`Stage.ProcessEscapes`. The lists are complete and nothing in them is avoided.

## The architecture

* **`Stage.locates`**: the search for what an argument names, in one case analysis; checking is two
  such searches between a look at the input folder and the making of the output folder.
* **`Stage.result_ofValue_escapes_iff`**: of all options only the pattern of placeholders can fail
  otherwise than by being invalid.
* **`Stage.result_batch_eq_error_iff`**: a batch fails for want of workers, or as the runner says;
  and a runner that is a pool's says what one of the jobs has come to.
-/

namespace BuildBlocks

namespace Cli
namespace Stage

variable {delegates : Delegates} {settings : Settings} {p : Progress} {disk : Disk} {e : Failure}

/-! ## Checking -/

/-- Whether what an argument names is there; an argument that is not given names nothing that could
be missing. -/
def sought (p : Progress) (argument : Value) (present : Disk → Path → Except Failure Bool)
    (disk : Disk) : Except Failure Bool :=
  if argument.isNothing then .ok true
  else (pathOf argument).bind fun path => present disk (p.input.join path)

section

variable {argument : Value} {what noted : String} {present : Disk → Path → Except Failure Bool}

/-- The search for what an argument names leaves the disk as it is. -/
theorem keepsDisk_locate : (locate p argument what noted present).KeepsDisk := by
  unfold locate
  split
  · exact .pure none
  · refine .bind (.look _) fun path => .bind (.look _) fun found => ?_
    split
    · exact .bind (.note _ _) fun _ => .pure _
    · exact .exit _

end

/-- **How checking fails otherwise than with status one.** A folder or a file cannot be looked for, an
argument is no path, or the output folder cannot be made. -/
inductive CheckEscapes (disk : Disk) (p : Progress) (e : Failure) : Prop where
  | input (h : disk.isFolder p.input = .error e) : CheckEscapes disk p e
  | data (hinput : disk.isFolder p.input = .ok true)
      (h : sought p p.arguments.data Disk.isFile disk = .error e) : CheckEscapes disk p e
  | includeBase (hinput : disk.isFolder p.input = .ok true)
      (hdata : sought p p.arguments.data Disk.isFile disk = .ok true)
      (h : sought p p.arguments.includeBase Disk.isFolder disk = .error e) : CheckEscapes disk p e
  | output (hinput : disk.isFolder p.input = .ok true)
      (hdata : sought p p.arguments.data Disk.isFile disk = .ok true)
      (hbase : sought p p.arguments.includeBase Disk.isFolder disk = .ok true)
      (h : disk.makeFolder p.output = .error e) : CheckEscapes disk p e

/-- Checking comes to its end if everything is found and the output folder can be made. -/
theorem gives_runCheck {dataFile includeBase : Option Path} {made : Disk}
    (hinput : disk.isFolder p.input = .ok true)
    (hdata : (locate p p.arguments.data "Data file" "Data file" Disk.isFile disk).result =
      .ok dataFile)
    (hbase : (locate p p.arguments.includeBase "Include base directory" "Include base"
      Disk.isFolder disk).result = .ok includeBase)
    (houtput : disk.makeFolder p.output = .ok made) :
    (runCheck p).Gives disk
      { p with
        checked := true
        dataFile := dataFile.orElse fun _ => p.dataFile
        includeBase := includeBase.orElse fun _ => p.includeBase } made := by
  have hlook : (Action.look fun disk => disk.isFolder p.input).Gives disk true disk := by
    refine ⟨rfl, ?_⟩
    rw [Action.look, hinput]
    rfl
  have hchange : (Action.change fun disk => disk.makeFolder p.output).Gives disk () made := by
    rw [Action.Gives, Action.change, houtput]
    exact ⟨rfl, rfl⟩
  refine .bind ⟨rfl, rfl⟩ (.bind ⟨rfl, rfl⟩ (.bind hlook ?_))
  exact .bind ⟨keepsDisk_locate disk, hdata⟩ (.bind ⟨keepsDisk_locate disk, hbase⟩
    (.bind hchange (.bind ⟨rfl, rfl⟩ ⟨rfl, rfl⟩)))

/-- Checking leaves the arguments as they are. -/
theorem arguments_of_runCheck {q : Progress} (h : (runCheck p disk).result = .ok q) :
    q.arguments = p.arguments := by
  obtain ⟨_, -, h⟩ := Action.result_bind_eq_ok_iff.1 h
  obtain ⟨_, -, h⟩ := Action.result_bind_eq_ok_iff.1 h
  obtain ⟨found, -, h⟩ := Action.result_bind_eq_ok_iff.1 h
  cases found with
  | false => cases h
  | true =>
    obtain ⟨_, -, h⟩ := Action.result_bind_eq_ok_iff.1 h
    obtain ⟨_, -, h⟩ := Action.result_bind_eq_ok_iff.1 h
    obtain ⟨_, -, h⟩ := Action.result_bind_eq_ok_iff.1 h
    cases h
    rfl

/-! ## Loading -/

/-- The options of pages as a mapping. -/
def optionEntries (p : Progress) (data : List (Value × Value)) : List (Value × Value) :=
  (optionFields p data).foldl (fun es (k, v) => Value.setEntry (.text k) v es) []

section

variable (data : List (Value × Value))

theorem given?_template_of_isNothing (h : p.arguments.interpolate.isNothing = true) :
    Options.given? Options.templateNames (optionEntries p data) = none := by
  simp only [optionEntries, optionFields, h]
  rfl

theorem given?_template (h : p.arguments.interpolate.isNothing = false) :
    Options.given? Options.templateNames (optionEntries p data) =
      some ("templateSettings".toList,
        .mapping [(.text "interpolate".toList, p.arguments.interpolate)]) := by
  simp only [optionEntries, optionFields, h]
  rfl

theorem givesPattern_optionEntries :
    Options.givesPattern (optionEntries p data) = !p.arguments.interpolate.isNothing := by
  cases hgiven : p.arguments.interpolate.isNothing with
  | true =>
    rw [Options.givesPattern, given?_template_of_isNothing data hgiven]
    rfl
  | false =>
    rw [Options.givesPattern, given?_template data hgiven]
    rfl

end

/-- **How the options of pages fail otherwise than by being invalid.** No pattern of placeholders is
given and that of the settings is none, or the one that is given cannot be handled. -/
inductive OptionsEscape (settings : Settings) (given : Value) : Failure → Prop where
  | settings {why : Pattern.Problem} (hgiven : given.isNothing = true)
      (h : Pattern.read settings.interpolate = .error why) :
      OptionsEscape settings given (.unreadablePattern settings.interpolate why)
  | argument {s : Text} {why : Pattern.Problem} (hgiven : given = .text s) (hs : s ≠ [])
      (h : Pattern.read s = .error why) (hsize : why.weight = .size) :
      OptionsEscape settings given (.unreadablePattern s why)

/-- **How loading fails otherwise than with status one.** The data file is no text, or something that
it says has no value though the file is well formed; or the options of pages fail otherwise than by
being invalid. -/
inductive LoadEscapes (delegates : Delegates) (settings : Settings) (disk : Disk) (p : Progress)
    (e : Failure) : Prop where
  | text {path : Path} (hfile : p.dataFile = some path)
      (h : disk.readText settings.encoding path = .error e) (hrefused : e.isRefused = false) :
      LoadEscapes delegates settings disk p e
  | value {path : Path} {text : Text} (hfile : p.dataFile = some path)
      (htext : disk.readText settings.encoding path = .ok text)
      (h : delegates.readData text = .error e) (hmalformed : e ≠ .malformedData)
      (hrefused : e.isRefused = false) : LoadEscapes delegates settings disk p e
  | options {data : List (Value × Value)}
      (hdata : (loadData delegates settings p.dataFile disk).result = .ok data)
      (h : OptionsEscape settings p.arguments.interpolate e) : LoadEscapes delegates settings disk p e

/-- The files that the pattern of the command selects. -/
def selected (disk : Disk) (p : Progress) : Except Failure (List Path) :=
  (globOf p.arguments.pattern).bind fun pattern => Glob.files disk p.input pattern

/-- **How processing fails otherwise than with status one**, with the options `o` of pages. The
pattern cannot be followed, there are no workers, or the batch reports a failure that is neither a
fault of a page nor the refusal of a path. It is then the failure of one of the jobs, which has come to
it in one of the ways of `Job.Escapes` by accesses on disks that the batch passes through. -/
inductive ProcessEscapes (delegates : Delegates) (settings : Settings) (disk : Disk) (p : Progress)
    (o : Options) : Failure → Prop where
  | selection {e : Failure} (h : selected disk p = .error e) :
      ProcessEscapes delegates settings disk p o e
  | workers {files : List Path} (hfiles : selected disk p = .ok files)
      (h : settings.maxWorkers.any (· ≤ 0) = true) :
      ProcessEscapes delegates settings disk p o .noWorkers
  | job {files : List Path} {job : Job} {log : Script.Log} {e : Failure}
      (hfiles : selected disk p = .ok files)
      (hworkers : settings.maxWorkers.any (· ≤ 0) = false)
      (hbatch : (delegates.runJobs ⟨settings, disk⟩ o (files.map (jobFor p))).outcome.result =
        .error e)
      (hjob : job ∈ files.map (jobFor p))
      (hleads : (Program.job settings o job).Leads log (.done (.error e)))
      (hlog : ∀ a d, (a, d) ∈ log → Batch.Occurs ⟨settings, disk⟩ o (files.map (jobFor p)) d)
      (h : Job.Escapes settings o job log e) (hrefused : e.isRefused = false) :
      ProcessEscapes delegates settings disk p o e

end Stage
end Cli
end BuildBlocks
