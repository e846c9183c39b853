import BuildBlocks.Proofs.JobAmongOthers
import BuildBlocks.Proofs.Runners
import BuildBlocks.Proofs.UntouchedPaths

/-!
# Batches under every schedule

The jobs of a batch run side by side on a pool of workers. If they are independent, what the batch
reports and what it writes is settled by what each job does alone, whatever the schedule.

## The architecture

* **`Batch.Independent`**: no output of a job is where another one opens its output or makes a folder,
  and nothing that a job looks at depends on whether the outputs and folders of the others are there.
* **`Batch.Agrees`**: the report and the disk are as the jobs alone have it.
* **`Independent.undisturbed`**: each job is then undisturbed by all the others.
-/

namespace BuildBlocks

open Disk

namespace Job

variable {w : Workspace} {options : Options} {job : Job}

/-- Links stand after a job only where they stood before. -/
theorem Ends.not_link {left : Disk} {result : Except Failure Path} {place : Place}
    (h : Ends w options job left result) (hplain : Plain w.disk place) (target : Text) :
    left.lookup? place ≠ some (.link target) := by
  have hbuilt {built : Disk} {r : Except Failure Unit}
      (hbuilt : w.disk.buildFolder job.output.parent = (built, r)) :
      built.lookup? place ≠ some (.link target) := fun hlink =>
    hplain.link target (((grows_of_buildFolder hbuilt).fits.link_iff place target).1 hlink)
  have hset {built : Disk} {q : Place} {content : Bytes} (hq : q ≠ [])
      (hne : built.lookup? place ≠ some (.link target)) :
      (built.set q (.file content)).lookup? place ≠ some (.link target) := by
    rw [lookup?_set _ _ _ _ hq]
    split
    · nofun
    · exact hne
  cases h with
  | unprocessed => exact hplain.link target
  | blocked _ hb | unopened _ hb => exact hbuilt hb
  | unencoded _ hb hopen | written _ hb hopen => exact hset (ne_nil_of_writable hopen) (hbuilt hb)

theorem plain_run {place : Place} (h : Plain w.disk place) (hmakes : ¬ Makes w options job place) :
    Plain (run w options job).disk place :=
  ⟨hmakes, (ends w options job).not_link h⟩

/-- A job opens its output where neither a folder nor a link stands. -/
theorem Opens.plain {place : Place} (h : Opens w options job place) : Plain w.disk place := by
  obtain ⟨_, hbuilt, hopen⟩ := h
  exact (writable_eq_ok_iff.1 hopen).2.1.of_grows (grows_of_buildFolder hbuilt)

end Job

namespace Batch

variable {w : Workspace} {options : Options} {jobs : List Job}

/-- A folder stands at a place after another job than the one at `i`. -/
def OtherMakes (w : Workspace) (options : Options) (jobs : List Job) (i : Fin jobs.length)
    (place : Place) : Prop := ∃ j, j ≠ i ∧ Job.Makes w options (jobs.get j) place

/-- Another job than the one at `i` opens its output at a place. -/
def OtherOpens (w : Workspace) (options : Options) (jobs : List Job) (i : Fin jobs.length)
    (place : Place) : Prop := ∃ j, j ≠ i ∧ Job.Opens w options (jobs.get j) place

/-- The jobs of a batch are independent, if folders may come to be at the places `makes i` while the
job at `i` runs. -/
structure Independent (w : Workspace) (options : Options) (jobs : List Job)
    (makes : Fin jobs.length → Place → Prop) : Prop where
  /-- The folder in which relative paths start is there. -/
  here : Reached w.disk w.disk.here
  /-- The outputs are at different places. -/
  distinct : ∀ i place, Job.Opens w options (jobs.get i) place → ¬ OtherOpens w options jobs i place
  /-- No output is where another job has a folder. -/
  apart : ∀ i place, Job.Opens w options (jobs.get i) place → ¬ OtherMakes w options jobs i place
  /-- No job looks at the outputs of others, nor at the folders, while it processes its page. -/
  page : ∀ i, (Program.processFile w.settings options (jobs.get i).input).Ignores
    (Changes (makes i) (OtherOpens w options jobs i)) w.disk
  /-- Nor does a job while its output is refused, if that is refused. -/
  refused : ∀ i e, ((Program.openOutput (jobs.get i).output).alone w.disk).1 = .error e →
    (Program.openOutput (jobs.get i).output).Ignores
      (Changes (makes i) (OtherOpens w options jobs i)) w.disk

/-- A report and a disk agree with what the jobs of a batch do alone. -/
structure Agrees (w : Workspace) (options : Options) (jobs : List Job) (report : Pool.Report Path)
    (disk : Disk) : Prop where
  /-- If every job succeeds, the outputs are reported in order, and each holds its processed
  input. -/
  outputs : (∀ job ∈ jobs, ∃ output, (Job.run w options job).outcome.result = .ok output) →
    report = .outputs (jobs.map Job.output) ∧ ∀ job ∈ jobs, Job.Written w options job disk
  /-- Else the failure of the first job that fails is reported, and the outputs of the jobs before it
  hold their processed inputs. -/
  failed : ∀ before job after e, jobs = before ++ job :: after →
    (∀ job ∈ before, ∃ output, (Job.run w options job).outcome.result = .ok output) →
    (Job.run w options job).outcome.result = .error e →
    report = .failed e ∧ ∀ job ∈ before, Job.Written w options job disk

theorem Independent.undisturbed
    (h : Independent w options jobs (OtherMakes w options jobs)) (i : Fin jobs.length) :
    Job.Undisturbed w options (jobs.get i) (OtherMakes w options jobs i)
      (OtherOpens w options jobs i) where
  here := h.here
  page := h.page i
  refused := h.refused i
  own place hopens := ⟨h.apart i place hopens, h.distinct i place hopens⟩
  folders := by
    rintro place ⟨j, hj, hopens⟩
    exact Job.plain_run hopens.plain fun hmakes => h.apart j place hopens ⟨i, hj.symm, hmakes⟩

/-- The report of a pool agrees with the jobs alone. -/
theorem agrees_of_pool {report : Pool.Report Path} {disk : Disk}
    (h : Pool.Agrees (fun i : Fin jobs.length => (Job.run w options (jobs.get i)).outcome.result)
      (fun i => Job.Written w options (jobs.get i) disk) report) :
    Agrees w options jobs report disk := by
  cases h with
  | @outputs outputs hok hwritten =>
    have heq : List.ofFn outputs = jobs.map Job.output := by
      refine List.ext_getElem (by simp) fun i hi hi' => ?_
      rw [List.getElem_ofFn, List.getElem_map]
      exact Job.output_of_run (hok ⟨i, by simpa using hi⟩)
    refine ⟨fun _ => ⟨congrArg Pool.Report.outputs heq, fun job hjob => ?_⟩, ?_⟩
    · obtain ⟨i, hi, rfl⟩ := List.mem_iff_getElem.1 hjob
      exact hwritten ⟨i, hi⟩
    · rintro before job after e rfl - herror
      have hok := hok ⟨before.length, by simp⟩
      simp [herror] at hok
  | @failed i e herror hbefore =>
    refine ⟨fun hall => ?_, ?_⟩
    · obtain ⟨output, hok⟩ := hall _ (jobs.get_mem i)
      rw [hok] at herror
      cases herror
    · rintro before job after e' rfl hok herror'
      -- both are the first job that fails
      have hi : i.1 = before.length := by
        rcases lt_trichotomy i.1 before.length with hlt | heq | hgt
        · obtain ⟨output, hi⟩ := hok _ (List.getElem_mem hlt)
          simp [List.getElem_append_left hlt, hi] at herror
        · exact heq
        · obtain ⟨⟨output, hm⟩, -⟩ := hbefore ⟨before.length, by simp⟩ hgt
          simp [herror'] at hm
      have hsame : (before ++ job :: after).get i = job := by simp [hi]
      rw [hsame, herror'] at herror
      refine ⟨by rw [Except.error.inj herror], fun job' hjob' => ?_⟩
      obtain ⟨j, hj, rfl⟩ := List.mem_iff_getElem.1 hjob'
      have hwritten := (hbefore ⟨j, by simp; omega⟩ (Fin.lt_def.2 (by simpa [hi] using hj))).2
      simpa [List.getElem_append_left hj] using hwritten

/-- What a job changes is among what the others put up with. -/
theorem compatible (w : Workspace) (options : Options) (jobs : List Job) :
    Pool.Compatible
      (fun i => Changes (OtherMakes w options jobs i) (OtherOpens w options jobs i))
      (fun i => Changes (Job.Makes w options (jobs.get i)) (Job.Opens w options (jobs.get i))) where
  refl _ d := .refl d
  trans _ _ _ _ := .trans
  others i _ _ _ hij hchanges :=
    hchanges.mono (fun _ hmakes => ⟨i, hij, hmakes⟩) fun _ hopens => ⟨i, hij, hopens⟩

/-- What is known of a batch of independent jobs from the start. -/
theorem Independent.invariant (h : Independent w options jobs (OtherMakes w options jobs)) :
    Pool.Invariant (scripts w options jobs)
      (fun i => Changes (OtherMakes w options jobs i) (OtherOpens w options jobs i))
      (fun i => Changes (Job.Makes w options (jobs.get i)) (Job.Opens w options (jobs.get i)))
      (fun i => (Job.run w options (jobs.get i)).outcome.result)
      (fun i => Job.Written w options (jobs.get i)) (Pool.initial w.disk) :=
  .initial fun i => (h.undisturbed i).sure

/-- **Independent jobs under every schedule.** On any number of workers, in whatever order the jobs
make their accesses, the batch comes to its end, and what it reports and what it has written agrees
with what each job does alone. -/
theorem inevitably_agrees {workers : Nat} (hworkers : 0 < workers)
    (h : Independent w options jobs (OtherMakes w options jobs)) :
    Pool.Inevitably (Pool.Step workers (scripts w options jobs))
      (fun s => ∃ report, s.stage = .returned report ∧ Agrees w options jobs report s.disk)
      (Pool.initial w.disk) := by
  have hpool := h.invariant.inevitably_returned (compatible w options jobs) hworkers
  refine hpool.mono fun s hs => ?_
  obtain ⟨report, hreport, hagrees⟩ := hs
  exact ⟨report, hreport, agrees_of_pool hagrees⟩

end Batch

namespace CopiedPages

/-- Options with nothing to fill in. -/
def bare : Options where
  data := []
  marker := "build".toList
  delimiters := ⟨Pattern.braced, none⟩

/-- Two pages of a letter each. -/
def site : Workspace where
  settings := {}
  disk := ⟨[(["a.html".toList], .file [120]), (["b.html".toList], .file [121])], []⟩

/-- The job that copies the page `name` to a folder that is not there yet. -/
def copy (name : Text) : Job := ⟨⟨[], [name]⟩, ⟨[], ["out".toList, name]⟩⟩

section

variable {w : Workspace} {file resolved : Path} {c : Char} {places : Place → Prop}

/-- The context of a page. -/
def pageContext (file resolved : Path) : Context where
  options := bare
  registry := .initial
  includeStack := [resolved.toText]
  base := resolved.parent
  file := some file

theorem top_bare (hresolve : w.disk.resolve file = .ok resolved) :
    Context.top w.disk bare .initial (some file) = .ok (pageContext file resolved) := by
  rw [Context.top, hresolve]
  rfl

theorem renderPage_letter (hpage : Element.ofPage bare.marker 0 [c] = .ok [.char c]) :
    Program.renderPage w.settings (pageContext file resolved) 0 [c] = pure [c] := by
  have hmarker : (pageContext file resolved).options.marker = bare.marker := rfl
  rw [Program.renderPage, hmarker, hpage]
  rfl

/-- A page of a letter that is neither a marker nor a placeholder. -/
theorem alone_processFile (htext : w.disk.readText w.settings.encoding file = .ok [c])
    (hresolve : w.disk.resolve file = .ok resolved)
    (hpage : Element.ofPage bare.marker 0 [c] = .ok [.char c])
    (hfill : (interpolate bare.delimiters.toList false (some file.toText) (.mapping []) [c]).result =
      .ok [c]) :
    (Program.processFile w.settings bare file).alone w.disk = (.ok [c], w.disk) := by
  have hread := (Program.Gives.readText w.settings.encoding file).alone w.disk
  have htop := (Program.gives_top bare .initial file).alone w.disk
  rw [htext] at hread
  rw [top_bare hresolve] at htop
  refine (Program.alone_bind_of_ok hread).trans ((Program.alone_bind_of_ok rfl).trans
    ((Program.alone_bind_of_ok htop).trans ?_))
  rw [renderPage_letter hpage]
  exact congrArg (Prod.mk · w.disk) hfill

/-- It is all that is looked at. -/
theorem avoids_processFile (htext : w.disk.readText w.settings.encoding file = .ok [c])
    (hresolve : w.disk.resolve file = .ok resolved)
    (hpage : Element.ofPage bare.marker 0 [c] = .ok [.char c])
    (hfile : ∃ loc, w.disk.locate file = .ok loc ∧ ¬ places loc.place)
    (hresolved : ∃ loc, w.disk.locate (.absolute (w.disk.resolvePlace file)) = .ok loc) :
    (Program.processFile w.settings bare file).Avoids places w.disk := by
  have hread := (Program.Gives.readText w.settings.encoding file).alone w.disk
  have htop := (Program.gives_top bare .initial file).alone w.disk
  rw [htext] at hread
  rw [top_bare hresolve] at htop
  -- the page is looked up twice: for the stack of files and for its folder
  have hlooks : (Program.top bare .initial file).Avoids places w.disk := by
    refine Script.Avoids.bind ⟨hresolved, trivial⟩ ?_
    rw [(Program.Gives.resolve file).alone, hresolve]
    refine Script.Avoids.bind ⟨hresolved, trivial⟩ ?_
    rw [(Program.Gives.resolve file).alone, hresolve]
    trivial
  refine Script.Avoids.bind ⟨hfile, trivial⟩ ?_
  rw [hread]
  refine Script.Avoids.bind trivial (Script.Avoids.bind hlooks ?_)
  rw [htop]
  show (Program.bind (Program.renderPage _ _ _ _) _ : Program Text).Avoids places w.disk
  rw [renderPage_letter hpage]
  trivial

end

/-- The disk with the folder to which pages are copied. -/
def withFolder : Disk := ⟨site.disk.entries ++ [(["out".toList], .folder)], []⟩

/-- The disk after a page has been copied. -/
def copied (name : Text) (content : Bytes) : Disk :=
  ⟨site.disk.entries ++ [(["out".toList], .folder), (["out".toList, name], .file content)], []⟩

theorem buildFolder_out :
    site.disk.buildFolder ⟨[], ["out".toList]⟩ = (withFolder, .ok ()) := by
  have hlast : site.disk.locateLast ⟨[], ["out".toList]⟩ = .ok (.absent ["out".toList]) :=
    locateBy_eq_ok_iff.2 ⟨by decide, .last ⟨rfl, by decide, by decide, by decide⟩ fun _ _ => nofun⟩
  exact buildFolder_of_absent rfl hlast

/-- The page `name` of the site is the letter `c`, which is neither a marker nor a placeholder, and
none of the paths that copying it takes is too long. -/
structure Copies (name : Text) (c : Char) (content : Bytes) : Prop where
  file : site.disk.lookup? [name] = some (.file content)
  looks : LooksFor site.disk [] name
  allowed : name.any isBarred = false
  shortInput : ¬ maxPathBytes < (Utf8.encode (copy name).input.toText).length
  shortResolved : ¬ maxPathBytes < (Utf8.encode (Path.absolute [name]).toText).length
  shortOutput : ¬ maxPathBytes < (Utf8.encode (copy name).output.toText).length
  decoded : Codec.utf8.decode content = .ok [c]
  encoded : Codec.utf8.encode [c] = .ok content
  unified : Text.unifyNewlines [c] = [c]
  lex : Lexeme.lex bare.marker [c] = [.char c]
  cut : Segment.cut bare.delimiters.toList [c] = [.text [c]]

theorem copies_a : Copies "a.html".toList 'x' [120] where
  file := rfl
  looks := ⟨rfl, by decide, by decide, by decide⟩
  allowed := rfl
  shortInput := by decide
  shortResolved := by decide
  shortOutput := by decide
  decoded := rfl
  encoded := rfl
  unified := rfl
  lex := by decide +kernel
  cut := by decide +kernel

theorem copies_b : Copies "b.html".toList 'y' [121] where
  file := rfl
  looks := ⟨rfl, by decide, by decide, by decide⟩
  allowed := rfl
  shortInput := by decide
  shortResolved := by decide
  shortOutput := by decide
  decoded := rfl
  encoded := rfl
  unified := rfl
  lex := by decide +kernel
  cut := by decide +kernel

namespace Copies

variable {name name' : Text} {c c' : Char} {content content' : Bytes} {place : Place}

/-! ### What is read and looked up -/

theorem located (h : Copies name c content) :
    site.disk.locate (copy name).input = .ok (.present [name] (.file content)) :=
  locateBy_eq_ok_iff.2 ⟨h.shortInput, .last_at h.looks h.file fun _ => nofun⟩

theorem located_resolved (h : Copies name c content) :
    site.disk.locate (.absolute [name]) = .ok (.present [name] (.file content)) :=
  locateBy_eq_ok_iff.2 ⟨h.shortResolved, .last_at h.looks h.file fun _ => nofun⟩

theorem not_barred (h : Copies name c content) : hasBarred (copy name).input = false := by
  simp [hasBarred, copy, h.allowed]

theorem text (h : Copies name c content) :
    site.disk.readText site.settings.encoding (copy name).input = .ok [c] := by
  have hread := readBytes_of_locate h.not_barred h.located
  rw [readText_of_readBytes .utf8 hread rfl, h.decoded]
  exact congrArg Except.ok h.unified

theorem resolvePlace (h : Copies name c content) :
    site.disk.resolvePlace (copy name).input = [name] :=
  resolvePlace_of_name rfl h.looks.up fun target hlink => by
    cases h.file.symm.trans hlink

theorem resolved (h : Copies name c content) :
    site.disk.resolve (copy name).input = .ok (.absolute [name]) :=
  resolve_of_locate h.not_barred h.resolvePlace h.located_resolved

theorem there (h : Copies name c content) :
    ∃ loc, site.disk.locate (.absolute (site.disk.resolvePlace (copy name).input)) = .ok loc :=
  ⟨_, h.resolvePlace ▸ h.located_resolved⟩

theorem page (h : Copies name c content) : Element.ofPage bare.marker 0 [c] = .ok [.char c] := by
  rw [Element.ofPage, h.lex]
  rfl

theorem filled (h : Copies name c content) (file : Option Text) :
    (interpolate bare.delimiters.toList false file (.mapping []) [c]).result = .ok [c] := by
  rw [interpolate, h.cut]
  rfl

/-! ### What is made and written -/

theorem built (_ : Copies name c content) :
    site.disk.buildFolder (copy name).output.parent = (withFolder, .ok ()) := buildFolder_out

theorem opened (h : Copies name c content) :
    withFolder.writable (copy name).output = .ok ["out".toList, name] := by
  have hlooks : LooksFor withFolder ["out".toList] name :=
    ⟨rfl, h.looks.dot, h.looks.up, h.looks.short⟩
  have hlocate : withFolder.locate (copy name).output = .ok (.absent ["out".toList, name]) :=
    locateBy_eq_ok_iff.2 ⟨h.shortOutput, .folder ⟨rfl, by decide, by decide, by decide⟩ rfl
      (List.cons_ne_nil _ _) (.last hlooks fun _ _ => nofun)⟩
  have hbarred : hasBarred (copy name).output = false := by
    simp [hasBarred, copy, h.allowed]
    decide
  rw [writable, hbarred, hlocate]
  rfl

theorem written (h : Copies name c content) :
    withFolder.writeText site.settings.encoding (copy name).output [c] =
      (copied name content, .ok ()) := by
  have hcodec : site.settings.encoding.codec = .ok .utf8 := rfl
  simp only [writeText, h.opened, hcodec, h.encoded]
  rfl

/-! ### What becomes of the jobs -/

theorem result_processFile (h : Copies name c content) :
    (Page.processFile site bare (copy name).input).result = .ok [c] := by
  have hgives := (Program.gives_processFile site.settings bare (copy name).input).alone site.disk
  rw [alone_processFile h.text h.resolved h.page (h.filled _)] at hgives
  exact (congrArg Prod.fst hgives).symm

theorem disk_run (h : Copies name c content) :
    (Job.run site bare (copy name)).disk = copied name content := by
  simp only [Job.run, h.result_processFile, Job.write, h.built, h.written]

theorem result_run (h : Copies name c content) :
    (Job.run site bare (copy name)).outcome.result = .ok (copy name).output := by
  simp only [Job.run, h.result_processFile, Job.write, h.built, h.written]
  rfl

theorem opens (h : Copies name c content) (hopens : Job.Opens site bare (copy name) place) :
    place = ["out".toList, name] := by
  obtain ⟨-, hbuilt, hopen⟩ := hopens
  rw [h.built] at hbuilt
  cases hbuilt
  rw [h.opened] at hopen
  exact (Except.ok.inj hopen).symm

/-- Two pages are copied to different places, and none to a folder of the other. -/
theorem apart (h : Copies name c content) (h' : Copies name' c' content') (hne : name ≠ name')
    (hopens : Job.Opens site bare (copy name) place) :
    ¬ Job.Opens site bare (copy name') place ∧ ¬ Job.Makes site bare (copy name') place := by
  obtain rfl := h.opens hopens
  refine ⟨fun hopens' => ?_, fun hmakes => ?_⟩
  · have heq := h'.opens hopens'
    simp [hne] at heq
  · have hname : (name == name') = false := beq_eq_false_iff_ne.2 hne
    rw [Job.Makes, h'.disk_run] at hmakes
    simp [copied, site, lookup?, List.lookup_cons, hname] at hmakes

/-- A page is not where the other is copied, nor a folder. -/
theorem untouched (h : Copies name c content) (h' : Copies name' c' content') :
    ¬ Job.Opens site bare (copy name') [name] ∧ ¬ Job.Makes site bare (copy name') [name] := by
  refine ⟨fun hopens' => ?_, fun hmakes => ?_⟩
  · have heq := h'.opens hopens'
    simp at heq
  · rw [Job.Makes, h'.disk_run] at hmakes
    have hfile : site.disk.entries.lookup [name] = some (.file content) := h.file
    simp [copied, lookup?, List.lookup_append, hfile] at hmakes

/-- Copying a page ignores what copying the other does. -/
theorem ignores (h : Copies name c content) {makes opens : Place → Prop}
    (hopens : ∀ place, opens place → Plain site.disk place)
    (hplace : ¬ makes [name] ∧ ¬ opens [name]) :
    (Program.processFile site.settings bare (copy name).input).Ignores (Changes makes opens)
      site.disk :=
  (avoids_processFile h.text h.resolved h.page
    ⟨_, h.located, fun hor => hor.elim hplace.1 hplace.2⟩ h.there).ignores (reached_root _) hopens

theorem openOutput (h : Copies name c content) :
    ((Program.openOutput (copy name).output).alone site.disk).1 = .ok ["out".toList, name] := by
  rw [Program.alone_openOutput_of_built h.built, h.opened]

end Copies

/-- The jobs that copy the two pages. -/
def copies : List Job := [copy "a.html".toList, copy "b.html".toList]

/-- What holds between the two jobs, either way round. -/
theorem between_copies {P : Job → Job → Prop}
    (hab : P (copy "a.html".toList) (copy "b.html".toList))
    (hba : P (copy "b.html".toList) (copy "a.html".toList)) (i j : Fin copies.length) (hj : j ≠ i) :
    P (copies.get i) (copies.get j) := by
  have hall : ∀ i j : Fin 2, j ≠ i → P (copies.get i) (copies.get j) :=
    Fin.forall_fin_two.2 ⟨Fin.forall_fin_two.2 ⟨fun h => absurd rfl h, fun _ => hab⟩,
      Fin.forall_fin_two.2 ⟨fun _ => hba, fun h => absurd rfl h⟩⟩
  exact hall i j hj

theorem exists_copies (i : Fin copies.length) :
    ∃ name c content, Copies name c content ∧ (copies.get i) = copy name := by
  have hall : ∀ i : Fin 2, ∃ name c content, Copies name c content ∧ (copies.get i) = copy name :=
    Fin.forall_fin_two.2 ⟨⟨_, _, _, copies_a, rfl⟩, ⟨_, _, _, copies_b, rfl⟩⟩
  exact hall i

theorem independent_copies :
    Batch.Independent site bare copies (Batch.OtherMakes site bare copies) where
  here := reached_root _
  -- there are two jobs, so what holds between two of them is shown once in either order
  distinct i place hopens := by
    rintro ⟨j, hj, hopens'⟩
    exact between_copies
      (P := fun job job' => Job.Opens site bare job place → ¬ Job.Opens site bare job' place)
      (fun h => (copies_a.apart copies_b (by decide) h).1)
      (fun h => (copies_b.apart copies_a (by decide) h).1) i j hj hopens hopens'
  apart i place hopens := by
    rintro ⟨j, hj, hmakes⟩
    exact between_copies
      (P := fun job job' => Job.Opens site bare job place → ¬ Job.Makes site bare job' place)
      (fun h => (copies_a.apart copies_b (by decide) h).2)
      (fun h => (copies_b.apart copies_a (by decide) h).2) i j hj hopens hmakes
  page i := by
    obtain ⟨name, c, content, h, hi⟩ := exists_copies i
    rw [hi]
    -- the page is read from a file that no job writes
    refine h.ignores (fun place hopens => ?_) ⟨?_, ?_⟩
    · obtain ⟨j, -, hopens⟩ := hopens
      exact hopens.plain
    · rintro ⟨j, -, hmakes⟩
      obtain ⟨name', c', content', h', hj⟩ := exists_copies j
      exact (h.untouched h').2 (hj ▸ hmakes)
    · rintro ⟨j, -, hopens⟩
      obtain ⟨name', c', content', h', hj⟩ := exists_copies j
      exact (h.untouched h').1 (hj ▸ hopens)
  refused i e herror := by
    obtain ⟨name, c, content, h, hi⟩ := exists_copies i
    rw [hi, h.openOutput] at herror
    cases herror

end CopiedPages

/-- Two pages copied to one folder by two workers. -/
theorem Batch.inevitably_agrees_of_copies :
    Independent CopiedPages.site CopiedPages.bare CopiedPages.copies
        (OtherMakes CopiedPages.site CopiedPages.bare CopiedPages.copies) ∧
      Pool.Inevitably (Pool.Step 2 (scripts CopiedPages.site CopiedPages.bare CopiedPages.copies))
      (fun s => ∃ report, s.stage = .returned report ∧
        Agrees CopiedPages.site CopiedPages.bare CopiedPages.copies report s.disk)
      (Pool.initial CopiedPages.site.disk) :=
  ⟨CopiedPages.independent_copies, inevitably_agrees (by decide) CopiedPages.independent_copies⟩

namespace Detour

open CopiedPages

/-- The job that reads its page by way of a folder that another job makes. -/
def detour : Job := ⟨⟨[], ["out".toList, ['.', '.'], "b.html".toList]⟩, ⟨[], ["c.html".toList]⟩⟩

/-- The two pages where the second is read by way of the folder that the first one is copied to. -/
def detours : List Job := [copy "a.html".toList, detour]

/-- Why the page is not read as long as the folder is missing. -/
def noFolder : Failure := .refused .notFound "out/../b.html".toList

/-- The site once the first page has been copied. -/
def siteCopied : Workspace := { site with disk := copied "a.html".toList [120] }

/-- The page of the second job is not found as long as the folder is missing. -/
theorem readBytes_detour {disk : Disk} (hhere : disk.here = [])
    (hnone : disk.lookup? ["out".toList] = none) :
    disk.readBytes detour.input = .error noFolder := by
  have hstart : disk.start detour.input = [] := by
    rw [start, if_neg (by decide), hhere]
  have hlooks : LooksFor disk [] "out".toList := ⟨rfl, by decide, by decide, by decide⟩
  have hwalk : disk.walk true maxLinks [] detour.input.parts = .error .notFound := by
    rw [detour, hlooks.walk_cons, List.nil_append, hnone]
    rfl
  have hlocate : disk.locate detour.input = .error .notFound := by
    rw [locate, locateBy, hstart, hwalk]
    exact if_neg (by decide)
  rw [readBytes, if_neg (by decide), hlocate]
  rfl

theorem readText_detour :
    site.disk.readText site.settings.encoding detour.input = .error noFolder := by
  rw [readText, readBytes_detour rfl rfl]
  rfl

theorem result_processFile_detour :
    (Page.processFile site bare detour.input).result = .error noFolder := by
  simp only [Page.processFile, Outcome.result_bind, Outcome.result_ofExcept, readText_detour]
  rfl

theorem result_run_detour : (Job.run site bare detour).outcome.result = .error noFolder := by
  simp only [Job.run, result_processFile_detour]

theorem disk_run_detour : (Job.run site bare detour).disk = site.disk := by
  simp only [Job.run, result_processFile_detour]

theorem not_opens_detour {place : Place} : ¬ Job.Opens site bare detour place := by
  rintro ⟨hpage, -, -⟩
  rw [result_processFile_detour] at hpage
  cases hpage

theorem locate_detour : siteCopied.disk.locate detour.input =
    .ok (.present ["b.html".toList] (.file [121])) :=
  locateBy_eq_ok_iff.2 ⟨by decide, .folder ⟨rfl, by decide, by decide, by decide⟩ rfl
    (List.cons_ne_nil _ _) (.up rfl
      (.last_at ⟨rfl, by decide, by decide, by decide⟩ rfl fun _ => nofun))⟩

theorem locate_page : siteCopied.disk.locate (.absolute ["b.html".toList]) =
    .ok (.present ["b.html".toList] (.file [121])) :=
  locateBy_eq_ok_iff.2
    ⟨by decide, .last_at ⟨rfl, by decide, by decide, by decide⟩ rfl fun _ => nofun⟩

theorem siteCopied_not_link {place : Place} (target : Text) :
    siteCopied.disk.lookup? place ≠ some (.link target) := by
  intro h
  have hmem := mem_entries_of_lookup? h Entry.noConfusion
  simp [siteCopied, copied, site] at hmem

theorem resolve_detour :
    siteCopied.disk.resolve detour.input = .ok (.absolute ["b.html".toList]) := by
  have hplace : siteCopied.disk.resolvePlace detour.input = ["b.html".toList] := by
    show siteCopied.disk.expand [] [] []
      [.name "out".toList, .name ['.', '.'], .name "b.html".toList] = _
    rw [expand_name_of_not_link (by decide) siteCopied_not_link, expand_up,
      expand_name_of_not_link (by decide) siteCopied_not_link, expand]
    rfl
  exact resolve_of_locate rfl hplace locate_page

/-- After the first page has been copied, the folder is there. -/
theorem result_run_detour_of_copied :
    (Job.run siteCopied bare detour).outcome.result = .ok detour.output := by
  have htext : siteCopied.disk.readText siteCopied.settings.encoding detour.input = .ok ['y'] := by
    rw [readText_of_readBytes .utf8 (readBytes_of_locate rfl locate_detour) rfl]
    rfl
  have hhere : siteCopied.disk.locate detour.output.parent = .ok (.present [] .folder) :=
    locateBy_eq_ok_iff.2 ⟨by decide, .arrived_at rfl⟩
  have hbuilt := buildFolder_of_locate rfl hhere
  have houtput : siteCopied.disk.locate detour.output = .ok (.absent ["c.html".toList]) :=
    locateBy_eq_ok_iff.2 ⟨by decide, .last ⟨rfl, by decide, by decide, by decide⟩ fun _ _ => nofun⟩
  have hwrite : (siteCopied.disk.writeText siteCopied.settings.encoding detour.output ['y']).2 =
      .ok () := by
    have hopen : siteCopied.disk.writable detour.output = .ok ["c.html".toList] := by
      rw [writable, houtput]
      rfl
    have hcodec : siteCopied.settings.encoding.codec = .ok .utf8 := rfl
    simp only [writeText, hopen, hcodec, copies_b.encoded]
  have hgives := (Program.gives_processFile siteCopied.settings bare detour.input).alone
    siteCopied.disk
  rw [alone_processFile htext resolve_detour copies_b.page (copies_b.filled _)] at hgives
  have hpage : (Page.processFile siteCopied bare detour.input).result = .ok ['y'] :=
    (congrArg Prod.fst hgives).symm
  simp only [Job.run, hpage, Job.write, hbuilt]
  rw [Outcome.result_bind, Outcome.result_ofExcept, hwrite]
  rfl

/-- Copied after the first page, the second is copied as well. -/
theorem result_runAll_detours : (Job.runAll site bare detours).outcome.result =
    .ok (detours.map Job.output) := by
  have hdisk : { site with disk := (Job.run site bare (copy "a.html".toList)).disk } =
      siteCopied := by
    rw [copies_a.disk_run, siteCopied]
  have hrest : (Job.runAll siteCopied bare [detour]).outcome.result = .ok [detour.output] := by
    rw [Job.runAll]
    simp only [result_run_detour_of_copied, Job.runAll, Outcome.result_bind, Outcome.result_pure]
    rfl
  rw [detours, Job.runAll]
  simp only [copies_a.result_run, hdisk, Outcome.result_bind, hrest]
  rfl

theorem ignores_detour {opens : Place → Prop} (hopens : ¬ opens ["out".toList]) :
    (Program.processFile site.settings bare detour.input).Ignores (Changes (fun _ => False) opens)
      site.disk := by
  have hread : site.disk.readBytes detour.input = .error noFolder := readBytes_detour rfl rfl
  refine Script.ignores_bind_iff.2 ⟨⟨fun d hd => ?_, trivial⟩, ?_⟩
  · have hnone : d.lookup? ["out".toList] = none := hd.lookup?_eq id hopens
    rw [Access.effect, Access.effect, readBytes_detour hd.here hnone, hread]
  · rw [(Program.Gives.readText _ _).alone, readText_detour]
    trivial

/-- Only the first of the jobs opens its output alone. -/
theorem opens_detours {place : Place} (i : Fin detours.length)
    (h : Job.Opens site bare (detours.get i) place) :
    i = ⟨0, Nat.zero_lt_two⟩ ∧ place = ["out".toList, "a.html".toList] := by
  have hall : ∀ i : Fin 2, Job.Opens site bare (detours.get i) place →
      i = 0 ∧ place = ["out".toList, "a.html".toList] :=
    Fin.forall_fin_two.2 ⟨fun h => ⟨rfl, copies_a.opens h⟩, fun h => absurd h not_opens_detour⟩
  exact hall i h

theorem openOutput_detours (i : Fin detours.length) :
    ∃ place, ((Program.openOutput (detours.get i).output).alone site.disk).1 = .ok place := by
  have hhere : site.disk.locate detour.output.parent = .ok (.present [] .folder) :=
    locateBy_eq_ok_iff.2 ⟨by decide, .arrived_at rfl⟩
  have hbuilt := buildFolder_of_locate rfl hhere
  have houtput : site.disk.locate detour.output = .ok (.absent ["c.html".toList]) :=
    locateBy_eq_ok_iff.2 ⟨by decide, .last ⟨rfl, by decide, by decide, by decide⟩ fun _ _ => nofun⟩
  have hopen : site.disk.writable detour.output = .ok ["c.html".toList] := by
    rw [writable, houtput]
    rfl
  have hall : ∀ i : Fin 2,
      ∃ place, ((Program.openOutput (detours.get i).output).alone site.disk).1 = .ok place :=
    Fin.forall_fin_two.2 ⟨⟨_, copies_a.openOutput⟩,
      ⟨_, (congrArg Prod.fst (Program.alone_openOutput_of_built hbuilt)).trans hopen⟩⟩
  exact hall i

/-- The jobs are independent but for the folders that they make. -/
theorem independent_detours : Batch.Independent site bare detours (fun _ _ => False) where
  here := reached_root _
  distinct i place hopens := by
    rintro ⟨j, hj, hopens'⟩
    exact hj ((opens_detours j hopens').1.trans (opens_detours i hopens).1.symm)
  apart i place hopens := by
    rintro ⟨j, hj, hmakes⟩
    obtain ⟨rfl, rfl⟩ := opens_detours i hopens
    -- only the second job is left, and it makes no folder there
    have hall : ∀ j : Fin 2, j ≠ 0 →
        ¬ Job.Makes site bare (detours.get j) ["out".toList, "a.html".toList] :=
      Fin.forall_fin_two.2 ⟨fun h => absurd rfl h, fun _ hmakes => by
        have hfolder : (Job.run site bare detour).disk.lookup? ["out".toList, "a.html".toList] =
          some .folder := hmakes
        rw [disk_run_detour] at hfolder
        revert hfolder
        decide⟩
    exact hall j hj hmakes
  page i := by
    have hopens : ∀ place, Batch.OtherOpens site bare detours i place → Plain site.disk place := by
      rintro place ⟨j, -, hopens⟩
      exact hopens.plain
    have hother (place : Place) (hne : place ≠ ["out".toList, "a.html".toList]) :
        ¬ Batch.OtherOpens site bare detours i place := by
      rintro ⟨j, -, hopens⟩
      exact hne (opens_detours j hopens).2
    have hall : ∀ k : Fin 2, (Program.processFile site.settings bare (detours.get k).input).Ignores
        (Changes (fun _ => False) (Batch.OtherOpens site bare detours i)) site.disk :=
      Fin.forall_fin_two.2 ⟨copies_a.ignores hopens ⟨id, hother _ (by decide)⟩,
        ignores_detour (hother _ (by decide))⟩
    exact hall i
  refused i e herror := by
    obtain ⟨place, hok⟩ := openOutput_detours i
    rw [hok] at herror
    cases herror

end Detour

/-- Jobs that are independent but for the folders that they make need not do in a batch what they do
alone: the second one fails alone, but not after the first one. -/
theorem Batch.exists_schedule_that_disagrees :
    Independent CopiedPages.site CopiedPages.bare Detour.detours (fun _ _ => False) ∧
      ∃ s, Pool.Reaches 1 (scripts CopiedPages.site CopiedPages.bare Detour.detours)
          (Pool.initial CopiedPages.site.disk) s ∧
        ∃ report, s.stage = .returned report ∧
          ¬ Agrees CopiedPages.site CopiedPages.bare Detour.detours report s.disk := by
  refine ⟨Detour.independent_detours, ?_⟩
  obtain ⟨s, hreaches, -, hreturned⟩ :=
    reaches_runAll CopiedPages.site CopiedPages.bare Detour.detours Nat.one_pos
  refine ⟨s, hreaches, _, hreturned, fun hagrees => ?_⟩
  have hfailed := (hagrees.failed [CopiedPages.copy "a.html".toList] Detour.detour []
    Detour.noFolder rfl (fun job hjob => ?_) Detour.result_run_detour).1
  · rw [Detour.result_runAll_detours] at hfailed
    cases hfailed
  · rw [List.mem_singleton.1 hjob]
    exact ⟨_, CopiedPages.copies_a.result_run⟩

end BuildBlocks
