import BuildBlocks.Proofs.BracedPattern
import BuildBlocks.Proofs.DiskAccess
import BuildBlocks.Proofs.DiskGrowth
import BuildBlocks.Proofs.TreeRendering

/-!
# What a failed job leaves behind

A job fails before anything is written, while folders are made, while its output is opened, or when
its page turns out not to have an encoding. Only the last is seen in the files: the output was opened
by then, so an empty file stands where it leads to (`fileAt?_run_of_error`).

## The architecture

* **`Ends`** lists the ways in which a job ends, with all that is left on the disk, and `ends` says
  that there are no others.
* **`Spoils`**: the place of the output of a job whose page has no encoding.
-/

namespace BuildBlocks

/-- A page that can be processed was read in an encoding that has a codec. -/
theorem Page.exists_codec_of_processFile {w : Workspace} {options : Options} {file : Path}
    {page : Text} (h : (processFile w options file).result = .ok page) :
    ∃ codec, w.settings.encoding.codec = .ok codec := by
  simp only [processFile, Outcome.result_bind, Outcome.result_ofExcept] at h
  obtain ⟨s, hs, -⟩ := bind_eq_ok_iff.1 h
  obtain ⟨content, -, hdecode⟩ := bind_eq_ok_iff.1 hs
  obtain ⟨codec, hcodec, -⟩ := bind_eq_ok_iff.1 hdecode
  exact ⟨codec, hcodec⟩

namespace Job

variable {w : Workspace} {options : Options} {job : Job}

/-- How a job ends: the disk it leaves and its result. -/
inductive Ends (w : Workspace) (options : Options) (job : Job) : Disk → Except Failure Path → Prop
  /-- The input is not processed. -/
  | unprocessed {e : Failure} (hpage : (Page.processFile w options job.input).result = .error e) :
      Ends w options job w.disk (.error e)
  /-- The folder of the output is not there and cannot be made. -/
  | blocked {page : Text} {built : Disk} {e : Failure}
      (hpage : (Page.processFile w options job.input).result = .ok page)
      (hbuilt : w.disk.buildFolder job.output.parent = (built, .error e)) :
      Ends w options job built (.error e)
  /-- The output is not opened. -/
  | unopened {page : Text} {built : Disk} {e : Failure}
      (hpage : (Page.processFile w options job.input).result = .ok page)
      (hbuilt : w.disk.buildFolder job.output.parent = (built, .ok ()))
      (hopen : built.writable job.output = .error e) : Ends w options job built (.error e)
  /-- The page has no encoding. -/
  | unencoded {page : Text} {built : Disk} {place : Place} {codec : Codec} {why : EncodeError}
      (hpage : (Page.processFile w options job.input).result = .ok page)
      (hbuilt : w.disk.buildFolder job.output.parent = (built, .ok ()))
      (hopen : built.writable job.output = .ok place)
      (hcodec : w.settings.encoding.codec = .ok codec)
      (hencode : codec.encode page = .error why) :
      Ends w options job (built.set place (.file [])) (.error (.unencodable why))
  /-- The output is written. -/
  | written {page : Text} {built : Disk} {place : Place} {codec : Codec} {bytes : Bytes}
      (hpage : (Page.processFile w options job.input).result = .ok page)
      (hbuilt : w.disk.buildFolder job.output.parent = (built, .ok ()))
      (hopen : built.writable job.output = .ok place)
      (hcodec : w.settings.encoding.codec = .ok codec)
      (hencode : codec.encode page = .ok bytes) :
      Ends w options job (built.set place (.file bytes)) (.ok job.output)

/-- A job ends in one of these ways. -/
theorem ends (w : Workspace) (options : Options) (job : Job) :
    Ends w options job (run w options job).disk (run w options job).outcome.result := by
  cases hpage : (Page.processFile w options job.input).result with
  | error e =>
    simp only [run, hpage]
    exact .unprocessed hpage
  | ok page =>
    rcases hbuilt : w.disk.buildFolder job.output.parent with ⟨built, e | _⟩
    · simp only [run, hpage, write, hbuilt]
      exact .blocked hpage hbuilt
    · cases hopen : built.writable job.output with
      | error e =>
        simp only [run, hpage, write, hbuilt, Disk.writeText, hopen]
        exact .unopened hpage hbuilt hopen
      | ok place =>
        obtain ⟨codec, hcodec⟩ := Page.exists_codec_of_processFile hpage
        cases hencode : codec.encode page with
        | error why =>
          simp only [run, hpage, write, hbuilt, Disk.writeText, hopen, hcodec, hencode]
          exact .unencoded hpage hbuilt hopen hcodec hencode
        | ok bytes =>
          simp only [run, hpage, write, hbuilt, Disk.writeText, hopen, hcodec, hencode]
          exact .written hpage hbuilt hopen hcodec hencode

/-- The output of the job leads to `place` and is opened there, but the page has no encoding. -/
inductive Spoils (w : Workspace) (options : Options) (job : Job) : Place → Failure → Prop
  | intro {page : Text} {built : Disk} {place : Place} {codec : Codec} {why : EncodeError}
      (hpage : (Page.processFile w options job.input).result = .ok page)
      (hbuilt : w.disk.buildFolder job.output.parent = (built, .ok ()))
      (hopen : built.writable job.output = .ok place)
      (hcodec : w.settings.encoding.codec = .ok codec)
      (hencode : codec.encode page = .error why) :
      Spoils w options job place (.unencodable why)

theorem Spoils.result_run {place : Place} {e : Failure} (h : Spoils w options job place e) :
    (run w options job).outcome.result = .error e := by
  cases h with
  | intro hpage hbuilt hopen hcodec hencode =>
    simp only [run, hpage, write, hbuilt, Disk.writeText, hopen, hcodec, hencode]
    rfl

/-- The output of such a job is an empty file. -/
theorem Spoils.fileAt?_run {place : Place} {e : Failure} (h : Spoils w options job place e) :
    (run w options job).disk.fileAt? place = some (.file []) := by
  cases h with
  | intro hpage hbuilt hopen hcodec hencode =>
    simp only [run, hpage, write, hbuilt, Disk.writeText, hopen, hcodec, hencode]
    rw [Disk.fileAt?, Disk.lookup?_set _ _ _ _ (Disk.ne_nil_of_writable hopen), if_pos rfl]
    rfl

/-- **The files after a job that fails** are those before it, except that the output is an empty file
if the page has no encoding. -/
theorem fileAt?_run_of_error {e : Failure} (h : (run w options job).outcome.result = .error e) :
    (∀ place, ¬ Spoils w options job place e →
      (run w options job).disk.fileAt? place = w.disk.fileAt? place) ∧
    ∀ place, Spoils w options job place e →
      (run w options job).disk.fileAt? place = some (.file []) := by
  refine ⟨fun place hnot => ?_, fun place hspoils => hspoils.fileAt?_run⟩
  have hends := ends w options job
  rw [h] at hends
  generalize (run w options job).disk = left at hends
  have hgrows := Disk.grows_buildFolder w.disk job.output.parent
  cases hends with
  | unprocessed => rfl
  | blocked _ hbuilt | unopened _ hbuilt =>
    rw [hbuilt] at hgrows
    exact hgrows.fileAt?_eq place
  | @unencoded page built opened encoding why hpage hbuilt hopen hcodec hencode =>
    rw [hbuilt] at hgrows
    have hother : place ≠ opened := fun heq =>
      hnot (heq ▸ .intro hpage hbuilt hopen hcodec hencode)
    rw [← hgrows.fileAt?_eq place, Disk.fileAt?,
      Disk.lookup?_set _ _ _ _ (Disk.ne_nil_of_writable hopen), if_neg hother]
    rfl

end Job

namespace EuroInLatin

/-- Options that fill the placeholder `x` with a character that few encodings have. -/
def euro : Options where
  data := [(.text "x".toList, .text "€".toList)]
  marker := "build".toList
  delimiters := ⟨Pattern.braced, none⟩

/-- A page with that placeholder, and an older output, in a run that reads and writes latin-1. -/
def latin : Workspace where
  settings := { encoding := "latin-1".toList }
  disk := ⟨[(["i.html".toList], .file (Utf8.encode "$\x7bx\x7d".toList)),
    (["o.html".toList], .file (Utf8.encode "old".toList))], []⟩

/-- The job that processes the page. -/
def overwrite : Job := ⟨⟨[], ["i.html".toList]⟩, ⟨[], ["o.html".toList]⟩⟩

/-- Why the processed page has no encoding. -/
def noEuro : EncodeError where
  codec := "latin-1"
  char := '€'
  position := 0
  count := 1
  reason := .outOfRange 256

theorem locate_page : latin.disk.locate overwrite.input =
    .ok (.present ["i.html".toList] (.file (Utf8.encode "$\x7bx\x7d".toList))) :=
  Disk.locateBy_eq_ok_iff.2
    ⟨by decide, .last_at ⟨rfl, by decide, by decide, by decide⟩ rfl fun _ => nofun⟩

theorem locate_output : latin.disk.locate overwrite.output =
    .ok (.present ["o.html".toList] (.file (Utf8.encode "old".toList))) :=
  Disk.locateBy_eq_ok_iff.2
    ⟨by decide, .last_at ⟨rfl, by decide, by decide, by decide⟩ rfl fun _ => nofun⟩

theorem result_processFile_euro :
    (Page.processFile latin euro overwrite.input).result = .ok "€".toList := by
  have htext : latin.disk.readText latin.settings.encoding overwrite.input =
      .ok "$\x7bx\x7d".toList := by
    have hdecode : Codec.latin1.decode (Utf8.encode "$\x7bx\x7d".toList) =
        .ok "$\x7bx\x7d".toList := by
      decide
    rw [Disk.readText_of_readBytes .latin1 (Disk.readBytes_of_locate rfl locate_page) rfl,
      hdecode]
    rfl
  have htop : Context.top latin.disk euro .initial (some overwrite.input) =
      .ok ⟨euro, .initial, ["/i.html".toList], Path.absolute [], some overwrite.input, 0⟩ := by
    have hresolve : latin.disk.resolve overwrite.input = .ok (Path.absolute ["i.html".toList]) :=
      Disk.resolve_of_locate rfl (Disk.resolvePlace_of_name rfl (by decide) fun _ => nofun)
        (Disk.locateBy_eq_ok_iff.2
          ⟨by decide, .last_at ⟨rfl, by decide, by decide, by decide⟩ rfl fun _ => nofun⟩)
    have hname : (Path.absolute ["i.html".toList]).toText = "/i.html".toList := by
      decide
    rw [Context.top, hresolve, ← hname]
    rfl
  have hexpand (ctx : Context) (hctx : ctx.options = euro) :
      (Page.expand latin ctx 0 "$\x7bx\x7d".toList).result = .ok "$\x7bx\x7d".toList := by
    have hlex : Lexeme.lex euro.marker "$\x7bx\x7d".toList = "$\x7bx\x7d".toList.map .char := by
      decide +kernel
    rw [Element.result_expand_eq_renderPage, Element.renderPage, hctx, Element.ofPage, hlex]
    rfl
  have hfill (file : Option Text) :
      (interpolate euro.delimiters.toList euro.strict file (.mapping euro.data)
        "$\x7bx\x7d".toList).result = .ok "€".toList := by
    have hcut : Segment.cut euro.delimiters.toList "$\x7bx\x7d".toList =
        [.text [], .placeholder ⟨"$\x7bx\x7d".toList, "x".toList, 1, false⟩, .text []] := by
      decide +kernel
    have hvalue : Placeholder.resolve (.mapping euro.data)
        ⟨"$\x7bx\x7d".toList, "x".toList, 1, false⟩ = .ok (some "€".toList) := by
      decide +kernel
    rw [interpolate, hcut]
    simp only [Segment.fillAll, Segment.fill, Placeholder.fill, hvalue]
    rfl
  simp only [Page.processFile, Outcome.result_bind, Outcome.result_ofExcept, Outcome.result_note,
    htext, Except.bind]
  rw [Page.result_process]
  show (Context.top latin.disk euro .initial (some overwrite.input)).bind _ = _
  rw [htop]
  show (Page.expand latin _ 0 _).result.bind _ = _
  rw [hexpand _ rfl]
  exact hfill _

/-- The job empties its output. -/
theorem spoils_overwrite :
    Job.Spoils latin euro overwrite ["o.html".toList] (.unencodable noEuro) := by
  have hhere : latin.disk.locate overwrite.output.parent = .ok (.present [] .folder) :=
    Disk.locateBy_eq_ok_iff.2 ⟨by decide, .arrived_at rfl⟩
  have hbuilt := Disk.buildFolder_of_locate rfl hhere
  have hopen : latin.disk.writable overwrite.output = .ok ["o.html".toList] := by
    rw [Disk.writable, locate_output]
    rfl
  have hencode : Codec.latin1.encode "€".toList = .error noEuro := by
    rfl
  exact .intro result_processFile_euro hbuilt hopen rfl hencode

end EuroInLatin

namespace Job

/-- The job that cannot write the euro sign. -/
theorem fileAt?_run_of_error_of_euro :
    (run EuroInLatin.latin EuroInLatin.euro EuroInLatin.overwrite).outcome.result =
        .error (.unencodable EuroInLatin.noEuro) ∧
      (∀ place, ¬ Spoils EuroInLatin.latin EuroInLatin.euro EuroInLatin.overwrite place
          (.unencodable EuroInLatin.noEuro) →
        (run EuroInLatin.latin EuroInLatin.euro EuroInLatin.overwrite).disk.fileAt? place =
          EuroInLatin.latin.disk.fileAt? place) ∧
      (run EuroInLatin.latin EuroInLatin.euro EuroInLatin.overwrite).disk.fileAt? ["o.html".toList] =
        some (.file []) := by
  have hfails := EuroInLatin.spoils_overwrite.result_run
  have hfiles := fileAt?_run_of_error hfails
  exact ⟨hfails, hfiles.1, hfiles.2 _ EuroInLatin.spoils_overwrite⟩

/-- Not every job that fails leaves all files as they were: the older output is lost. -/
theorem exists_failed_job_with_lost_output :
    ¬ ∀ (w : Workspace) (options : Options) (job : Job) (e : Failure),
      (run w options job).outcome.result = .error e →
        ∀ place, (run w options job).disk.fileAt? place = w.disk.fileAt? place := by
  intro h
  have hkept := h _ _ _ _ EuroInLatin.spoils_overwrite.result_run ["o.html".toList]
  rw [EuroInLatin.spoils_overwrite.fileAt?_run] at hkept
  revert hkept
  decide

end Job
end BuildBlocks
