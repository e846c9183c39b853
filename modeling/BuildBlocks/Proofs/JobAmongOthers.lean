import BuildBlocks.Proofs.SharedFolders

/-!
# A job among others

A job that runs while others change the disk ends with the result that it has alone, and its output
holds what it would hold, if what the others do makes no difference to what the job looks at
(`Job.Undisturbed`, `Job.Undisturbed.sure`). The folders above its output need no such condition: they
may be made by others.

## The architecture

* **`Job.Makes`** and **`Job.Opens`**: the folders that stand after the job alone, and the place at
  which it opens its output. They are also all that it changes for the others.
* **`Job.Written`**: the output of a job holds its processed input.
* **`sure_page`**, **`sure_openOutput`**, **`sure_openOutput_of_refused`**, **`sure_fill`**: the stages
  of a job; **`Undisturbed.sure`** goes through the ways in which it ends.
-/

namespace BuildBlocks

open Disk

/-! ## Accesses that make folders only -/

namespace Program

theorem spares_keepFolder (p : Path) (why : Refusal) : (keepFolder p why).Spares :=
  (gives_keepFolder p why).spares

theorem spares_afterMake {p : Path} {missing : Program Unit} (hmissing : missing.Spares)
    (answer : Except Refusal Unit) : (afterMake p missing answer).Spares := by
  cases answer with
  | ok _ => exact trivial
  | error why =>
    cases why with
    | notFound => exact hmissing
    | notFolder | isFolder | «exists» | nameTooLong | tooManyLinks => exact spares_keepFolder p _

theorem spares_buildLast (p : Path) : (buildLast p).Spares :=
  ⟨trivial, spares_afterMake trivial⟩

theorem spares_buildFolders (root : Text) (parts : List Text) :
    (buildFolders root parts).Spares := by
  rw [buildFolders]
  refine ⟨trivial, spares_afterMake ?_⟩
  split
  · exact trivial
  · exact spares_bind (spares_buildFolders root parts.dropLast) fun _ => spares_buildLast _
termination_by parts.length
decreasing_by
  rename_i hne
  have := List.length_pos_iff.2 hne
  rw [List.length_dropLast]
  omega

theorem spares_buildFolder (p : Path) : (buildFolder p).Spares := by
  unfold buildFolder
  split
  · exact trivial
  · exact spares_buildFolders _ _

end Program

/-! ## Opened files -/

namespace Disk

variable {disk built d d' : Disk} {p : Path} {place : Place}

/-- Where a file can be opened: where its path leads, unless that is a folder. -/
theorem writable_eq_ok_iff : disk.writable p = .ok place ↔
    hasBarred p = false ∧ Plain disk place ∧ ∃ loc, disk.locate p = .ok loc ∧ loc.place = place := by
  constructor
  · intro h
    unfold writable at h
    split at h
    · cases h
    · next hbarred =>
      refine ⟨Bool.eq_false_of_not_eq_true hbarred, ?_⟩
      -- a file of either kind, or nothing yet
      split at h
      · next hloc =>
        cases h
        exact ⟨plain_of_lookup? (lookup?_of_locateBy_present hloc) nofun nofun, _, hloc, rfl⟩
      · next hloc =>
        cases h
        exact ⟨plain_of_lookup? (lookup?_of_locateBy_present hloc) nofun nofun, _, hloc, rfl⟩
      · next hloc =>
        cases h
        exact ⟨plain_of_lookup? (lookup?_of_locateBy_absent hloc) nofun nofun, _, hloc, rfl⟩
      all_goals cases h
  · rintro ⟨hbarred, hplain, loc, hloc, rfl⟩
    unfold writable
    rw [hbarred, hloc]
    cases loc with
    | absent place => rfl
    | present place e =>
      have hthere : disk.lookup? place = some e := lookup?_of_locateBy_present hloc
      cases e with
      | file | source => rfl
      | folder => exact absurd hthere hplain.folder
      | link target => exact absurd hthere (hplain.link target)

theorem writable_of_covers (h : built.writable p = .ok place) (hcovers : Covers built d)
    (hhere : Reached d d.here) (hplain : Plain d place) : d.writable p = .ok place := by
  obtain ⟨hbarred, -, loc, hloc, hplace⟩ := writable_eq_ok_iff.1 h
  refine writable_eq_ok_iff.2 ⟨hbarred, hplain, d.found place, ?_, place_found d place⟩
  rw [← hplace]
  exact locateBy_of_covers hcovers hhere hloc

/-- What an opened file holds is read back. -/
theorem readBytes_of_covers {content : Bytes} (h : built.writable p = .ok place)
    (hcovers : Covers built d) (hhere : Reached d d.here)
    (hfile : d.lookup? place = some (.file content)) : d.readBytes p = .ok content := by
  obtain ⟨hbarred, -, loc, hloc, rfl⟩ := writable_eq_ok_iff.1 h
  have hfound : d.locate p = .ok (d.found loc.place) := locateBy_of_covers hcovers hhere hloc
  rw [found, hfile] at hfound
  rw [readBytes, hbarred, hfound]
  rfl

/-- Writing a file leaves folders and links as they are. -/
theorem lookup?_writeText {encoding : Encoding} {s : Text} {q : Place} (h : ¬ Plain disk q) :
    (disk.writeText encoding p s).1.lookup? q = disk.lookup? q := by
  unfold writeText
  split
  · rfl
  · next place hopen =>
    have hne : q ≠ place := by
      rintro rfl
      exact h (writable_eq_ok_iff.1 hopen).2.1
    have hset (e : Entry) : (disk.set place e).lookup? q = disk.lookup? q := by
      rw [lookup?_set _ _ _ _ (ne_nil_of_writable hopen), if_neg hne]
    split
    · exact hset _
    · split <;> exact hset _

end Disk

namespace Job

variable {w : Workspace} {options : Options} {job : Job}

/-- A folder stands at a place after the job alone. -/
def Makes (w : Workspace) (options : Options) (job : Job) (place : Place) : Prop :=
  (run w options job).disk.lookup? place = some .folder

/-- The job alone opens its output at a place. -/
inductive Opens (w : Workspace) (options : Options) (job : Job) : Place → Prop
  | intro {page : Text} {built : Disk} {place : Place}
      (hpage : (Page.processFile w options job.input).result = .ok page)
      (hbuilt : w.disk.buildFolder job.output.parent = (built, .ok ()))
      (hopen : built.writable job.output = .ok place) : Opens w options job place

/-- The output of a job holds its processed input. -/
inductive Written (w : Workspace) (options : Options) (job : Job) (disk : Disk) : Prop
  | intro {page : Text} {codec : Codec} {bytes : Bytes}
      (hpage : (Page.processFile w options job.input).result = .ok page)
      (hcodec : w.settings.encoding.codec = .ok codec)
      (hencode : codec.encode page = .ok bytes)
      (hread : disk.readBytes job.output = .ok bytes) : Written w options job disk

/-- What the others do, folders at the places `makes` and files at the places `opens`, makes no
difference to what the job looks at, nor to its output. -/
structure Undisturbed (w : Workspace) (options : Options) (job : Job) (makes opens : Place → Prop) :
    Prop where
  here : Reached w.disk w.disk.here
  /-- No access made for the page is told anything else. -/
  page : (Program.processFile w.settings options job.input).Ignores (Changes makes opens) w.disk
  /-- An output that is refused is refused in the same way. -/
  refused : ∀ e, ((Program.openOutput job.output).alone w.disk).1 = .error e →
    (Program.openOutput job.output).Ignores (Changes makes opens) w.disk
  /-- The output is at a place of its own. -/
  own : ∀ place, Opens w options job place → ¬ makes place ∧ ¬ opens place
  /-- No other output is at a folder of the job. -/
  folders : ∀ place, opens place → Plain (run w options job).disk place

/-- The folders that a job makes, and the links that it finds, stand after it. -/
theorem lookup?_run_of_built {page : Text} {built : Disk} {r : Except Failure Unit} {place : Place}
    (hpage : (Page.processFile w options job.input).result = .ok page)
    (hbuilt : w.disk.buildFolder job.output.parent = (built, r)) (hnot : ¬ Plain built place) :
    (run w options job).disk.lookup? place = built.lookup? place := by
  simp only [run, hpage, write, hbuilt]
  cases r with
  | error e => rfl
  | ok _ => exact lookup?_writeText hnot

theorem makes_of_built {page : Text} {built : Disk} {r : Except Failure Unit} {place : Place}
    (hpage : (Page.processFile w options job.input).result = .ok page)
    (hbuilt : w.disk.buildFolder job.output.parent = (built, r))
    (hfolder : built.lookup? place = some .folder) : Makes w options job place :=
  (lookup?_run_of_built hpage hbuilt fun hplain => hplain.folder hfolder).trans hfolder

theorem makes_of_folder {place : Place} (hfolder : w.disk.lookup? place = some .folder) :
    Makes w options job place := by
  cases hpage : (Page.processFile w options job.input).result with
  | error e =>
    simp only [Makes, run, hpage]
    exact hfolder
  | ok page =>
    exact makes_of_built hpage rfl ((grows_buildFolder _ _).lookup?_eq_some hfolder)

/-- No folder stands where the output is opened. -/
theorem not_makes_of_opens {place : Place} (h : Opens w options job place) :
    ¬ Makes w options job place := by
  obtain ⟨hpage, hbuilt, hopen⟩ := h
  have hset {disk : Disk} {content : Bytes} :
      (disk.set place (.file content)).lookup? place ≠ some .folder := by
    rw [lookup?_set _ _ _ _ (ne_nil_of_writable hopen), if_pos rfl]
    nofun
  simp only [Makes, run, hpage, write, hbuilt, writeText, hopen]
  split
  · exact hset
  · split <;> exact hset

namespace Undisturbed

variable {makes opens : Place → Prop}

theorem sure_page (h : Undisturbed w options job makes opens) :
    (Program.processFile w.settings options job.input).Sure (Changes makes opens)
      (Changes (Makes w options job) (Opens w options job))
      (fun r d => r = (Page.processFile w options job.input).result ∧
        Changes makes opens w.disk d) w.disk := by
  have hgives := Program.gives_processFile w.settings options job.input
  have halone : ((Program.processFile w.settings options job.input).alone w.disk).2 = w.disk := by
    rw [hgives.alone]
  have hsure := h.page.sure (Makes w options job) (Opens w options job) hgives.spares
    (fun place hfolder => ?_) (.refl w.disk)
  · rw [hgives.alone] at hsure
    exact hsure
  · rw [halone] at hfolder
    exact makes_of_folder hfolder

theorem plain_built (h : Undisturbed w options job makes opens) {page : Text} {built : Disk}
    {r : Except Failure Unit} {place : Place}
    (hpage : (Page.processFile w options job.input).result = .ok page)
    (hbuilt : w.disk.buildFolder job.output.parent = (built, r)) (hplace : opens place) :
    Plain built place := by
  by_contra hnot
  have hsame := lookup?_run_of_built hpage hbuilt hnot
  have hplain := h.folders place hplace
  exact hnot ⟨hsame ▸ hplain.folder, hsame ▸ hplain.link⟩

section

variable {page : Text} {built d : Disk} {place : Place}

/-- The folders above an output that can be opened come to be there, and its place stays as it is. -/
theorem sure_buildFolder (h : Undisturbed w options job makes opens)
    (hpage : (Page.processFile w options job.input).result = .ok page)
    (hbuilt : w.disk.buildFolder job.output.parent = (built, .ok ()))
    (hopen : built.writable job.output = .ok place) (hd : Changes makes opens w.disk d) :
    (Program.buildFolder job.output.parent).Sure (Changes makes opens)
      (Changes (Makes w options job) (Opens w options job))
      (fun r d => Program.Ready built built r d ∧ Plain d place) d := by
  have hopens : Opens w options job place := .intro hpage hbuilt hopen
  have hothers : ∀ q, opens q → Plain built q := fun q => h.plain_built hpage hbuilt
  have hgrows := grows_of_buildFolder hbuilt
  obtain ⟨hbarred, hplain, -⟩ := writable_eq_ok_iff.1 hopen
  have hbarred := hasBarred_parent hbarred
  have hbuilds : Builds job.output.parent.root w.disk job.output.parent.parts built := by
    rw [buildFolder, hbarred] at hbuilt
    exact builds_of_buildFolders hbuilt
  have hfits := hgrows.fits_built.changes hothers hd
  have hcovers := (Grows.refl w.disk).covers.changes_of_grows hgrows hothers hd
  have hfolders : (Program.buildFolders job.output.parent.root job.output.parent.parts).Sure
      (Changes makes opens) (Changes (Makes w options job) (fun _ => False))
      (Program.Ready built built) d :=
    Program.sure_buildFolders (fun q => makes_of_built hpage hbuilt) hothers hbuilds (.refl built)
      h.here hbarred hfits hcovers
  rw [Program.buildFolder, hbarred]
  -- besides the folders, the output stays free of what the job itself and the others make
  refine (hfolders.and_invariant (fun d d' hplain hd => ?_) (fun d d' hplain hd => ?_) ?_).mono
    (fun d d' hd => hd.mono (fun _ => id) fun _ => False.elim) fun _ _ => id
  · exact hplain.changes hd (h.own place hopens).1 (h.own place hopens).2
  · exact hplain.changes hd (not_makes_of_opens hopens) id
  · exact (hplain.of_grows hgrows).changes hd (h.own place hopens).1 (h.own place hopens).2

/-- **An output that can be opened** is opened where it is opened alone. -/
theorem sure_openOutput (h : Undisturbed w options job makes opens)
    (hpage : (Page.processFile w options job.input).result = .ok page)
    (hbuilt : w.disk.buildFolder job.output.parent = (built, .ok ()))
    (hopen : built.writable job.output = .ok place) (hd : Changes makes opens w.disk d) :
    (Program.openOutput job.output).Sure (Changes makes opens)
      (Changes (Makes w options job) (Opens w options job))
      (fun r d => r = .ok place ∧ Covers built d) d := by
  have hopens : Opens w options job place := .intro hpage hbuilt hopen
  have hothers : ∀ q, opens q → Plain built q := fun q => h.plain_built hpage hbuilt
  have hhere := (grows_of_buildFolder hbuilt).covers.reached h.here
  refine Script.Sure.bind (h.sure_buildFolder hpage hbuilt hopen hd) fun r d hready => ?_
  obtain ⟨⟨rfl, -, hcovers⟩, hplain⟩ := hready d (.refl d)
  intro d' hd'
  -- between the folders and the output the others may come in once more
  have hcovers := hcovers.changes hothers hd'
  have hplain := hplain.changes hd' (h.own place hopens).1 (h.own place hopens).2
  have hwritable := writable_of_covers hopen hcovers (hcovers.reached hhere) hplain
  have hplace := ne_nil_of_writable hopen
  rw [Access.after, Access.answer, Access.effect, hwritable]
  refine ⟨.set_file hopens hplace, fun d'' hd'' => ⟨rfl, ?_⟩⟩
  exact (hcovers.set_file (writable_eq_ok_iff.1 hopen).2.1 hplace []).changes hothers hd''

/-- An output that is refused alone is refused in the same way. -/
theorem sure_openOutput_of_refused (h : Undisturbed w options job makes opens) {e : Failure}
    (hpage : (Page.processFile w options job.input).result = .ok page)
    (hrefused : ((Program.openOutput job.output).alone w.disk).1 = .error e)
    (hd : Changes makes opens w.disk d) :
    (Program.openOutput job.output).Sure (Changes makes opens)
      (Changes (Makes w options job) (Opens w options job)) (fun r _ => r = .error e) d := by
  obtain ⟨hfolders, hopened⟩ := Script.ignores_bind_iff.1 (h.refused e hrefused)
  have halone := Program.alone_buildFolder w.disk job.output.parent
  have hsure := hfolders.sure (Makes w options job) (Opens w options job)
    (Program.spares_buildFolder _) (fun q hq => makes_of_built hpage rfl (by rwa [halone] at hq)) hd
  refine Script.Sure.bind hsure fun r d hr => ?_
  obtain ⟨rfl, hd⟩ := hr d (.refl d)
  rw [halone] at hopened hd ⊢
  -- alone, the refusal comes from a folder or from the output itself
  cases hbuilt : w.disk.buildFolder job.output.parent with
  | mk built r =>
    rw [hbuilt] at hopened hd
    cases r with
    | error e' =>
      rw [Program.alone_openOutput_of_blocked hbuilt] at hrefused
      exact fun _ _ => hrefused
    | ok _ =>
      rw [Program.alone_openOutput_of_built hbuilt] at hrefused
      intro d' hd'
      have heffect := hopened.1 d' (hd.trans hd')
      have hwritable : built.writable job.output = .error e := hrefused
      have hempty : (Access.empty job.output).effect built = (.error e, none) := by
        rw [Access.effect, hwritable]
      rw [Access.after, Access.answer, heffect, hempty]
      exact ⟨.refl d', fun _ _ => rfl⟩

/-- What is written to an opened output is there when the job is done, and stays. -/
theorem sure_fill (h : Undisturbed w options job makes opens) {codec : Codec} {bytes : Bytes}
    (hpage : (Page.processFile w options job.input).result = .ok page)
    (hbuilt : w.disk.buildFolder job.output.parent = (built, .ok ()))
    (hopen : built.writable job.output = .ok place)
    (hcodec : w.settings.encoding.codec = .ok codec)
    (hencode : codec.encode page = .ok bytes) (hcovers : Covers built d) :
    (Program.fill w.settings.encoding place page).Sure (Changes makes opens)
      (Changes (Makes w options job) (Opens w options job))
      (fun r d => r = .ok () ∧ Written w options job d) d := by
  have hopens : Opens w options job place := .intro hpage hbuilt hopen
  have hothers : ∀ q, opens q → Plain built q := fun q => h.plain_built hpage hbuilt
  have hplace := ne_nil_of_writable hopen
  have hhere := (grows_of_buildFolder hbuilt).covers.reached h.here
  rw [Program.fill_eq hcodec, hencode]
  refine fun d' hd' => ⟨.set_file hopens hplace, fun d'' hd'' => ⟨rfl, ?_⟩⟩
  have hcovers := ((hcovers.changes hothers hd').set_file (writable_eq_ok_iff.1 hopen).2.1 hplace
    bytes).changes hothers hd''
  have hfile : d''.lookup? place = some (.file bytes) := by
    rw [hd''.lookup?_eq (h.own place hopens).1 (h.own place hopens).2]
    exact (lookup?_set _ _ _ _ hplace).trans (if_pos rfl)
  exact .intro hpage hcodec hencode
    (readBytes_of_covers hopen hcovers (hcovers.reached hhere) hfile)

end

/-- A job whose page is processed goes on to open its output. -/
theorem sure_of_openOutput (h : Undisturbed w options job makes opens) {page : Text}
    {Q : Except Failure Path → Disk → Prop}
    (hpage : (Page.processFile w options job.input).result = .ok page)
    (hopened : ∀ d, Changes makes opens w.disk d →
      (Program.openOutput job.output >>= fun place => do
        Program.fill w.settings.encoding place page
        pure job.output : Program Path).Sure (Changes makes opens)
          (Changes (Makes w options job) (Opens w options job)) Q d) :
    (Program.job w.settings options job).Sure (Changes makes opens)
      (Changes (Makes w options job) (Opens w options job)) Q w.disk := by
  refine Script.Sure.bind h.sure_page fun r d hr => ?_
  obtain ⟨rfl, hd⟩ := hr d (.refl d)
  rw [hpage]
  exact hopened d hd

/-- **A job that the others leave undisturbed** ends with the result that it has alone, and if it
succeeds, its output holds its processed input from then on. -/
theorem sure (h : Undisturbed w options job makes opens) :
    (Program.job w.settings options job).Sure (Changes makes opens)
      (Changes (Makes w options job) (Opens w options job))
      (fun r d => r = (run w options job).outcome.result ∧
        ∀ output, r = .ok output → Written w options job d) w.disk := by
  have hends := ends w options job
  generalize (run w options job).disk = left at hends
  generalize (run w options job).outcome.result = result at hends ⊢
  -- the job ends among the others as it ends alone, one part after another
  cases hends with
  | unprocessed hpage =>
    refine Script.Sure.bind h.sure_page fun r d hr => ?_
    rw [(hr d (.refl d)).1, hpage]
    exact fun _ _ => ⟨rfl, nofun⟩
  | blocked hpage hbuilt =>
    have hrefused := congrArg Prod.fst (Program.alone_openOutput_of_blocked hbuilt)
    refine h.sure_of_openOutput hpage fun d hd =>
      Script.Sure.bind (h.sure_openOutput_of_refused hpage hrefused hd) fun r d hr => ?_
    rw [hr d (.refl d)]
    exact fun _ _ => ⟨rfl, nofun⟩
  | unopened hpage hbuilt hopen =>
    have hrefused := congrArg Prod.fst (Program.alone_openOutput_of_built hbuilt)
    rw [hopen] at hrefused
    refine h.sure_of_openOutput hpage fun d hd =>
      Script.Sure.bind (h.sure_openOutput_of_refused hpage hrefused hd) fun r d hr => ?_
    rw [hr d (.refl d)]
    exact fun _ _ => ⟨rfl, nofun⟩
  | unencoded hpage hbuilt hopen hcodec hencode =>
    refine h.sure_of_openOutput hpage fun d hd =>
      Script.Sure.bind (h.sure_openOutput hpage hbuilt hopen hd) fun r d hr => ?_
    rw [(hr d (.refl d)).1]
    show (Program.bind (Program.fill _ _ _) _ : Program Path).Sure _ _ _ d
    rw [Program.fill_eq hcodec, hencode]
    exact fun _ _ => ⟨rfl, nofun⟩
  | written hpage hbuilt hopen hcodec hencode =>
    refine h.sure_of_openOutput hpage fun d hd =>
      Script.Sure.bind (h.sure_openOutput hpage hbuilt hopen hd) fun r d hr => ?_
    obtain ⟨hr, hcovers⟩ := hr d (.refl d)
    rw [hr]
    refine Script.Sure.bind (h.sure_fill hpage hbuilt hopen hcodec hencode hcovers)
      fun r d hwritten => ?_
    rw [(hwritten d (.refl d)).1]
    exact fun d' hd' => ⟨rfl, fun _ _ => (hwritten d' hd').2⟩

end Undisturbed

end Job
end BuildBlocks
