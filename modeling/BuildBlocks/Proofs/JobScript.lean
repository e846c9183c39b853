import BuildBlocks.Proofs.FailedJobs
import BuildBlocks.Proofs.Script

/-!
# The script of a job

A job as the accesses that it makes: its input is read, block types are loaded, includes are resolved,
looked for and read while the page is rendered, the folders above the output are made one at a time,
and the output is opened and then filled.

Run alone, the script of a job leaves the disk and has the result of `Job.run` (`Job.alone_script`).

## The architecture

* **`Program.renderPage`** renders the tree of a page as `Element.renderPage` does, with an access
  wherever that looks at its disk; `gives_renderPage` says that it gives the same.
* **`Program.openOutput`** and **`Program.fill`** follow `Disk.buildFolder` and `Disk.writeText`.
-/

namespace BuildBlocks
namespace Program

/-! ## Block types and contexts -/

/-- What comes of an extension file, where `found` is what its path leads to. -/
def loaded (extensionOf : Entry → Extension) (r : Registry) (file : Text) :
    (found : Option Entry) → Except Failure Registry
  | none => .error (Extension.fault "Custom block type source not found" file)
  | some e =>
    if !e.isFile then .error (Extension.fault "Custom block type source not found" file)
    else if !Text.endsWith (Path.ofText file).toText Extension.suffix then
      .error (Extension.fault "Custom block type source is not a Python module" file)
    else ((extensionOf e).apply file r).result

/-- Loads extension files one after another. -/
def loadAll (extensionOf : Entry → Extension) (r : Registry) : List Text → Program Registry
  | [] => pure r
  | file :: files => do
    let found ← find (Path.ofText file)
    let r ← lift (loaded extensionOf r file found)
    loadAll extensionOf r files

/-- The context of the page of a file. The path is resolved once for the name of the page and once
for its folder. -/
def top (options : Options) (r : Registry) (file : Path) : Program Context := do
  let resolved ← resolve file
  let again ← resolve file
  pure {
    options := options
    registry := r
    includeStack := [resolved.toText]
    base := again.parent
    file := some file }

theorem loaded_eq_load (disk : Disk) (extensionOf : Entry → Extension) (r : Registry)
    (file : Text) : (disk.find? (Path.ofText file)).bind (loaded extensionOf r file) =
      (Extension.load disk r file extensionOf).result := by
  simp only [Extension.load, Outcome.result_bind, Outcome.result_ofExcept]
  refine congrArg _ (funext fun found => ?_)
  cases found with
  | none => rfl
  | some e =>
    dsimp only [loaded]
    split
    · rfl
    · split
      · rfl
      · simp only [Outcome.result_bind]
        cases ((extensionOf e).apply file r).result <;> rfl

theorem gives_loadAll (extensionOf : Entry → Extension) (r : Registry) (files : List Text) :
    (loadAll extensionOf r files).Gives fun disk =>
      (Extension.loadAll disk r extensionOf files).result := by
  induction files generalizing r with
  | nil => exact .pure r
  | cons file files ih =>
    refine (Gives.bind (.find _) fun found => .bind (.lift _) fun r => ih r).of_eq fun disk => ?_
    rw [Extension.loadAll, Outcome.result_bind, ← loaded_eq_load]
    cases disk.find? (Path.ofText file) <;> rfl

theorem gives_top (options : Options) (r : Registry) (file : Path) :
    (top options r file).Gives fun disk => Context.top disk options r (some file) := by
  refine (Gives.bind (.resolve _) fun _ => .bind (.resolve _) fun _ => .pure _).of_eq fun disk => ?_
  rw [Context.top]
  cases disk.resolve file <;> rfl

/-! ## Pages -/

/-- Resolves the path of an include. -/
def includePath (ctx : Context) (requested : Text) : Program Path :=
  let path := Path.ofText requested
  if path.isAbsolute then resolve path
  else resolve ((ctx.options.includeBase.getD ctx.base).join path)

/-- Looks for the file that an include block names. -/
def includedFile (ctx : Context) (d : Directive) : Program Path :=
  if d.params.isEmpty then lift (.error (Task.notFound ctx d))
  else do
    let path ← includePath ctx d.params
    let found ← find path
    lift (if found.any Entry.isFile then .ok path else .error (Task.notFound ctx d))

/-- How an included page is rendered, within the limit for nested includes. -/
abbrev Enter (settings : Settings) (ctx : Context) : Type :=
  (ctx.depth : Int) < settings.maxIncludeDepth → Path → Text → Program Text

section

variable (settings : Settings) (ctx : Context) (enter : Enter settings ctx)

/-- The file that an include block names, as `Element.included` puts it in. -/
def included (d : Directive) : Program Text := do
  let path ← includedFile ctx d
  let content ← readText settings.encoding path
  if !settings.isHtml (Text.lower path.suffix) then
    lift (.ok (Task.wrapped (Text.lower path.suffix) content))
  else if !ctx.options.recursive then lift (.ok content)
  else if ctx.includeStack.contains path.toText then
    let chain := ctx.includeStack.dropWhile (· ≠ path.toText) ++ [path.toText]
    lift (.error (.fault (.circularInclude chain (Task.site ctx d))))
  else if h : (ctx.depth : Int) < settings.maxIncludeDepth then enter h path content
  else lift (.error (.fault (.includeDepth settings.maxIncludeDepth path.toText (Task.site ctx d))))

/-- What an active block becomes, where `inner` renders its children. -/
def active (d : Directive) (inner : Program Text) : Handler → Program Text
  | .keepBody => inner
  | .conditionalComment =>
    let condition := if d.params.isEmpty then "IE".toList else d.params
    lift (.ok
      ("<!--[if ".toList ++ condition ++ "]>".toList ++ d.body ++ "<![endif]-->".toList))
  | .includeFile => included settings ctx enter d
  | .script =>
    if d.params.isEmpty then inner
    else lift (.ok ("<script src=\"".toList ++ d.params ++ "\"></script>".toList))
  | .styleSheet =>
    if d.params.isEmpty then inner
    else lift (.ok ("<link rel=\"stylesheet\" href=\"".toList ++ d.params ++ "\">".toList))
  | .setAttribute => do
    let expanded ← inner
    pure (Attribute.setAll (Attribute.nameOf d.kind) d.params expanded)
  | .parts ps =>
    if ps.contains .expandedBody then do
      let expanded ← inner
      pure (ps.flatMap (Task.partText ctx d expanded))
    else lift (.ok (ps.flatMap (Task.partText ctx d [])))
  | .missingKey => lift (.error (.missingKey d.params))

/-- What an inactive block becomes, where `inner` renders its children. -/
def inactive (d : Directive) (inner : Program Text) (gated : Bool) : Program Text :=
  if gated then lift (.ok (if ctx.options.strip then [] else d.openMarker ++ d.closeMarker))
  else if ctx.options.strip then inner
  else do
    let text ← inner
    pure (d.openMarker ++ text ++ d.closeMarker)

/-- What a block becomes, where `inner` renders its children. -/
def resolved (d : Directive) (inner : Program Text) (isActive : Bool) : Program Text :=
  match ctx.registry.find? d.kind with
  | none => lift (.error (.fault (.unknownBlock d.kind {})))
  | some b =>
    if isActive then active settings ctx enter d inner b.handler else inactive ctx d inner b.gated

mutual

/-- Renders an element. -/
def render (isActive : Bool) : Element → Program Text
  | .char c => lift (.ok [c])
  | .stray t => lift (.ok t)
  | .block o line children t =>
    resolved settings ctx enter (Element.directive ctx.registry.isGated o line children t)
      (match Element.unknown? ctx children with
        | some e => lift (.error e)
        | none =>
          renderAll (Element.flags ctx.registry ctx.options.environment .none children) children)
      isActive

/-- Renders elements in order. -/
def renderAll (actives : List Bool) : List Element → Program Text
  | [] => lift (.ok [])
  | e :: es => do
    let first ← render (actives.headD false) e
    let rest ← renderAll actives.tail es
    pure (first ++ rest)

end

/-- Renders a list of siblings. -/
def renderSiblings (es : List Element) : Program Text :=
  match Element.unknown? ctx es with
  | some e => lift (.error e)
  | none =>
    renderAll settings ctx enter (Element.flags ctx.registry ctx.options.environment .none es) es

end

/-- Renders a page by its tree. -/
def renderPage (settings : Settings) (ctx : Context) (offset : Int) (page : Text) : Program Text :=
  match Element.ofPage ctx.options.marker offset page with
  | .error (o, line) =>
    lift (.error (.fault (.unterminated o.kind ⟨ctx.fileText, some line, some o.text⟩)))
  | .ok es =>
    renderSiblings settings ctx
      (fun _ path content => renderPage settings (ctx.enter path) 0 content) es
termination_by ctx.room settings
decreasing_by exact Context.room_enter_lt path ‹_›

/-- Reads a file and processes it. -/
def processFile (settings : Settings) (options : Options) (file : Path) : Program Text := do
  let page ← readText settings.encoding file
  let r ← loadAll settings.extensionOf .initial options.extensions
  let ctx ← top options r file
  let assembled ← renderPage settings ctx 0 page
  lift (interpolate options.delimiters.toList options.strict ctx.fileText (.mapping options.data)
    assembled).result

/-! ## Pages give what they give alone -/

theorem gives_includedFile (ctx : Context) (d : Directive) :
    (includedFile ctx d).Gives fun disk => Task.includedFile disk ctx d := by
  unfold includedFile
  cases hparams : d.params.isEmpty with
  | true => exact Gives.of_eq (.lift _) fun disk => by rw [Task.includedFile, if_pos hparams]
  | false =>
    have hpath : (includePath ctx d.params).Gives fun disk =>
        Task.includePath disk ctx d.params := by
      unfold includePath Task.includePath
      dsimp only
      split <;> exact .resolve _
    refine (Gives.bind hpath fun path => .bind (.find path) fun _ => .lift _).of_eq fun disk => ?_
    rw [Task.includedFile, if_neg (by simp [hparams])]
    refine congrArg _ (funext fun path => ?_)
    show _ = ((disk.find? path).map _).bind _
    cases disk.find? path <;> rfl

theorem gives_map {x : Program Text} {f : Disk → Except Failure Text} (h : x.Gives f)
    (g : Text → Text) :
    (do let text ← x; pure (g text) : Program Text).Gives fun disk => (f disk).map g :=
  (Gives.bind h fun _ => .pure _).of_eq fun disk => by cases f disk <;> rfl

section

variable {settings : Settings} {ctx : Context} {enter : Enter settings ctx}
  {enterOn : (disk : Disk) → Element.Enter ⟨settings, disk⟩ ctx}

/-- Entering an included page gives what it gives alone. -/
def Enter.Gives (enter : Enter settings ctx)
    (enterOn : (disk : Disk) → Element.Enter ⟨settings, disk⟩ ctx) : Prop :=
  ∀ h path content, (enter h path content).Gives fun disk => enterOn disk h path content

theorem gives_included (henter : enter.Gives enterOn) (d : Directive) :
    (included settings ctx enter d).Gives fun disk =>
      Element.included ⟨settings, disk⟩ ctx (enterOn disk) d := by
  refine (Gives.bind (gives_includedFile ctx d) fun path =>
    .bind (.readText settings.encoding path) fun content => ?_).of_eq fun disk => rfl
  dsimp only
  split
  · exact .lift _
  · split
    · exact .lift _
    · split
      · exact .lift _
      · split
        · exact henter _ path content
        · exact .lift _

theorem gives_resolved (henter : enter.Gives enterOn) (d : Directive) {inner : Program Text}
    {innerOn : Disk → Except Failure Text} (hinner : inner.Gives innerOn) (isActive : Bool) :
    (resolved settings ctx enter d inner isActive).Gives fun disk =>
      Element.resolved ⟨settings, disk⟩ ctx (enterOn disk) d (innerOn disk) isActive := by
  unfold resolved Element.resolved
  cases ctx.registry.find? d.kind with
  | none => exact .lift _
  | some b =>
    cases isActive with
    | true =>
      simp only [if_true]
      -- only an include looks at the disk; the other handlers are applied to the body
      cases b.handler with
      | keepBody => exact hinner
      | conditionalComment => exact .lift _
      | includeFile => exact gives_included henter d
      | script | styleSheet =>
        unfold active Element.active
        dsimp only
        split
        · exact hinner
        · exact .lift _
      | setAttribute => exact gives_map hinner _
      | parts ps =>
        unfold active Element.active
        dsimp only
        split
        · exact gives_map hinner _
        · exact .lift _
      | missingKey => exact .lift _
    | false =>
      simp only [Bool.false_eq_true, if_false]
      unfold inactive Element.inactive
      split
      · exact .lift _
      · split
        · exact hinner
        · exact gives_map hinner _

mutual

theorem gives_render (henter : enter.Gives enterOn) (isActive : Bool) : (e : Element) →
    (render settings ctx enter isActive e).Gives fun disk =>
      Element.render ⟨settings, disk⟩ ctx (enterOn disk) isActive e
  | .char c => by
    simp only [render, Element.render]
    exact .lift _
  | .stray t => by
    simp only [render, Element.render]
    exact .lift _
  | .block o line children t => by
    simp only [render, Element.render]
    refine gives_resolved henter _ ?_ isActive
    cases Element.unknown? ctx children with
    | some e => exact .lift _
    | none => exact gives_renderAll henter _ children

theorem gives_renderAll (henter : enter.Gives enterOn) (actives : List Bool) : (es : List Element) →
    (renderAll settings ctx enter actives es).Gives fun disk =>
      Element.renderAll ⟨settings, disk⟩ ctx (enterOn disk) actives es
  | [] => by
    simp only [renderAll, Element.renderAll]
    exact .lift _
  | e :: es => by
    simp only [renderAll, Element.renderAll]
    exact Gives.bind (gives_render henter _ e) fun first =>
      .bind (gives_renderAll henter _ es) fun rest => .pure _

end

end

theorem gives_renderPage (settings : Settings) (ctx : Context) (offset : Int) (page : Text) :
    (renderPage settings ctx offset page).Gives fun disk =>
      Element.renderPage ⟨settings, disk⟩ ctx offset page := by
  fun_induction renderPage settings ctx offset page with
  | case1 ctx offset page o line hpage =>
    exact Gives.of_eq (.lift _) fun disk => by rw [Element.renderPage, hpage]
  | case2 ctx offset page es hpage ih =>
    have hsiblings : (renderSiblings settings ctx
        (fun _ path content => renderPage settings (ctx.enter path) 0 content) es).Gives fun disk =>
          Element.renderSiblings ⟨settings, disk⟩ ctx
            (fun _ path content => Element.renderPage ⟨settings, disk⟩ (ctx.enter path) 0 content)
            es := by
      unfold renderSiblings Element.renderSiblings
      cases Element.unknown? ctx es with
      | some e => exact .lift _
      | none => exact gives_renderAll (fun h path content => ih h path content) _ es
    exact hsiblings.of_eq fun disk => by rw [Element.renderPage, hpage]

/-- **Processing a file** gives what it gives alone, whatever the disk. -/
theorem gives_processFile (settings : Settings) (options : Options) (file : Path) :
    (processFile settings options file).Gives fun disk =>
      (Page.processFile ⟨settings, disk⟩ options file).result := by
  refine (Gives.bind (.readText settings.encoding file) fun page =>
    .bind (gives_loadAll settings.extensionOf .initial options.extensions) fun r =>
      .bind (gives_top options r file) fun ctx =>
        .bind (gives_renderPage settings ctx 0 page) fun assembled => .lift _).of_eq fun disk => ?_
  simp only [Page.processFile, Outcome.result_bind, Outcome.result_ofExcept, Outcome.result_note,
    Page.result_process, Page.registry, Element.result_expand_eq_renderPage]
  rfl

/-! ## Outputs -/

/-- A folder that could not be made is no failure if it is there. -/
def keepFolder (p : Path) (why : Refusal) : Program Unit := do
  let found ← find p
  lift (if found = some .folder then .ok () else .error (.refused why p.toText))

/-- How it goes on after trying to make a folder, with `missing` for when the folder above it is not
there. -/
def afterMake (p : Path) (missing : Program Unit) : Except Refusal Unit → Program Unit
  | .ok _ => lift (.ok ())
  | .error .notFound => missing
  | .error why => keepFolder p why

/-- Makes the folder at a path when the folders above it have been made. -/
def buildLast (p : Path) : Program Unit :=
  .access (.make p) (afterMake p (lift (.error (.refused .notFound p.toText))))

-- The condition `h` is used by `decreasing_by` only.
set_option linter.unusedVariables false in
/-- Makes the folder with names `parts` and the folders above it. -/
def buildFolders (root : Text) (parts : List Text) : Program Unit :=
  .access (.make ⟨root, parts⟩) (afterMake ⟨root, parts⟩
    (if h : parts = [] then lift (.error (.refused .notFound (Path.mk root parts).toText))
    else Program.bind (buildFolders root parts.dropLast) fun _ => buildLast ⟨root, parts⟩))
termination_by parts.length
decreasing_by
  have := List.length_pos_iff.2 h
  rw [List.length_dropLast]
  omega

/-- Makes the folder at a path and the folders above it. -/
def buildFolder (p : Path) : Program Unit :=
  if Disk.hasBarred p then lift (.error .nullInPath) else buildFolders p.root p.parts

/-- Makes the folders above an output and opens it. -/
def openOutput (output : Path) : Program Place := do
  buildFolder output.parent
  .access (.empty output) lift

/-- Writes a text to a file that has been opened. -/
def fill (encoding : Encoding) (place : Place) (s : Text) : Program Unit := do
  let codec ← lift encoding.codec
  match codec.encode s with
  | .ok bytes => .access (.fill place bytes) fun _ => lift (.ok ())
  | .error why => lift (.error (.unencodable why))

/-- Processes the input of a job and writes its output. -/
def job (settings : Settings) (options : Options) (job : Job) : Program Path := do
  let page ← processFile settings options job.input
  let place ← openOutput job.output
  fill settings.encoding place page
  pure job.output

theorem gives_keepFolder (p : Path) (why : Refusal) :
    (keepFolder p why).Gives fun disk => disk.keepFolder p why := by
  refine (Gives.bind (.find p) fun _ => .lift _).of_eq fun disk => ?_
  show _ = ((disk.find? p).map _).bind _
  cases disk.find? p <;> simp [Except.bind, Except.map]

/-- Making a single folder as an access. -/
theorem alone_make (disk : Disk) (p : Path) (missing : Program Unit) :
    (Script.access (.make p) (afterMake p missing)).alone disk = match disk.makeOneFolder p with
      | .ok made => (.ok (), made)
      | .error .notFound => missing.alone disk
      | .error why => (disk.keepFolder p why, disk) := by
  show (afterMake p missing ((Access.make p).answer disk)).alone ((Access.make p).after disk) = _
  rw [Access.answer, Access.after, Access.effect, Disk.makeOneFolder]
  cases disk.locateLast p with
  | ok loc =>
    cases loc with
    | absent place => rfl
    | present place e => exact (gives_keepFolder p .exists).alone disk
  | error why =>
    cases why with
    | notFound => rfl
    | notFolder | isFolder | «exists» | nameTooLong | tooManyLinks =>
      exact (gives_keepFolder p _).alone disk

theorem alone_buildLast (disk : Disk) (p : Path) :
    (buildLast p).alone disk = ((disk.buildLast p).2, (disk.buildLast p).1) := by
  rw [buildLast, alone_make, Disk.buildLast]
  cases disk.makeOneFolder p with
  | ok made => rfl
  | error why => cases why <;> rfl

theorem alone_buildFolders (disk : Disk) (root : Text) (parts : List Text) :
    (buildFolders root parts).alone disk =
      ((disk.buildFolders root parts).2, (disk.buildFolders root parts).1) := by
  fun_induction Disk.buildFolders disk root parts with
  | case1 parts p made h => rw [buildFolders, alone_make, h]
  | case2 p h =>
    rw [buildFolders, alone_make, h]
    rfl
  | case3 parts p h hne above e habove ih =>
    rw [habove] at ih
    rw [buildFolders, alone_make, h]
    simp only [dif_neg hne]
    exact alone_bind_of_error ih
  | case4 parts p h hne above habove ih =>
    rw [habove] at ih
    rw [buildFolders, alone_make, h]
    simp only [dif_neg hne]
    exact (alone_bind_of_ok ih).trans (alone_buildLast above p)
  | case5 parts p why hnot h =>
    rw [buildFolders, alone_make, h]
    cases why
    · exact absurd rfl hnot
    all_goals rfl

theorem alone_buildFolder (disk : Disk) (p : Path) :
    (buildFolder p).alone disk = ((disk.buildFolder p).2, (disk.buildFolder p).1) := by
  unfold buildFolder Disk.buildFolder
  split
  · rfl
  · exact alone_buildFolders disk p.root p.parts

end Program

/-- Writing twice at a place is writing the second time. -/
theorem Disk.set_set (disk : Disk) (place : Place) (e e' : Entry) :
    (disk.set place e).set place e' = disk.set place e' := by
  have hput (entries : List (Place × Entry)) :
      Disk.put place e' (Disk.put place e entries) = Disk.put place e' entries := by
    induction entries with
    | nil => simp [Disk.put]
    | cons entry entries ih =>
      obtain ⟨q, old⟩ := entry
      by_cases hq : q = place <;> simp [Disk.put, hq, ih]
  exact congrArg (Disk.mk · disk.here) (hput disk.entries)

namespace Program

theorem alone_openOutput_of_blocked {disk built : Disk} {output : Path} {e : Failure}
    (hbuilt : disk.buildFolder output.parent = (built, .error e)) :
    (openOutput output).alone disk = (.error e, built) := by
  have hfolder := alone_buildFolder disk output.parent
  rw [hbuilt] at hfolder
  exact alone_bind_of_error hfolder

theorem alone_openOutput_of_built {disk built : Disk} {output : Path}
    (hbuilt : disk.buildFolder output.parent = (built, .ok ())) :
    (openOutput output).alone disk =
      (built.writable output, match built.writable output with
        | .ok place => built.set place (.file [])
        | .error _ => built) := by
  have hfolder := alone_buildFolder disk output.parent
  rw [hbuilt] at hfolder
  have hopened : (Script.access (.empty output) lift : Program Place).alone built =
      ((Access.empty output).answer built, (Access.empty output).after built) := rfl
  refine (alone_bind_of_ok hfolder).trans (hopened.trans ?_)
  simp only [Access.answer, Access.after, Access.effect]
  cases built.writable output <;> rfl

theorem fill_eq {encoding : Encoding} {codec : Codec} (hcodec : encoding.codec = .ok codec)
    (place : Place) (s : Text) : fill encoding place s = match codec.encode s with
      | .ok bytes => .access (.fill place bytes) fun _ => lift (.ok ())
      | .error why => lift (.error (.unencodable why)) := by
  rw [fill, hcodec]
  rfl

theorem alone_fill {encoding : Encoding} {codec : Codec} (hcodec : encoding.codec = .ok codec)
    (disk : Disk) (place : Place) (s : Text) :
    (fill encoding place s).alone disk = match codec.encode s with
      | .ok bytes => (.ok (), disk.set place (.file bytes))
      | .error why => (.error (.unencodable why), disk) := by
  rw [fill_eq hcodec]
  cases codec.encode s <;> rfl

/-- A job whose page is processed goes on to open its output. -/
theorem alone_job_of_processed {w : Workspace} {options : Options} {job : Job} {page : Text}
    (hpage : (Page.processFile w options job.input).result = .ok page) :
    (Program.job w.settings options job).alone w.disk =
      (do let place ← openOutput job.output
          fill w.settings.encoding place page
          pure job.output : Program Path).alone w.disk := by
  have hprocess := (gives_processFile w.settings options job.input).alone w.disk
  rw [hpage] at hprocess
  exact alone_bind_of_ok hprocess

/-- A job whose output is opened goes on to fill it. -/
theorem alone_job_of_opened {w : Workspace} {options : Options} {job : Job} {page : Text}
    {built : Disk} {place : Place}
    (hpage : (Page.processFile w options job.input).result = .ok page)
    (hbuilt : w.disk.buildFolder job.output.parent = (built, .ok ()))
    (hopen : built.writable job.output = .ok place) :
    (Program.job w.settings options job).alone w.disk =
      (do fill w.settings.encoding place page
          pure job.output : Program Path).alone (built.set place (.file [])) := by
  have hopened := alone_openOutput_of_built hbuilt
  rw [hopen] at hopened
  exact (alone_job_of_processed hpage).trans (alone_bind_of_ok hopened)

end Program

/-- **A job that runs alone** leaves the disk and has the result that it has as a whole. -/
theorem Job.alone_script (w : Workspace) (options : Options) (job : Job) :
    (Program.job w.settings options job).alone w.disk =
      ((run w options job).outcome.result, (run w options job).disk) := by
  have hends := ends w options job
  generalize (run w options job).disk = left at hends ⊢
  generalize (run w options job).outcome.result = result at hends ⊢
  cases hends with
  | unprocessed hpage =>
    have hprocess := (Program.gives_processFile w.settings options job.input).alone w.disk
    rw [hpage] at hprocess
    exact Program.alone_bind_of_error hprocess
  | blocked hpage hbuilt =>
    rw [Program.alone_job_of_processed hpage]
    exact Program.alone_bind_of_error (Program.alone_openOutput_of_blocked hbuilt)
  | unopened hpage hbuilt hopen =>
    have hopened := Program.alone_openOutput_of_built hbuilt
    rw [hopen] at hopened
    rw [Program.alone_job_of_processed hpage]
    exact Program.alone_bind_of_error hopened
  | @unencoded page built place codec why hpage hbuilt hopen hcodec hencode =>
    have hfill := Program.alone_fill hcodec (built.set place (.file [])) place page
    rw [hencode] at hfill
    rw [Program.alone_job_of_opened hpage hbuilt hopen]
    exact Program.alone_bind_of_error hfill
  | @written page built place codec bytes hpage hbuilt hopen hcodec hencode =>
    have hfill := Program.alone_fill hcodec (built.set place (.file [])) place page
    rw [hencode] at hfill
    rw [Program.alone_job_of_opened hpage hbuilt hopen]
    refine (Program.alone_bind_of_ok hfill).trans ?_
    -- filling the output replaces the empty file that opening it has left
    show (Except.ok job.output, _) = _
    rw [Disk.set_set]

end BuildBlocks
