import BuildBlocks.Proofs.BlockFaults
import BuildBlocks.Proofs.Calls

/-!
# What blocks ask for

`Task.ofBlock` goes through registry, activation and handlers. Of all blocks only the active
includes look at files, enter pages or ring an alarm; every other block has its text ready or asks
for its own body. `result_ofBlock_cases` says so once, and the facts about pages that are entered
and about blocks that fail are read off it.
-/

namespace BuildBlocks

/-- Whether a fault is that an included page is being worked through already, or lies too deep. -/
def Fault.Kind.isIncludeAlarm : Fault.Kind → Bool
  | .circularInclude _ | .includeDepth => true
  | .general | .unterminated | .unknownBlock | .includeNotFound _ | .loading _ | .unresolved _ => false

/-! ## Block types that are always there -/

/-- Whether a handler is one of a block type that is always there. -/
def Handler.isBuiltin : Handler → Bool
  | .keepBody | .conditionalComment | .includeFile | .script | .styleSheet | .setAttribute => true
  | .parts _ | .missingKey => false

namespace Registry

theorem mem_of_find? {r : Registry} {name : Text} {b : BlockType} (h : r.find? name = some b) :
    b ∈ r.types := by
  unfold find? at h
  cases hname : r.types.find? (·.name = name) with
  | some b' =>
    rw [hname] at h
    cases h
    exact List.mem_of_find?_eq_some hname
  | none =>
    rw [hname] at h
    exact List.mem_of_find?_eq_some h

theorem isBuiltin_of_find? {name : Text} {b : BlockType} (h : initial.find? name = some b) :
    b.handler.isBuiltin = true := by
  have hall : ∀ b ∈ initial.types, b.handler.isBuiltin = true := by decide
  exact hall b (mem_of_find? h)

end Registry

/-! ## Includes -/

namespace Task

variable {w : Workspace} {ctx : Context} {d : Directive}

/-- A block of a type that includes files. -/
def IsInclude (ctx : Context) (d : Directive) : Prop :=
  ∃ b, ctx.registry.find? d.kind = some b ∧ b.handler = .includeFile

/-- An active block includes the page at `path`, whose blocks are to be worked through: it is an
include, it names the file, the file can be read, it is a page, and includes are recursive. -/
structure Includes (w : Workspace) (ctx : Context) (d : Directive) (path : Path) (content : Text) :
    Prop where
  isInclude : IsInclude ctx d
  file : includedFile w.disk ctx d = .ok path
  text : w.disk.readText w.settings.encoding path = .ok content
  html : w.settings.isHtml (Text.lower path.suffix) = true
  recursive : ctx.options.recursive = true

/-- Looking up the file of an include, step by step. -/
theorem includedFile_eq_bind (hparams : d.params.isEmpty = false) :
    includedFile w.disk ctx d =
      (includePath w.disk ctx d.params).bind fun path =>
        (w.disk.isFile path).bind fun isFile =>
          if isFile then .ok path else .error (notFound ctx d) := by
  rw [includedFile, if_neg (Bool.eq_false_iff.1 hparams)]
  rfl

theorem includedFile_eq_ok_iff {path : Path} :
    includedFile w.disk ctx d = .ok path ↔
      d.params.isEmpty = false ∧ includePath w.disk ctx d.params = .ok path ∧
        w.disk.isFile path = .ok true := by
  cases hparams : d.params.isEmpty with
  | true =>
    rw [includedFile, if_pos hparams]
    exact ⟨nofun, fun h => nomatch h.1⟩
  | false =>
    rw [includedFile_eq_bind hparams]
    constructor
    · intro h
      obtain ⟨path', hpath, h⟩ := bind_eq_ok_iff.1 h
      obtain ⟨isFile, hfile, h⟩ := bind_eq_ok_iff.1 h
      cases isFile with
      | false => cases h
      | true =>
        cases h
        exact ⟨rfl, hpath, hfile⟩
    · rintro ⟨-, hpath, hfile⟩
      rw [hpath]
      show (w.disk.isFile path).bind _ = _
      rw [hfile]
      rfl

/-- An include finds no file if it names none, if the path that it names leads to none, or if the
path cannot be followed. -/
theorem includedFile_eq_error_iff {e : Failure} :
    includedFile w.disk ctx d = .error e ↔
      (e = notFound ctx d ∧ (d.params.isEmpty = true ∨
        ∃ path, includePath w.disk ctx d.params = .ok path ∧ w.disk.isFile path = .ok false)) ∨
      d.params.isEmpty = false ∧ (includePath w.disk ctx d.params = .error e ∨
        ∃ path, includePath w.disk ctx d.params = .ok path ∧ w.disk.isFile path = .error e) := by
  cases hparams : d.params.isEmpty with
  | true =>
    -- without parameters there is no path to look for
    rw [includedFile, if_pos hparams]
    constructor
    · intro h
      cases h
      exact .inl ⟨rfl, .inl rfl⟩
    · rintro (⟨rfl, -⟩ | ⟨hfalse, -⟩)
      · rfl
      · cases hfalse
  | false =>
    rw [includedFile_eq_bind hparams, bind_eq_error_iff]
    constructor
    · rintro (hpath | ⟨path, hpath, h⟩)
      · exact .inr ⟨rfl, .inl hpath⟩
      · -- the look at the path fails, or it finds no file
        rcases bind_eq_error_iff.1 h with hfile | ⟨isFile, hfile, h⟩
        · exact .inr ⟨rfl, .inr ⟨path, hpath, hfile⟩⟩
        · cases isFile with
          | true => cases h
          | false =>
            cases h
            exact .inl ⟨rfl, .inr ⟨path, hpath, hfile⟩⟩
    · rintro (⟨rfl, hfalse | ⟨path, hpath, hfile⟩⟩ | ⟨-, hpath | ⟨path, hpath, hfile⟩⟩)
      · cases hfalse
      · exact .inr ⟨path, hpath, bind_eq_error_iff.2 (.inr ⟨false, hfile, rfl⟩)⟩
      · exact .inl hpath
      · exact .inr ⟨path, hpath, bind_eq_error_iff.2 (.inl hfile)⟩

/-- What an include asks for: its file is looked up and read, and then the suffix decides. -/
theorem result_ofInclude :
    (ofInclude w ctx d).result =
      (includedFile w.disk ctx d).bind fun path =>
        (w.disk.readText w.settings.encoding path).bind fun content =>
          if !w.settings.isHtml (Text.lower path.suffix) then
            .ok (.done (wrapped (Text.lower path.suffix) content))
          else if !ctx.options.recursive then .ok (.done content)
          else enterPage w.settings ctx d path content := by
  simp only [ofInclude, Outcome.result_bind, Outcome.result_ofExcept, Outcome.result_note]
  refine congrArg _ (funext fun path => congrArg _ (funext fun content => ?_))
  show Outcome.result _ = _
  cases w.settings.isHtml (Text.lower path.suffix) <;> cases ctx.options.recursive <;> rfl

theorem result_ofBlock_of_active {b : BlockType} (hb : ctx.registry.find? d.kind = some b) :
    (ofBlock w ctx d true).result = (ofHandler w ctx d b.handler).result := by
  rw [ofBlock, Outcome.result_bind, Registry.resolve, hb]
  show (Outcome.result (_ >>= _)) = _
  rw [Outcome.result_bind]
  rfl

theorem result_ofBlock_of_inactive {b : BlockType} (hb : ctx.registry.find? d.kind = some b) :
    (ofBlock w ctx d false).result = .ok (ofInactive w.settings ctx d b) := by
  rw [ofBlock, Outcome.result_bind, Registry.resolve, hb]
  rfl

/-- **What a block of a known type asks for.** A block has its text ready or asks for its body. Only
an active include does more: it fails to find its file or to read it, or asks to enter it. -/
inductive Asks (w : Workspace) (ctx : Context) (d : Directive) (active : Bool) :
    Except Failure (Task w.settings ctx) → Prop where
  | done (s : Text) : Asks w ctx d active (.ok (.done s))
  | body (frame : Text → Text) : Asks w ctx d active (.ok (.body frame))
  | enter {path : Path} {content : Text} {r : Except Failure (Task w.settings ctx)}
      (hactive : active = true) (hincludes : Includes w ctx d path content)
      (h : enterPage w.settings ctx d path content = r) : Asks w ctx d active r
  | noFile {e : Failure} (hactive : active = true) (hinclude : IsInclude ctx d)
      (h : includedFile w.disk ctx d = .error e) : Asks w ctx d active (.error e)
  | noText {path : Path} {e : Failure} (hactive : active = true) (hinclude : IsInclude ctx d)
      (hfile : includedFile w.disk ctx d = .ok path)
      (h : w.disk.readText w.settings.encoding path = .error e) : Asks w ctx d active (.error e)
  | missingKey {b : BlockType} (hb : ctx.registry.find? d.kind = some b)
      (hhandler : b.handler = .missingKey) : Asks w ctx d active (.error (.missingKey d.params))

theorem asks_ofInclude (hinclude : IsInclude ctx d) : Asks w ctx d true (ofInclude w ctx d).result := by
  rw [result_ofInclude]
  cases hfile : includedFile w.disk ctx d with
  | error e => exact .noFile rfl hinclude hfile
  | ok path =>
    show Asks w ctx d true ((w.disk.readText w.settings.encoding path).bind _)
    cases htext : w.disk.readText w.settings.encoding path with
    | error e => exact .noText rfl hinclude hfile htext
    | ok content =>
      show Asks w ctx d true (ite _ _ _)
      cases hhtml : w.settings.isHtml (Text.lower path.suffix) with
      | false => exact .done _
      | true =>
        cases hrecursive : ctx.options.recursive with
        | false => exact .done _
        | true => exact .enter rfl ⟨hinclude, hfile, htext, hhtml, hrecursive⟩ rfl

theorem asks_ofBlock (hknown : ctx.registry.find? d.kind ≠ none) (active : Bool) :
    Asks w ctx d active (ofBlock w ctx d active).result := by
  obtain ⟨b, hb⟩ := Option.ne_none_iff_exists'.1 hknown
  cases active with
  | false =>
    rw [result_ofBlock_of_inactive hb, ofInactive]
    split
    · exact .done _
    · exact .body _
  | true =>
    rw [result_ofBlock_of_active hb]
    -- every handler but the one for includes has its text ready or asks for its body
    cases hhandler : b.handler with
    | includeFile => exact asks_ofInclude ⟨b, hb, hhandler⟩
    | missingKey => exact .missingKey hb hhandler
    | conditionalComment => exact .done _
    | keepBody | setAttribute => exact .body _
    | script | styleSheet =>
      rw [ofHandler]
      split
      · exact .body _
      · exact .done _
    | parts ps =>
      rw [ofHandler]
      dsimp only
      split
      · exact .body _
      · exact .done _

/-- An active include asks for what its file says. -/
theorem IsInclude.result_ofBlock (h : IsInclude ctx d) :
    (ofBlock w ctx d true).result = (ofInclude w ctx d).result := by
  obtain ⟨b, hb, hhandler⟩ := h
  rw [result_ofBlock_of_active hb, hhandler]
  rfl

/-- An include of a page whose blocks are to be worked through asks to enter the page. -/
theorem Includes.result_ofBlock {path : Path} {content : Text} (h : Includes w ctx d path content) :
    (ofBlock w ctx d true).result = enterPage w.settings ctx d path content := by
  rw [h.isInclude.result_ofBlock, result_ofInclude, h.file]
  show (w.disk.readText w.settings.encoding path).bind _ = _
  rw [h.text]
  show ite _ _ _ = _
  rw [h.html, h.recursive]
  rfl

/-! ## Entering pages -/

/-- A page that is being worked through already is not entered: the files from its first place on
the way to the last one are the circle. -/
theorem enterPage_of_mem {settings : Settings} {path : Path} {content : Text}
    (h : path.toText ∈ ctx.includeStack) :
    enterPage settings ctx d path content =
      .error (.fault (.circularInclude
        (ctx.includeStack.dropWhile (· ≠ path.toText) ++ [path.toText]) (site ctx d))) :=
  if_pos (List.contains_iff_mem.2 h)

/-- Any other page is entered within the limit. -/
theorem enterPage_of_not_mem {settings : Settings} {path : Path} {content : Text}
    (h : path.toText ∉ ctx.includeStack) :
    enterPage settings ctx d path content =
      if hroom : (ctx.depth : Int) < settings.maxIncludeDepth then .ok (.page path content hroom)
      else .error (.fault (.includeDepth settings.maxIncludeDepth path.toText (site ctx d))) :=
  if_neg fun hcontains => h (List.contains_iff_mem.1 hcontains)

/-- A block that asks to enter a page is an active include of a page that is not being worked
through. -/
theorem includes_of_ofBlock_eq_page {active : Bool} {path : Path} {content : Text}
    {hroom : (ctx.depth : Int) < w.settings.maxIncludeDepth}
    (h : (ofBlock w ctx d active).result = .ok (.page path content hroom)) :
    active = true ∧ Includes w ctx d path content ∧ path.toText ∉ ctx.includeStack := by
  have hknown : ctx.registry.find? d.kind ≠ none := by
    intro hnone
    rw [ofBlock, Outcome.result_bind, Registry.resolve, hnone] at h
    cases h
  have hasks := asks_ofBlock (w := w) hknown active
  rw [h] at hasks
  cases hasks with
  | @enter path' content' _ hactive hincludes henter =>
    by_cases hmem : path'.toText ∈ ctx.includeStack
    · rw [enterPage_of_mem hmem] at henter
      cases henter
    · rw [enterPage_of_not_mem hmem, dif_pos hroom] at henter
      cases henter
      exact ⟨hactive, hincludes, hmem⟩

/-- A block that rings an alarm is an active include of a page that is being worked through, or else
lies too deep. -/
theorem includes_of_ofBlock_eq_alarm (hknown : ctx.registry.find? d.kind ≠ none) {active : Bool}
    {f : Fault} (h : (ofBlock w ctx d active).result = .error (.fault f))
    (halarm : f.kind.isIncludeAlarm = true) :
    active = true ∧ ∃ path content, Includes w ctx d path content ∧
      ((path.toText ∈ ctx.includeStack ∧ f.kind =
          .circularInclude (ctx.includeStack.dropWhile (· ≠ path.toText) ++ [path.toText])) ∨
        (path.toText ∉ ctx.includeStack ∧ w.settings.maxIncludeDepth ≤ ctx.depth ∧
          f.kind = .includeDepth)) := by
  have hasks := asks_ofBlock (w := w) hknown active
  rw [h] at hasks
  cases hasks with
  | @enter path content _ hactive hincludes henter =>
    refine ⟨hactive, path, content, hincludes, ?_⟩
    by_cases hmem : path.toText ∈ ctx.includeStack
    · rw [enterPage_of_mem hmem] at henter
      cases henter
      exact .inl ⟨hmem, rfl⟩
    · rw [enterPage_of_not_mem hmem] at henter
      split at henter
      · cases henter
      · next hdepth =>
        cases henter
        exact .inr ⟨hmem, Int.not_lt.1 hdepth, rfl⟩
  -- before a page is entered nothing looks at the stack or the depth
  | noFile _ _ hfile =>
    rcases includedFile_eq_error_iff.1 hfile with ⟨hfault, -⟩ | ⟨-, hpath | ⟨path, -, hfile⟩⟩
    · cases hfault
      cases halarm
    · cases faultFree_includePath _ _ _ _ hpath
    · cases w.disk.faultFree_isFile _ _ hfile
  | noText _ _ _ htext => cases w.disk.faultFree_readText _ _ _ htext

end Task
end BuildBlocks
