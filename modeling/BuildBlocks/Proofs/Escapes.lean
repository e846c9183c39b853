import BuildBlocks.Proofs.Reach

/-!
# Failures that are no faults of the page

A call is meant to end with the processed page or with a fault of the page. The steps on which it
rests can fail in ways of their own, and nothing turns these into faults: a path that cannot be
resolved or is too long, an included file that is no text, a number with too many digits.

`Page.Escapes` lists the places where that happens, with what the call did before. The list is
complete and nothing in it is avoided (`Page.result_process_eq_error_iff_escapes`): a call with the
block types that are always there fails otherwise than by a fault just if it comes to such a place.
-/

namespace BuildBlocks

/-- Whether a failure is about a path, the text of a file or the digits of a number. -/
def Failure.isPrimitive : Failure → Bool
  | .nullInPath | .linkLoop _ | .refused .nameTooLong _ => true
  | .unknownEncoding _ | .undecodable _ => true
  | .longNumber _ | .longValue => true
  | _ => false

/-! ## Files -/

namespace Disk

variable {disk : Disk} {p : Path} {e : Failure}

theorem isPrimitive_of_resolve_eq_error (h : disk.resolve p = .error e) : e.isPrimitive = true := by
  unfold resolve at h
  split at h
  · cases h
    rfl
  · dsimp only at h
    split at h
    · cases h
      rfl
    · cases h

theorem isPrimitive_of_isFile_eq_error (h : disk.isFile p = .error e) : e.isPrimitive = true := by
  have hfind : disk.find? p = .error e := eq_error_of_map_eq_error h
  unfold find? at hfind
  split at hfind
  · cases hfind
  · split at hfind
    · cases hfind
    · cases hfind
    · cases hfind
      rfl
    · cases hfind

/-- What is there as a file can be read. -/
theorem exists_readBytes_of_isFile (h : disk.isFile p = .ok true) :
    ∃ content, disk.readBytes p = .ok content := by
  unfold isFile find? at h
  unfold readBytes
  split at h
  · cases h
  · next hbarred =>
    rw [if_neg hbarred]
    split at h
    · next entry hlocate =>
      rw [hlocate]
      cases entry with
      | file content => exact ⟨content, rfl⟩
      | source name => exact ⟨[], rfl⟩
      | folder | link _ => cases h
    · cases h
    · cases h
    · cases h

/-- What is wrong with the text of a file that is there is its encoding. -/
theorem isPrimitive_of_readText_eq_error {encoding : Encoding} (hfile : disk.isFile p = .ok true)
    (h : disk.readText encoding p = .error e) : e.isPrimitive = true := by
  obtain ⟨content, hcontent⟩ := exists_readBytes_of_isFile hfile
  rcases bind_eq_error_iff.1 h with hbytes | ⟨_, -, h⟩
  · rw [hcontent] at hbytes
    cases hbytes
  · rcases bind_eq_error_iff.1 h with hencoding | ⟨_, -, h⟩
    · unfold Encoding.codec at hencoding
      split at hencoding
      · cases hencoding
      · cases hencoding
        rfl
    · split at h
      · cases h
      · cases h
        rfl

end Disk

/-! ## Placeholders -/

theorem Placeholder.isPrimitive_of_resolve_eq_error {data : Value} {p : Placeholder} {e : Failure}
    (h : p.resolve data = .error e) : e.isPrimitive = true := by
  unfold resolve at h
  split at h
  · cases h
    rfl
  · cases h
  · split at h
    · cases h
    · split at h
      · cases h
        rfl
      · cases h

namespace Segment

variable {strict : Bool} {file : Option Text} {data : Value} {e : Failure}

theorem result_fillAll_cons (s : Segment) (ss : List Segment) :
    (fillAll strict file data (s :: ss)).result =
      (s.fill strict file data).result.bind fun first =>
        (fillAll strict file data ss).result.map (first ++ ·) := by
  rw [fillAll, Outcome.result_bind]
  refine congrArg _ (funext fun first => ?_)
  rw [Outcome.result_bind]
  rfl

/-- Segments are filled from the left. -/
theorem result_fillAll_append (before after : List Segment) :
    (fillAll strict file data (before ++ after)).result =
      (fillAll strict file data before).result.bind fun t =>
        (fillAll strict file data after).result.map (t ++ ·) := by
  induction before with
  | nil => exact (congrFun Except.map_id _).symm
  | cons s before ih =>
    rw [List.cons_append, result_fillAll_cons, result_fillAll_cons, ih]
    cases (s.fill strict file data).result with
    | error e => rfl
    | ok first =>
      cases (fillAll strict file data before).result with
      | error e => rfl
      | ok t => exact (map_append_map _ first t).symm

/-- Segments are filled up to the first one that fails. -/
theorem result_fillAll_eq_error_iff {ss : List Segment} :
    (fillAll strict file data ss).result = .error e ↔
      ∃ before s after t, ss = before ++ s :: after ∧
        (fillAll strict file data before).result = .ok t ∧
          (s.fill strict file data).result = .error e := by
  constructor
  · intro h
    induction ss with
    | nil => cases h
    | cons s ss ih =>
      rw [result_fillAll_cons] at h
      rcases bind_eq_error_iff.1 h with hfirst | ⟨first, hfirst, h⟩
      · exact ⟨[], s, ss, [], rfl, rfl, hfirst⟩
      · obtain ⟨before, s', after, t, rfl, hbefore, hfail⟩ := ih (eq_error_of_map_eq_error h)
        refine ⟨s :: before, s', after, first ++ t, rfl, ?_, hfail⟩
        rw [result_fillAll_cons, hfirst, hbefore]
        rfl
  · rintro ⟨before, s, after, t, rfl, hbefore, hfail⟩
    rw [result_fillAll_append, hbefore, result_fillAll_cons, hfail]
    rfl

/-- A segment fails otherwise than by a fault if it is a placeholder whose value cannot be found or
written. -/
theorem result_fill_eq_error_iff {s : Segment} :
    (s.fill strict file data).result = .error e ∧ e.fault? = none ↔
      ∃ p, s = .placeholder p ∧ p.resolve data = .error e := by
  constructor
  · rintro ⟨h, hfault⟩
    cases s with
    | text s => cases h
    | placeholder p =>
      refine ⟨p, rfl, ?_⟩
      rcases Outcome.result_bind_eq_error_iff.1 h with hresolve | ⟨shown, -, hleave⟩
      · exact hresolve
      · -- what is left as it is written fails by a fault only
        cases shown with
        | some s => cases hleave
        | none =>
          change (p.leave strict file).result = .error e at hleave
          rw [Placeholder.leave] at hleave
          split at hleave
          · cases hleave
            cases hfault
          · cases hleave
  · rintro ⟨p, rfl, h⟩
    exact ⟨Outcome.result_bind_eq_error_iff.2 (.inl h), p.faultFree_resolve data e h⟩

end Segment

/-! ## Calls -/

namespace Page

variable {w : Workspace} {options : Options} {file : Option Path} {page : Text} {e : Failure}

/-- **How a call fails otherwise than by a fault.** The path of its file or of an include cannot be
resolved; asking whether the file of an include is there fails, or reading it; or the value of a
placeholder cannot be found or written. -/
inductive Escapes (w : Workspace) (options : Options) (file : Option Path) (page : Text)
    (e : Failure) : Prop where
  | file {path : Path} (hfile : file = some path) (h : w.disk.resolve path = .error e) :
      Escapes w options file page e
  | includePath {ctx : Context} {d : Directive} (hhandles : Handles w options file page ctx d)
      (hinclude : Task.IsInclude ctx d) (hparams : d.params.isEmpty = false)
      (h : Task.includePath w.disk ctx d.params = .error e) : Escapes w options file page e
  | isFile {ctx : Context} {d : Directive} {path : Path}
      (hhandles : Handles w options file page ctx d) (hinclude : Task.IsInclude ctx d)
      (hparams : d.params.isEmpty = false)
      (hpath : Task.includePath w.disk ctx d.params = .ok path)
      (h : w.disk.isFile path = .error e) : Escapes w options file page e
  | text {ctx : Context} {d : Directive} {path : Path}
      (hhandles : Handles w options file page ctx d) (hinclude : Task.IsInclude ctx d)
      (hfile : Task.includedFile w.disk ctx d = .ok path)
      (h : w.disk.readText w.settings.encoding path = .error e) : Escapes w options file page e
  | placeholder {root : Visit} {assembled s : Text} {before after : List Segment} {p : Placeholder}
      (hstarts : Starts w options file page root)
      (hexpand : (root.expand w).result = .ok assembled)
      (hcut : Segment.cut options.delimiters.toList assembled = before ++ .placeholder p :: after)
      (hbefore : (Segment.fillAll options.strict root.ctx.fileText (.mapping options.data)
        before).result = .ok s)
      (h : p.resolve (.mapping options.data) = .error e) : Escapes w options file page e

/-- What escapes is about a path, the text of a file or the digits of a number. -/
theorem Escapes.isPrimitive (h : Escapes w options file page e) : e.isPrimitive = true := by
  cases h with
  | file _ h => exact Disk.isPrimitive_of_resolve_eq_error h
  | includePath _ _ _ h =>
    rw [Task.includePath] at h
    split at h <;> exact Disk.isPrimitive_of_resolve_eq_error h
  | isFile _ _ _ _ h => exact Disk.isPrimitive_of_isFile_eq_error h
  | text _ _ hfile h =>
    exact Disk.isPrimitive_of_readText_eq_error (Task.includedFile_eq_ok_iff.1 hfile).2.2 h
  | placeholder _ _ _ _ h => exact Placeholder.isPrimitive_of_resolve_eq_error h

theorem fault?_of_isPrimitive (h : e.isPrimitive = true) : e.fault? = none := by
  cases e <;> first | rfl | cases h

/-- A call fails if a block fails that it gives to its handler. -/
theorem Handles.result_process_eq_error {ctx : Context} {d : Directive}
    (h : Handles w options file page ctx d) (hfail : (Task.ofBlock w ctx d true).result = .error e) :
    (process w options file page).result = .error e := by
  obtain ⟨root, v, hstarts, hreaches, rfl, hmeets⟩ := h
  exact result_process_eq_error_iff.2 (.inr (.inr ⟨root, hstarts,
    .inl (Visit.result_expand_eq_error_iff.2 ⟨v, hreaches, .block hmeets hfail⟩)⟩))

/-- Nothing keeps a failure from escaping. -/
theorem Escapes.result_process_eq_error (hextensions : options.extensions = [])
    (h : Escapes w options file page e) : (process w options file page).result = .error e := by
  cases h with
  | @file path hfile h =>
    -- no extension fails before the path of the page is resolved
    refine result_process_eq_error_iff.2 (.inr (.inl ⟨.initial, ?_, ?_⟩))
    · rw [registry, hextensions]
      rfl
    · rw [hfile, Context.top, h]
      rfl
  -- what an include looks up fails when the block is handled
  | includePath hhandles hinclude hparams h =>
    refine hhandles.result_process_eq_error ?_
    rw [hinclude.result_ofBlock, Task.result_ofInclude,
      Task.includedFile_eq_error_iff.2 (.inr ⟨hparams, .inl h⟩)]
    rfl
  | isFile hhandles hinclude hparams hpath h =>
    refine hhandles.result_process_eq_error ?_
    rw [hinclude.result_ofBlock, Task.result_ofInclude,
      Task.includedFile_eq_error_iff.2 (.inr ⟨hparams, .inr ⟨_, hpath, h⟩⟩)]
    rfl
  | text hhandles hinclude hfile h =>
    refine hhandles.result_process_eq_error ?_
    rw [hinclude.result_ofBlock, Task.result_ofInclude, hfile]
    exact bind_eq_error_iff.2 (.inr ⟨_, rfl, bind_eq_error_iff.2 (.inl h)⟩)
  | @placeholder root assembled s before after p hstarts hexpand hcut hbefore h =>
    refine result_process_eq_error_iff.2 (.inr (.inr ⟨root, hstarts, .inr ⟨assembled, hexpand, ?_⟩⟩))
    rw [interpolate, hcut]
    exact Segment.result_fillAll_eq_error_iff.2
      ⟨before, _, after, s, rfl, hbefore, (Segment.result_fill_eq_error_iff.2 ⟨p, rfl, h⟩).1⟩

/-- A block that the pass comes to fails by a fault, or its failure escapes. -/
theorem escapes_of_meets {root v : Visit} {d : Directive} {active : Bool}
    (hextensions : options.extensions = []) (hstarts : Starts w options file page root)
    (hreaches : root.Reaches w v) (hmeets : v.Meets w d active) (hfault : e.fault? = none)
    (h : (Task.ofBlock w v.ctx d active).result = .error e) : Escapes w options file page e := by
  obtain ⟨-, -, -, -, -, hknown⟩ := hmeets.exists_mem_scan
  have hasks := Task.asks_ofBlock (w := w) hknown active
  rw [h] at hasks
  cases hasks with
  | @enter path content _ hactive hincludes henter =>
    rw [Task.enterPage] at henter
    dsimp only at henter
    split at henter
    · cases henter
      cases hfault
    · split at henter
      · cases henter
      · cases henter
        cases hfault
  | noFile hactive hinclude hfile =>
    subst hactive
    have hhandles : Handles w options file page v.ctx d := ⟨root, v, hstarts, hreaches, rfl, hmeets⟩
    rcases Task.includedFile_eq_error_iff.1 hfile with
      ⟨rfl, -⟩ | ⟨hparams, hpath | ⟨path, hpath, hfile⟩⟩
    · cases hfault
    · exact .includePath hhandles hinclude hparams hpath
    · exact .isFile hhandles hinclude hparams hpath hfile
  | noText hactive hinclude hfile htext =>
    subst hactive
    exact .text ⟨root, v, hstarts, hreaches, rfl, hmeets⟩ hinclude hfile htext
  | missingKey hb hhandler =>
    -- no block type that is always there looks for keys
    rw [Visit.registry_eq_of_reaches hreaches, hstarts.registry_eq hextensions] at hb
    have hbuiltin := Registry.isBuiltin_of_find? hb
    rw [hhandler] at hbuiltin
    cases hbuiltin

end Page

/-! ## What escapes -/

namespace UndecodableInclude

open IncludingPage

/-- What is wrong with a byte that starts no character. -/
def badByte : DecodeError where
  codec := "utf-8"
  byte := 0xff
  position := 0
  count := 1
  reason := .startByte

/-- The include of a file that holds that byte escapes from every call over the page. -/
theorem escapes_badByte (limit : Int) :
    Page.Escapes (workspace limit [0xff]) options (some caller) page (.undecodable badByte) := by
  have hfile : Task.includedFile (workspace limit [0xff]).disk context block = .ok path :=
    includedFile_block rfl rfl
  have htext : (workspace limit [0xff]).disk.readText "utf-8".toList path =
      .error (.undecodable badByte) := by
    rw [Disk.readText_of_readBytes .utf8 (readBytes_path limit _) rfl]
    rfl
  exact .text ⟨_, _, starts _ _, .refl, rfl, meets_block rfl rfl⟩ ⟨.includeFile, rfl, rfl⟩ hfile htext

end UndecodableInclude

namespace Page

variable {w : Workspace} {options : Options} {file : Option Path} {page : Text} {e : Failure}

/-- **What escapes from a call.** With the block types that are always there, a call fails otherwise
than by a fault of the page just if it comes to a place where a path cannot be resolved, a file
cannot be looked for or read, or the value of a placeholder cannot be found or written; and its
failure is the one of that place. -/
theorem result_process_eq_error_iff_escapes (hextensions : options.extensions = []) :
    ((process w options file page).result = .error e ∧ e.fault? = none ↔
        Escapes w options file page e) ∧
      (Escapes w options file page e → e.isPrimitive = true) := by
  refine ⟨⟨?_, fun h => ⟨h.result_process_eq_error hextensions,
    fault?_of_isPrimitive h.isPrimitive⟩⟩, Escapes.isPrimitive⟩
  rintro ⟨h, hfault⟩
  -- a call fails at its extensions, its path, a block or a placeholder
  rcases result_process_eq_error_iff.1 h with
    hregistry | ⟨r, -, htop⟩ | ⟨root, hstarts, hexpand | ⟨assembled, hexpand, hfill⟩⟩
  · rw [registry, hextensions] at hregistry
    cases hregistry
  · cases file with
    | none => cases htop
    | some path =>
      rcases bind_eq_error_iff.1 htop with hresolve | ⟨resolved, -, htop⟩
      · exact .file rfl hresolve
      · cases htop
  · obtain ⟨v, hreaches, hfails⟩ := Visit.result_expand_eq_error_iff.1 hexpand
    cases hfails with
    -- blocks that are unclosed or unknown are faults
    | scan hscan =>
      obtain ⟨_, o, _, _, rfl⟩ := Span.exists_lexemes_of_ofPieces_eq_error hscan
      cases hfault
    | unknown hscan hunknown =>
      obtain ⟨d, _, _, _, _, rfl⟩ := requireKnown_eq_error hunknown
      cases hfault
    | block hmeets htask => exact escapes_of_meets hextensions hstarts hreaches hmeets hfault htask
  · obtain ⟨before, s, after, t, hcut, hbefore, hfail⟩ :=
      Segment.result_fillAll_eq_error_iff.1 hfill
    obtain ⟨p, rfl, hresolve⟩ := Segment.result_fill_eq_error_iff.1 ⟨hfail, hfault⟩
    exact .placeholder hstarts hexpand hcut hbefore hresolve

end Page

open IncludingPage UndecodableInclude

theorem Page.result_process_eq_error_iff_escapes_of_badByte :
    options.extensions = [] ∧
      ((process (workspace 32 [0xff]) options (some caller) page).result =
          .error (.undecodable badByte) ∧
        (Failure.undecodable badByte).fault? = none) ∧
      (Failure.undecodable badByte).isPrimitive = true := by
  have hextensions : options.extensions = [] := rfl
  have hall : ((process (workspace 32 [0xff]) options (some caller) page).result =
      .error (.undecodable badByte) ∧ (Failure.undecodable badByte).fault? = none ↔ _) ∧ _ :=
    result_process_eq_error_iff_escapes hextensions
  exact ⟨hextensions, hall.1.2 (escapes_badByte 32), hall.2 (escapes_badByte 32)⟩

/-- Not every failure of a call is a fault of the page. -/
theorem Page.exists_failure_without_fault :
    ¬ ∀ (w : Workspace) (options : Options) (file : Option Path) (page : Text) (e : Failure),
      options.extensions = [] → (process w options file page).result = .error e →
        ∃ f, e = .fault f := by
  intro h
  obtain ⟨f, hf⟩ := h _ _ _ _ _ rfl ((escapes_badByte 32).result_process_eq_error rfl)
  cases hf

end BuildBlocks
