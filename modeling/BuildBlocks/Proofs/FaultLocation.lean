import BuildBlocks.Proofs.BlockTasks
import BuildBlocks.Proofs.BodyLocality
import BuildBlocks.Proofs.Calls
import BuildBlocks.Proofs.DiskAccess
import BuildBlocks.Proofs.SwitchFlags

/-!
# Where faults of blocks are found

A fault of a block names a file, a line and an opening marker, and they are true: the marker stands
in the text of the file, on that line. The line counts from the start of the file, through every
level of blocks around the block, and starts again in an included file.

## The architecture

* **`Placed.isLocated_of_lex_eq`**: an opening marker among the lexemes of a part of a file stands in
  the file, after the lines of the part before it and of the file before the part.
* **`Visit.Placed`**: the invariant of a run. The text that is worked through is a part of the file
  that its context names, and the offset is the number of lines before it. `exists_placed_of_calls`
  carries it to bodies and to included pages.
* **`blockFaults_pass`**: the faults of one pass are at opening markers of its own text, or are
  faults of the texts that it calls for; the induction is on visits.
-/

namespace BuildBlocks

/-- Whether a site is an opening marker of a text and names the line on which the marker stands. -/
def Site.MarksOpening (word text : Text) (s : Site) : Prop :=
  ∃ p o rest, text.drop p = o.text ++ rest ∧ Marker.opening? word (text.drop p) = some (o, rest) ∧
    s.marker = some o.text ∧ s.line = some ((1 : Int) + Text.newlines (text.take p))

/-- Whether `text` is the text of the file called `name` in a run over `page`: the page itself if
the name is the caller's, or what is read from an included file. An included file is not the
caller's. -/
def Workspace.IsTextOf (w : Workspace) (file : Option Path) (page : Text) (name : Option Text)
    (text : Text) : Prop :=
  (name = file.map Path.toText ∧ text = page) ∨
    ∃ path, name = some path.toText ∧ w.disk.readText w.settings.encoding path = .ok text ∧
      ∀ top resolved, file = some top → w.disk.resolve top = .ok resolved →
        path.toText ≠ resolved.toText

/-! ## Markers of a part of a file -/

/-- An opening marker among the lexemes of a text stands in the text. -/
theorem Site.marksOpening_of_lex_eq {word text : Text} {before after : List Lexeme} {o : Opening}
    (h : Lexeme.lex word text = before ++ .opening o :: after) (name : Option Text) :
    Site.MarksOpening word text
      ⟨name, some ((1 : Int) + Text.newlines (Lexeme.texts before)), some o.text⟩ := by
  obtain ⟨hdrop, htake⟩ := Lexeme.lex_drop_of_lex_eq h
  refine ⟨(Lexeme.texts before).length, o, Lexeme.texts after, ?_, Lexeme.opening?_of_lex_eq h, rfl,
    ?_⟩
  · rw [hdrop, Span.texts_cons]
    rfl
  · rw [htake]

/-! ## What a block asks for -/

namespace Task

variable {w : Workspace} {ctx : Context} {d : Directive}

/-- The file that a block names, if it is there. -/
theorem blockFaults_includedFile :
    BlockFaults (fun f => f.site = site ctx d) (includedFile w.disk ctx d) := by
  unfold includedFile
  split
  · exact .of_fault rfl
  · refine .bind (faultFree_includePath _ _ _).blockFaults fun path _ => ?_
    refine .bind (w.disk.faultFree_isFile path).blockFaults fun isFile _ => ?_
    split
    · exact .ok _
    · exact .of_fault rfl

theorem blockFaults_enterPage (path : Path) (content : Text) :
    BlockFaults (fun f => f.site = site ctx d) (enterPage w.settings ctx d path content) := by
  unfold enterPage
  dsimp only
  split
  · exact .of_fault rfl
  · split
    · exact .ok _
    · exact .of_fault rfl

/-- **The faults of a block of a known type stand at its opening marker.** -/
theorem blockFaults_ofBlock (hknown : ctx.registry.find? d.kind ≠ none) (active : Bool) :
    BlockFaults (fun f => f.site = site ctx d) (ofBlock w ctx d active).result := by
  have hasks := asks_ofBlock (w := w) hknown active
  generalize (ofBlock w ctx d active).result = r at hasks ⊢
  cases hasks with
  | done s => exact .ok _
  | body frame => exact .ok _
  | enter _ _ h =>
    rw [← h]
    exact blockFaults_enterPage _ _
  | noFile _ _ h =>
    intro f hf hkind
    cases hf
    exact blockFaults_includedFile f h hkind
  | noText _ _ _ h => exact .of_fault?_eq_none (w.disk.faultFree_readText _ _ _ h)
  | missingKey _ _ => exact .of_fault?_eq_none rfl

end Task

/-! ## Parts of files -/

/-- The text of a visit is a part of the file that its context names, where `text` is the text of
that file in a run over `page`, and the offset is the number of lines of the file before the part.
The caller's file is among those that are being worked through. -/
structure Visit.Placed (w : Workspace) (file : Option Path) (page word text : Text) (v : Visit) :
    Prop where
  marker : v.ctx.options.marker = word
  isTextOf : w.IsTextOf file page v.ctx.fileText text
  part : ∃ before after, Lexeme.lex word text = before ++ Lexeme.lex word v.page ++ after ∧
    v.offset = Text.newlines (Lexeme.texts before)
  stack : ∀ top resolved, file = some top → w.disk.resolve top = .ok resolved →
    resolved.toText ∈ v.ctx.includeStack

/-- Whether a fault names a file, an opening marker in the text of the file, and its line, in a run
over `page`. -/
def Fault.IsLocated (w : Workspace) (file : Option Path) (page word : Text) (f : Fault) : Prop :=
  ∃ text, w.IsTextOf file page f.site.file text ∧ f.site.MarksOpening word text

namespace Visit.Placed

variable {w : Workspace} {file : Option Path} {page word text : Text} {v : Visit}

/-- An opening marker of a part of a file stands in the file, on the line that the offset gives. -/
theorem isLocated_of_lex_eq (h : v.Placed w file page word text) {before after : List Lexeme}
    {o : Opening} (hlex : Lexeme.lex word v.page = before ++ .opening o :: after) {f : Fault}
    (hf : f.site = ⟨v.ctx.fileText, some (v.offset + 1 + Text.newlines (Lexeme.texts before)),
      some o.text⟩) :
    f.IsLocated w file page word := by
  obtain ⟨before', after', hlex', hoffset⟩ := h.part
  have hfile : Lexeme.lex word text = before' ++ before ++ .opening o :: (after ++ after') := by
    rw [hlex', hlex]
    simp
  have hline : v.offset + 1 + Text.newlines (Lexeme.texts before) =
      1 + Text.newlines (Lexeme.texts (before' ++ before)) := by
    rw [hoffset, Span.texts_append, Text.newlines_append]
    omega
  refine ⟨text, ?_, ?_⟩
  · rw [hf]
    exact h.isTextOf
  · rw [hf, hline]
    exact Site.marksOpening_of_lex_eq hfile _

/-- What ends the scan of a part of a file is located. -/
theorem blockFaults_scan (h : v.Placed w file page word text) :
    BlockFaults (Fault.IsLocated w file page word) (Page.scan v.ctx v.offset v.page).result := by
  intro f hf _
  rw [Page.scan, h.marker] at hf
  obtain ⟨before, o, after, hlex, hfault⟩ := Span.exists_lexemes_of_ofPieces_eq_error hf
  cases hfault
  exact h.isLocated_of_lex_eq hlex rfl

/-- The blocks of a part of a file are located. -/
theorem isLocated_of_mem_scan (h : v.Placed w file page word text) {spans : List Span}
    (hspans : (Page.scan v.ctx v.offset v.page).result = .ok spans) {d : Directive}
    {start stop : Nat} (hd : Span.block d start stop ∈ spans) {f : Fault}
    (hf : f.site = Task.site v.ctx d) :
    f.IsLocated w file page word := by
  rw [Page.scan, h.marker] at hspans
  obtain ⟨before, o, body, t, after, hlex, -, -, rfl, -, -⟩ :=
    Span.exists_lexemes_of_mem_ofPieces hspans hd
  rw [List.cons_append] at hlex
  exact h.isLocated_of_lex_eq hlex hf

/-- A block of an unknown type is located. -/
theorem blockFaults_requireKnown (h : v.Placed w file page word text) {spans : List Span}
    (hspans : (Page.scan v.ctx v.offset v.page).result = .ok spans) :
    BlockFaults (Fault.IsLocated w file page word) (Page.requireKnown v.ctx spans) := by
  intro f hf _
  obtain ⟨d, start, stop, hd, -, hfault⟩ := Page.requireKnown_eq_error hf
  cases hfault
  exact h.isLocated_of_mem_scan hspans hd rfl

/-- **What a pass calls for is placed again**: a body in the same file, after the lines up to its
opening marker, and an included page in its own file. -/
theorem exists_placed_of_calls (h : v.Placed w file page word text) {v' : Visit}
    (hcall : v.Calls w v') : ∃ text', v'.Placed w file page word text' := by
  cases hcall with
  | @body spans d start stop active frame hspans hd htask =>
    rw [Page.scan, h.marker] at hspans
    -- the body is a part of the lexemes of the page, and the page one of those of the file
    obtain ⟨before, body, after, hlex, -, hbody, hoffset, -, -⟩ :=
      Span.exists_body_of_mem_scan hspans hd
    obtain ⟨before', after', hlex', hoffset'⟩ := h.part
    refine ⟨text, h.marker, h.isTextOf, ⟨before' ++ before, after ++ after', ?_, ?_⟩, h.stack⟩
    · rw [hlex', hlex, hbody, Lexeme.lex_texts_of_lex_eq hlex]
      simp only [List.append_assoc]
    · rw [hoffset, hoffset', Span.texts_append, Text.newlines_append, Int.natCast_add]
  | @page spans d start stop active path content hroom hspans hd htask =>
    -- the whole content of a file is entered, so the lines start again
    obtain ⟨-, hincludes, hstack⟩ := Task.includes_of_ofBlock_eq_page htask
    refine ⟨content, h.marker,
      .inr ⟨path, rfl, hincludes.text, fun top resolved htop hresolved heq => ?_⟩,
      ⟨[], [], ?_, rfl⟩, fun top resolved htop hresolved => ?_⟩
    · rw [heq] at hstack
      exact hstack (h.stack top resolved htop hresolved)
    · rw [List.nil_append, List.append_nil]
    · exact List.mem_append_left _ (h.stack top resolved htop hresolved)

end Visit.Placed

/-! ## A whole run -/

/-- Spans are put together with no other faults than those of their blocks. -/
theorem Span.blockFaults_assemble {P : Fault → Prop} {spans : List Span} {flags : List Bool}
    {f : (d : Directive) → (∃ a b, Span.block d a b ∈ spans) → Bool → Outcome Text}
    (h : ∀ d hd active, BlockFaults P (f d hd active).result) :
    BlockFaults P (assemble spans flags f).result := by
  induction spans generalizing flags with
  | nil => exact .ok _
  | cons span spans ih =>
    cases span with
    | text s =>
      rw [assemble, Outcome.result_bind]
      exact .bind (ih fun d hd active => h d _ active) fun _ _ => .ok _
    | block d start stop =>
      rw [assemble, Outcome.result_bind]
      refine .bind (h d _ _) fun _ _ => ?_
      rw [Outcome.result_bind]
      exact .bind (ih fun d hd active => h d _ active) fun _ _ => .ok _

namespace Visit

variable {w : Workspace} {file : Option Path} {page word text : Text}

/-- **The faults of a pass are located** if those of the texts that it calls for are. -/
theorem Placed.blockFaults_pass {v : Visit} (h : v.Placed w file page word text)
    {visit : Visit → Outcome Text}
    (hcalls : ∀ v', v.Calls w v' →
      BlockFaults (Fault.IsLocated w file page word) (visit v').result) :
    BlockFaults (Fault.IsLocated w file page word) (Page.pass w visit v).result := by
  rw [Page.pass, Outcome.result_bind]
  refine .bind h.blockFaults_scan fun spans hspans => ?_
  rw [Outcome.result_bind]
  refine .bind (h.blockFaults_requireKnown hspans) fun _ hknown => ?_
  -- from here on all types are known, so the flags are there and no block lacks its type
  have hknown := Page.requireKnown_eq_ok_iff.1 hknown
  rw [Outcome.result_bind]
  refine .bind ?_ fun flags _ => ?_
  · rw [Activation.resolve, Activation.result_resolveFrom _ hknown]
    exact .ok _
  refine Span.blockFaults_assemble fun d hd active => ?_
  obtain ⟨start, stop, hd⟩ := hd
  rw [Page.perform, Outcome.result_bind]
  refine .bind ?_ fun task htask => ?_
  · exact (Task.blockFaults_ofBlock (hknown d start stop hd) active).mono fun f hf =>
      h.isLocated_of_mem_scan hspans hd hf
  · -- what is left are the faults of the texts that the blocks call for
    cases task with
    | done s => exact .ok _
    | body frame =>
      rw [Page.finish, Outcome.result_bind]
      exact .bind (hcalls _ (.body hspans hd htask)) fun _ _ => .ok _
    | page path content hroom => exact hcalls _ (.page hspans hd htask)

/-- The faults of the work on a part of a file are located. -/
theorem Placed.blockFaults_expand {v : Visit} (h : v.Placed w file page word text) :
    BlockFaults (Fault.IsLocated w file page word) (v.expand w).result := by
  induction v using induction (w := w) generalizing text with
  | h v ih =>
    rw [expand_eq_pass]
    refine h.blockFaults_pass fun v' hcall => ?_
    obtain ⟨text', hplaced⟩ := h.exists_placed_of_calls hcall
    exact ih v' hcall hplaced

end Visit

/-- A run starts with the whole text of the caller's file. -/
theorem Context.placed_top {w : Workspace} {options : Options} {r : Registry} {file : Option Path}
    {ctx : Context} (h : Context.top w.disk options r file = .ok ctx) (page : Text) :
    Visit.Placed w file page options.marker page ⟨ctx, 0, page⟩ := by
  -- the whole page is its own part, with no lines before it
  cases file with
  | none =>
    cases h
    exact ⟨rfl, .inl ⟨rfl, rfl⟩, ⟨[], [], by simp, rfl⟩, nofun⟩
  | some path =>
    cases hresolve : w.disk.resolve path with
    | error e =>
      rw [Context.top, hresolve] at h
      cases h
    | ok resolved =>
      rw [Context.top, hresolve] at h
      cases h
      refine ⟨rfl, .inl ⟨rfl, rfl⟩, ⟨[], [], by simp, rfl⟩, fun top resolved' htop htop' => ?_⟩
      cases htop
      rw [hresolve] at htop'
      cases htop'
      exact List.mem_singleton_self _

/-- **Faults of blocks tell the truth about where they are.** A block that is never closed, a block
of an unknown type and an include that is missing, circular or too deep are reported with an opening
marker and a line, and in the text of the reported file the marker stands on that line. In every
context, once the types of all blocks are known, deciding which blocks are active does not fail and
leaves out none. -/
theorem Page.site_of_process_eq_fault {w : Workspace} {options : Options} {file : Option Path}
    {page : Text} {f : Fault} (h : (process w options file page).result = .error (.fault f))
    (hkind : f.kind.isOfBlock = true) :
    (∃ text, w.IsTextOf file page f.site.file text ∧ f.site.MarksOpening options.marker text) ∧
      ∀ (ctx : Context) (offset : Int) (part : Text) (spans : List Span),
        (scan ctx offset part).result = .ok spans → requireKnown ctx spans = .ok () →
          ∃ flags,
            (Activation.resolve ctx.registry ctx.options.environment spans).result = .ok flags ∧
              flags.length = spans.length := by
  constructor
  · have hfaults : BlockFaults (Fault.IsLocated w file page options.marker)
        (process w options file page).result := by
      rw [result_process]
      refine .bind (.of_noBlockFault (Extension.noBlockFault_loadAll _ _ _ _)) fun r _ => ?_
      refine .bind (Context.faultFree_top _ _ _ _).blockFaults fun ctx hctx => ?_
      refine .bind (Context.placed_top hctx page).blockFaults_expand fun assembled _ => ?_
      exact .of_noBlockFault (noBlockFault_interpolate _ _ _ _ _)
    exact hfaults f h hkind
  · intro ctx offset part spans _ hknown
    exact ⟨_, Activation.result_resolveFrom _ (requireKnown_eq_ok_iff.1 hknown) _,
      Activation.length_flags _ _ _ _⟩

namespace UnclosedBlock

theorem locate_caller :
    Disk.locate ⟨[], []⟩ (.absolute ["p".toList]) = .ok (.absent ["p".toList]) :=
  Disk.locateBy_eq_ok_iff.2
    ⟨by decide, .last ⟨rfl, by decide, by decide, by decide⟩ fun _ _ => nofun⟩

theorem resolve_caller :
    Disk.resolve ⟨[], []⟩ ⟨['/'], ["p".toList]⟩ = .ok ⟨['/'], ["p".toList]⟩ :=
  Disk.resolve_of_locate rfl (Disk.resolvePlace_of_name rfl (by decide) fun _ => nofun) locate_caller

end UnclosedBlock

/-- A block that is never closed, on the second line of the caller's file. -/
theorem Page.site_of_process_eq_fault_of_unclosed :
    (process ⟨{}, ⟨[], []⟩⟩ { marker := "m".toList, delimiters := ⟨⟨[], .empty, 0, false⟩, none⟩ }
        (some ⟨['/'], ["p".toList]⟩) "x\n<!--m:js-->".toList).result =
      .error (.fault (.unterminated "js".toList
        ⟨some "/p".toList, some 2, some "<!--m:js-->".toList⟩)) ∧
    ∃ text, Workspace.IsTextOf ⟨{}, ⟨[], []⟩⟩ (some ⟨['/'], ["p".toList]⟩) "x\n<!--m:js-->".toList
        (some "/p".toList) text ∧
      Site.MarksOpening "m".toList text ⟨some "/p".toList, some 2, some "<!--m:js-->".toList⟩ := by
  have hscan (gated : Text → Bool) (file : Option Text) :
      (Span.scan "m".toList gated file 0 "x\n<!--m:js-->".toList).result =
        .error (.fault (.unterminated "js".toList ⟨file, some 2, some "<!--m:js-->".toList⟩)) := by
    have hpieces : Piece.ofLexemes (Lexeme.lex "m".toList "x\n<!--m:js-->".toList) =
        [.char 'x', .char '\n', .unclosed ⟨"<!--m:js-->".toList, "js".toList, none, none, none⟩] := by
      decide +kernel
    rw [Span.scan, hpieces]
    rfl
  have hexpand (w : Workspace) (ctx : Context) (hmarker : ctx.options.marker = "m".toList) :
      (expand w ctx 0 "x\n<!--m:js-->".toList).result =
        .error (.fault (.unterminated "js".toList
          ⟨ctx.fileText, some 2, some "<!--m:js-->".toList⟩)) := by
    have hpass := Visit.expand_eq_pass (w := w) ⟨ctx, 0, "x\n<!--m:js-->".toList⟩
    rw [Visit.expand] at hpass
    rw [hpass, pass, Outcome.result_bind, scan, hmarker, hscan]
    rfl
  have hresolve := UnclosedBlock.resolve_caller
  have hprocess : (process ⟨{}, ⟨[], []⟩⟩
      { marker := "m".toList, delimiters := ⟨⟨[], .empty, 0, false⟩, none⟩ }
        (some ⟨['/'], ["p".toList]⟩) "x\n<!--m:js-->".toList).result = .error (.fault
          (.unterminated "js".toList ⟨some "/p".toList, some 2, some "<!--m:js-->".toList⟩)) := by
    simp only [result_process, registry, Extension.loadAll, Outcome.result_pure, Context.top,
      hresolve, Except.bind, bind, hexpand]
    rfl
  exact ⟨hprocess, (site_of_process_eq_fault hprocess rfl).1⟩

end BuildBlocks
