import BuildBlocks.Proofs.BodyLocality
import BuildBlocks.Proofs.DiskWalks
import BuildBlocks.Proofs.Reach
import BuildBlocks.Proofs.TreeRendering

/-!
# Environments matter through targets only

The environment of a call decides which blocks are active, and the decision asks only whether the
environment is among the targets of a block. Two environments that are among the targets of the same
blocks cannot be told apart by a call: it gives the same page or the same failure in both
(`Page.result_process_eq_of_agree`).

## The architecture

* **`Activation.flags_congr`**: switches come to the same decisions.
* **`Element.resolved_within`**: what a block becomes, once it is known whether it is active, does
  not look at the environment.
* **`Visit.result_expand_within`**: so two passes over a text go the same way. The induction is on
  the measure of visits, since an inactive block is worked through as well as an active one.
-/

namespace BuildBlocks

/-- The options with another environment. -/
def Options.within (options : Options) (e : Text) : Options := { options with environment := some e }

/-- The context with another environment. -/
def Context.within (ctx : Context) (e : Text) : Context := { ctx with options := ctx.options.within e }

/-- The text in a context with another environment. -/
def Visit.within (v : Visit) (e : Text) : Visit := { v with ctx := v.ctx.within e }

variable {e₁ e₂ : Text}

/-! ## Decisions -/

namespace Activation

/-- Whether a block applies by itself depends on whether the environment is among its targets. -/
theorem appliesTo_congr {d : Directive} (h : e₁ ∈ d.targets ↔ e₂ ∈ d.targets) (b : BlockType) :
    appliesTo (some e₁) b d = appliesTo (some e₂) b d := by
  have hcontains : d.targets.contains e₁ = d.targets.contains e₂ := by
    rw [Bool.eq_iff_iff, List.contains_iff_mem, List.contains_iff_mem]
    exact h
  simp only [appliesTo, Option.isNone_some, Option.any_some, hcontains]

theorem decide_congr (r : Registry) (s : Switch) {d : Directive}
    (h : e₁ ∈ d.targets ↔ e₂ ∈ d.targets) : decide r (some e₁) s d = decide r (some e₂) s d := by
  unfold decide
  split
  · rfl
  · next b _ => rw [appliesTo_congr h b]

/-- **Switches come to the same decisions** in environments that are among the targets of the same
blocks. -/
theorem flags_congr (r : Registry) {spans : List Span}
    (h : ∀ d start stop, Span.block d start stop ∈ spans → (e₁ ∈ d.targets ↔ e₂ ∈ d.targets))
    (s : Switch) : flags r (some e₁) s spans = flags r (some e₂) s spans := by
  induction spans generalizing s with
  | nil => rfl
  | cons span spans ih =>
    have ih := ih fun d start stop hd => h d start stop (List.mem_cons_of_mem _ hd)
    cases span with
    | text t => exact congrArg (false :: ·) (ih _)
    | block d start stop =>
      rw [flags, flags, decide_congr r s (h d start stop List.mem_cons_self), ih]

end Activation

/-! ## Blocks -/

namespace Span

/-- Spans put together depend on the results of their blocks only. -/
theorem result_assemble_congr {f g : Directive → Bool → Outcome Text} {spans : List Span}
    (h : ∀ d start stop active, Span.block d start stop ∈ spans →
      (f d active).result = (g d active).result) (flags : List Bool) :
    (assemble spans flags fun d _ active => f d active).result =
      (assemble spans flags fun d _ active => g d active).result := by
  induction spans generalizing flags with
  | nil => rfl
  | cons span spans ih =>
    have ih := ih fun d start stop active hd => h d start stop active (List.mem_cons_of_mem _ hd)
    cases span with
    | text t => rw [result_assemble_text, result_assemble_text, ih]
    | block d start stop =>
      rw [result_assemble_block, result_assemble_block, h d start stop _ List.mem_cons_self, ih]

variable {word : Text} {gated : Text → Bool} {file : Option Text} {offset : Int} {page : Text}

theorem Nested.of_body {outer d : Directive} {left right l r : Nat}
    (houter : Nested word gated file offset page outer left right)
    (h : Nested word gated file outer.bodyOffset outer.body d l r) :
    Nested word gated file offset page d (left + l) (left + r) := by
  induction h with
  | block h hd => exact .inner houter h hd
  | inner _ h hd ih =>
    have hinner := ih.inner h hd
    rw [Nat.add_assoc, Nat.add_assoc] at hinner
    exact hinner

end Span

namespace Element

variable {w : Workspace} {ctx : Context}

theorem included_congr {enter enter' : Enter w ctx} (d : Directive)
    (henter : ∀ h path content, w.disk.readText w.settings.encoding path = .ok content →
      enter h path content = enter' h path content) :
    included w ctx enter d = included w ctx enter' d := by
  unfold included
  cases Task.includedFile w.disk ctx d with
  | error e => rfl
  | ok path =>
    show (w.disk.readText w.settings.encoding path).bind _ =
      (w.disk.readText w.settings.encoding path).bind _
    cases hcontent : w.disk.readText w.settings.encoding path with
    | error e => rfl
    | ok content => simp only [Except.bind, henter _ path content hcontent]

/-- What a block becomes depends on its body and on how the pages are entered that are there. -/
theorem resolved_congr {enter enter' : Enter w ctx} (d : Directive) {inner inner' : Except Failure Text}
    (hinner : inner = inner')
    (henter : ∀ h path content, w.disk.readText w.settings.encoding path = .ok content →
      enter h path content = enter' h path content) (active : Bool) :
    resolved w ctx enter d inner active = resolved w ctx enter' d inner' active := by
  subst hinner
  unfold resolved
  split
  · rfl
  · next b _ =>
    split
    · cases b.handler with
      | includeFile => exact included_congr d henter
      | _ => rfl
    · rfl

/-- **What a block becomes does not look at the environment**, once it is known whether it is
active: only the parts of custom types do. -/
theorem resolved_within (hregistry : ctx.registry = .initial) (e : Text) (enter : Enter w ctx)
    (d : Directive) (inner : Except Failure Text) (active : Bool) :
    resolved w (ctx.within e) enter d inner active = resolved w ctx enter d inner active := by
  have hfind : (ctx.within e).registry.find? d.kind = ctx.registry.find? d.kind := rfl
  unfold resolved
  rw [hfind, hregistry]
  split
  · rfl
  · next b hb =>
    have hbuiltin := Registry.isBuiltin_of_find? hb
    split
    · cases hhandler : b.handler with
      | parts ps =>
        rw [hhandler] at hbuiltin
        cases hbuiltin
      | _ => rfl
    · rfl

end Element

/-! ## Passes -/

namespace Page

/-- A block becomes the same in two environments, if its body does, and all pages that are there
and lie within the limit. -/
theorem result_perform_within {w : Workspace} {ctx : Context} (hregistry : ctx.registry = .initial)
    {visit : Visit → Outcome Text} {d : Directive}
    (hbody : (visit ⟨ctx.within e₁, d.bodyOffset, d.body⟩).result =
      (visit ⟨ctx.within e₂, d.bodyOffset, d.body⟩).result)
    (hpage : (ctx.depth : Int) < w.settings.maxIncludeDepth → ∀ path content,
      w.disk.readText w.settings.encoding path = .ok content →
        (visit ⟨(ctx.within e₁).enter path, 0, content⟩).result =
          (visit ⟨(ctx.within e₂).enter path, 0, content⟩).result) (active : Bool) :
    (perform w visit (ctx.within e₁) d active).result =
      (perform w visit (ctx.within e₂) d active).result := by
  calc (perform w visit (ctx.within e₁) d active).result
      = Element.resolved w (ctx.within e₁)
          (fun _ path content => (visit ⟨(ctx.within e₁).enter path, 0, content⟩).result) d
          (visit ⟨ctx.within e₁, d.bodyOffset, d.body⟩).result active := result_perform _ _ _ _ _
    _ = Element.resolved w ctx
          (fun _ path content => (visit ⟨(ctx.within e₁).enter path, 0, content⟩).result) d
          (visit ⟨ctx.within e₁, d.bodyOffset, d.body⟩).result active :=
        Element.resolved_within hregistry e₁ _ d _ active
    _ = Element.resolved w ctx
          (fun _ path content => (visit ⟨(ctx.within e₂).enter path, 0, content⟩).result) d
          (visit ⟨ctx.within e₂, d.bodyOffset, d.body⟩).result active :=
        Element.resolved_congr d hbody hpage active
    _ = Element.resolved w (ctx.within e₂)
          (fun _ path content => (visit ⟨(ctx.within e₂).enter path, 0, content⟩).result) d
          (visit ⟨ctx.within e₂, d.bodyOffset, d.body⟩).result active :=
        (Element.resolved_within hregistry e₂ _ d _ active).symm
    _ = (perform w visit (ctx.within e₂) d active).result := (result_perform _ _ _ _ _).symm

end Page

namespace Visit

/-- Two environments are among the targets of the same blocks of a text, at every depth. -/
def Agrees (e₁ e₂ : Text) (v : Visit) : Prop :=
  ∀ d left right, Span.Nested v.ctx.options.marker v.ctx.registry.isGated v.ctx.fileText v.offset
    v.page d left right → (e₁ ∈ d.targets ↔ e₂ ∈ d.targets)

/-- Environments that agree on a text agree on the bodies of its blocks. -/
theorem Agrees.body {v : Visit} (h : v.Agrees e₁ e₂) {spans : List Span} {d : Directive}
    {start stop : Nat} (hscan : (Page.scan v.ctx v.offset v.page).result = .ok spans)
    (hd : Span.block d start stop ∈ spans) :
    Visit.Agrees e₁ e₂ ⟨v.ctx, d.bodyOffset, d.body⟩ :=
  fun d' _ _ hd' => h d' _ _ ((Span.Nested.block hscan hd).of_body hd')

/-- **Passes go the same way** in environments that agree on the text and on all files. -/
theorem result_expand_within {w : Workspace} {word : Text}
    (hfiles : ∀ (ctx : Context) (path : Path) (s : Text), ctx.options.marker = word →
      ctx.registry = .initial → w.disk.readText w.settings.encoding path = .ok s →
        Visit.Agrees e₁ e₂ ⟨ctx.enter path, 0, s⟩)
    (v : Visit) (hword : v.ctx.options.marker = word) (hregistry : v.ctx.registry = .initial)
    (hagrees : v.Agrees e₁ e₂) :
    ((v.within e₁).expand w).result = ((v.within e₂).expand w).result := by
  induction v using (wellFounded_measure w.settings).induction with
  | h v ih =>
    rw [expand_eq_pass, expand_eq_pass, Page.result_pass, Page.result_pass]
    -- both passes cut the text in the same way and know the same types
    show (Page.scan v.ctx v.offset v.page).result.bind _ =
      (Page.scan v.ctx v.offset v.page).result.bind _
    cases hscan : (Page.scan v.ctx v.offset v.page).result with
    | error e => rfl
    | ok spans =>
      show (Page.requireKnown v.ctx spans).bind _ = (Page.requireKnown v.ctx spans).bind _
      cases hrequire : Page.requireKnown v.ctx spans with
      | error e => rfl
      | ok _ =>
        have hknown := Page.requireKnown_eq_ok_iff.1 hrequire
        have hflags (e : Text) : (Activation.resolve (v.within e).ctx.registry
            (v.within e).ctx.options.environment spans).result =
              .ok (Activation.flags v.ctx.registry (some e) .none spans) :=
          Activation.result_resolveFrom (some e) hknown .none
        have htargets : ∀ d start stop, Span.block d start stop ∈ spans →
            (e₁ ∈ d.targets ↔ e₂ ∈ d.targets) :=
          fun d _ _ hd => hagrees d _ _ (.block hscan hd)
        show (Activation.resolve _ _ spans).result.bind _ = (Activation.resolve _ _ spans).result.bind _
        rw [hflags e₁, hflags e₂, Activation.flags_congr v.ctx.registry htargets]
        refine Span.result_assemble_congr (fun d start stop active hd => ?_) _
        refine Page.result_perform_within hregistry ?_ (fun hroom path content htext => ?_) active
        · exact ih ⟨v.ctx, d.bodyOffset, d.body⟩ (.right _ (Span.length_body_lt hscan hd)) hword
            hregistry (hagrees.body hscan hd)
        · exact ih ⟨v.ctx.enter path, 0, content⟩ (.left _ _ (Context.room_enter_lt path hroom))
            hword hregistry (hfiles v.ctx path content hword hregistry htext)

end Visit

/-! ## A page and its one file -/

namespace Disk

variable {disk : Disk} {p : Path}

/-- What is read stands on the disk, if that holds no sources of block types. -/
theorem exists_mem_of_readBytes {content : Bytes} (h : disk.readBytes p = .ok content)
    (hsource : ∀ place name, (place, Entry.source name) ∉ disk.entries) :
    ∃ place, (place, Entry.file content) ∈ disk.entries := by
  have hmem {place : Place} {e : Entry} (hlocate : disk.locate p = .ok (.present place e))
      (hfolder : e ≠ .folder) : (place, e) ∈ disk.entries :=
    mem_entries_of_lookup? (lookup?_of_locateBy_present hlocate) hfolder
  unfold readBytes at h
  split at h
  · cases h
  · split at h
    · next hlocate =>
      cases h
      exact ⟨_, hmem hlocate Entry.noConfusion⟩
    · next hlocate => exact absurd (hmem hlocate Entry.noConfusion) (hsource _ _)
    all_goals cases h

end Disk

/-- A page with a single block without a body holds no other block. -/
theorem Span.Nested.eq_of_single {word : Text} {gated : Text → Bool} {file : Option Text}
    {offset : Int} {page : Text} {b d : Directive} {start stop left right : Nat}
    (hscan : (scan word gated file offset page).result = .ok [.block b start stop])
    (hbody : b.body = []) (h : Nested word gated file offset page d left right) : d = b := by
  induction h with
  | block h hd =>
    rw [hscan] at h
    cases h
    cases List.mem_singleton.1 hd
    rfl
  | inner _ h hd ih =>
    -- nothing stands in an empty body
    have hempty : Piece.ofLexemes (Lexeme.lex word []) = [] := by
      rw [Lexeme.lex, Piece.ofLexemes]
    rw [ih, hbody, scan, hempty] at h
    cases h
    cases hd

namespace TargetedPage

open IncludingPage

/-- A page that is one block for the targets `a` and `b`. -/
def targeted : Text := "<!--m:js:a,b x--><!--/m-->".toList

/-- The opening marker of that page. -/
def targetedOpening : Opening where
  text := "<!--m:js:a,b x-->".toList
  kind := "js".toList
  targets := some "a,b".toList
  params := none
  value := some "x".toList

theorem lex_targeted :
    Lexeme.lex "m".toList targeted = [.opening targetedOpening, .closing closing] := by
  have hopening : Lexeme.first "m".toList '<' targeted.tail = (.opening targetedOpening, closing) := by
    rfl
  exact Lexeme.lex_eq_pair hopening first_closing

/-- Nothing but the content of `a.html` can be read. -/
theorem eq_of_readText {limit : Int} {content : Bytes} {s t : Text} {p : Path}
    (hpath : (workspace limit content).disk.readText "utf-8".toList path = .ok s)
    (h : (workspace limit content).disk.readText "utf-8".toList p = .ok t) : t = s := by
  have hcontent {q : Path} {bytes : Bytes}
      (hread : (workspace limit content).disk.readBytes q = .ok bytes) : bytes = content := by
    obtain ⟨place, hmem⟩ := Disk.exists_mem_of_readBytes hread fun place name hsource => by
      cases List.mem_singleton.1 hsource
    cases List.mem_singleton.1 hmem
    rfl
  obtain ⟨bytes, hread, hdecode⟩ := bind_eq_ok_iff.1 hpath
  obtain ⟨bytes', hread', hdecode'⟩ := bind_eq_ok_iff.1 h
  rw [hcontent hread] at hdecode
  rw [hcontent hread', hdecode] at hdecode'
  exact (Except.ok.inj hdecode').symm

end TargetedPage

/-! ## Calls -/

theorem Context.top_within (disk : Disk) (options : Options) (r : Registry) (file : Option Path)
    (e : Text) :
    Context.top disk (options.within e) r file =
      (Context.top disk options r file).map (·.within e) := by
  cases file with
  | none => rfl
  | some path =>
    rw [Context.top, Context.top]
    cases disk.resolve path <;> rfl

theorem Context.fileText_of_top {disk : Disk} {options : Options} {r : Registry}
    {file : Option Path} {top : Context} (h : Context.top disk options r file = .ok top) :
    top.fileText = file.map Path.toText := by
  cases file with
  | none =>
    cases h
    rfl
  | some path =>
    obtain ⟨resolved, -, h⟩ := bind_eq_ok_iff.1 h
    cases h
    rfl

namespace Page

/-- **Environments matter through targets only.** If two environments are among the targets of the
same blocks, at every depth of the page and of every file that can be read, a call with the block
types that are always there gives the same page in both, or the same failure. -/
theorem result_process_eq_of_agree {w : Workspace} {options : Options} {file : Option Path}
    {page : Text} {e₁ e₂ : Text} (hextensions : options.extensions = [])
    (hpage : ∀ d left right, Span.Nested options.marker Registry.initial.isGated
      (file.map Path.toText) 0 page d left right → (e₁ ∈ d.targets ↔ e₂ ∈ d.targets))
    (hfiles : ∀ path s, w.disk.readText w.settings.encoding path = .ok s →
      ∀ d left right, Span.Nested options.marker Registry.initial.isGated (some path.toText) 0 s d
        left right → (e₁ ∈ d.targets ↔ e₂ ∈ d.targets)) :
    (process w { options with environment := some e₁ } file page).result =
      (process w { options with environment := some e₂ } file page).result := by
  show (process w (options.within e₁) file page).result =
    (process w (options.within e₂) file page).result
  have hregistry (e : Text) :
      (registry w.disk (options.within e) w.settings.extensionOf).result = .ok .initial := by
    show (Extension.loadAll w.disk .initial w.settings.extensionOf options.extensions).result = _
    rw [hextensions]
    rfl
  -- the two calls start alike, in contexts that differ in the environment only
  rw [result_process, result_process, hregistry, hregistry]
  show (Context.top w.disk (options.within e₁) .initial file).bind _ =
    (Context.top w.disk (options.within e₂) .initial file).bind _
  rw [Context.top_within, Context.top_within]
  cases htop : Context.top w.disk options .initial file with
  | error e => rfl
  | ok ctx =>
    obtain ⟨hoptions, hinitial, -⟩ := Context.eq_of_top htop
    have hagrees : Visit.Agrees e₁ e₂ ⟨ctx, 0, page⟩ := by
      rw [Visit.Agrees, hoptions, hinitial, Context.fileText_of_top htop]
      exact hpage
    have hread : ∀ (ctx : Context) (path : Path) (s : Text), ctx.options.marker = options.marker →
        ctx.registry = .initial → w.disk.readText w.settings.encoding path = .ok s →
          Visit.Agrees e₁ e₂ ⟨ctx.enter path, 0, s⟩ := by
      intro ctx path s hmarker hinitial htext
      show ∀ d left right, Span.Nested ctx.options.marker ctx.registry.isGated (some path.toText) 0
        s d left right → _
      rw [hmarker, hinitial]
      exact hfiles path s htext
    have hexpand := Visit.result_expand_within hread ⟨ctx, 0, page⟩ (hoptions ▸ rfl) hinitial hagrees
    -- placeholders are filled after that, without a look at the environment
    show (expand w (ctx.within e₁) 0 page).result.bind _ =
      (expand w (ctx.within e₂) 0 page).result.bind _
    exact congrArg (Except.bind · _) hexpand

end Page

open IncludingPage TargetedPage

/-- A page that includes a block for the targets `a` and `b` is the same for both. -/
theorem Page.result_process_eq_of_agree_of_targeted :
    options.extensions = [] ∧
      (∀ d left right, Span.Nested options.marker Registry.initial.isGated
        ((some caller).map Path.toText) 0 page d left right →
          ("a".toList ∈ d.targets ↔ "b".toList ∈ d.targets)) ∧
      (∀ path s, (workspace 1 (Utf8.encode targeted)).disk.readText
          (workspace 1 (Utf8.encode targeted)).settings.encoding path = .ok s →
        ∀ d left right, Span.Nested options.marker Registry.initial.isGated
          (some path.toText) 0 s d left right →
            ("a".toList ∈ d.targets ↔ "b".toList ∈ d.targets)) ∧
      (process (workspace 1 (Utf8.encode targeted)) { options with environment := some "a".toList }
          (some caller) page).result =
        (process (workspace 1 (Utf8.encode targeted)) { options with environment := some "b".toList }
          (some caller) page).result := by
  have hextensions : options.extensions = [] := rfl
  have hpage : ∀ d left right, Span.Nested options.marker Registry.initial.isGated
      ((some caller).map Path.toText) 0 page d left right →
        ("a".toList ∈ d.targets ↔ "b".toList ∈ d.targets) := by
    intro d left right hd
    cases hd.eq_of_single (result_scan_page _) rfl
    exact ⟨nofun, nofun⟩
  have hfiles : ∀ path s, (workspace 1 (Utf8.encode targeted)).disk.readText
      (workspace 1 (Utf8.encode targeted)).settings.encoding path = .ok s →
        ∀ d left right, Span.Nested options.marker Registry.initial.isGated
          (some path.toText) 0 s d left right →
            ("a".toList ∈ d.targets ↔ "b".toList ∈ d.targets) := by
    intro path s htext d left right hd
    have hread : (workspace 1 (Utf8.encode targeted)).disk.readText "utf-8".toList
        IncludingPage.path = .ok targeted := by
      have hdecode : Codec.utf8.decode (Utf8.encode targeted) = .ok targeted := by rfl
      rw [Disk.readText_of_readBytes .utf8 (readBytes_path 1 _) rfl, hdecode]
      rfl
    cases eq_of_readText hread htext
    cases hd.eq_of_single (Span.result_scan_of_block lex_targeted .nil _ _ _) rfl
    exact iff_of_true (by decide) (by decide)
  exact ⟨hextensions, hpage, hfiles, result_process_eq_of_agree hextensions hpage hfiles⟩

end BuildBlocks
