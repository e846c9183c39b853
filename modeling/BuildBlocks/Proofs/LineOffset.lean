import BuildBlocks.Proofs.Noninterference

/-!
# Lines matter in faults only

How many lines of its file stand before a text is carried along while the text is worked through, so
that a fault can name its line. It has no other effect: with the block types that are always there, a
text that begins further down in its file becomes the same text, or fails in the same way up to the
line that a fault names (`Visit.unlined_expand_moved`).

## The architecture

* **`unlined`** forgets the lines of faults, and goes through steps that are joined.
* **`Span.unlined_ofPieces_moved`**: a scan that starts further down gives the same spans with their
  lines moved (`Span.moved`).
* **`Element.unlined_resolved_moved`**: what a block becomes does not look at its lines.
-/

namespace BuildBlocks

variable {α β : Type}

/-! ## Forgetting lines -/

/-- A failure whose fault names no line. -/
def Failure.unlined : Failure → Failure
  | .fault f => .fault { f with site := { f.site with line := none } }
  | e => e

/-- A result whose fault names no line. -/
def unlined (r : Except Failure α) : Except Failure α := r.mapError Failure.unlined

theorem unlined_eq_ok_iff {r : Except Failure α} {a : α} : unlined r = .ok a ↔ r = .ok a := by
  cases r <;> simp [unlined, Except.mapError]

theorem unlined_bind (x : Except Failure α) (f : α → Except Failure β) :
    unlined (x.bind f) = (unlined x).bind fun a => unlined (f a) := by
  cases x <;> rfl

theorem unlined_bind_congr {x y : Except Failure α} {f g : α → Except Failure β}
    (h : unlined x = unlined y) (hf : ∀ a, unlined (f a) = unlined (g a)) :
    unlined (x.bind f) = unlined (y.bind g) := by
  rw [unlined_bind, unlined_bind, h, funext hf]

theorem unlined_map (f : α → β) (x : Except Failure α) : unlined (x.map f) = (unlined x).map f := by
  cases x <;> rfl

/-! ## Lines moved -/

/-- A block that stands `n` lines further down. -/
def Directive.moved (n : Int) (d : Directive) : Directive :=
  { d with startLine := d.startLine + n, endLine := d.endLine + n }

/-- A span that stands `n` lines further down. -/
def Span.moved (n : Int) : Span → Span
  | .text s => .text s
  | .block d start stop => .block (d.moved n) start stop

/-- A text with `n` more lines of its file before it. -/
def Visit.moved (n : Int) (v : Visit) : Visit := { v with offset := v.offset + n }

namespace Directive

theorem bodyOffset_moved (n : Int) (d : Directive) : (d.moved n).bodyOffset = d.bodyOffset + n := by
  simp only [bodyOffset, moved]
  omega

theorem text_moved (n : Int) (d : Directive) : (d.moved n).text = d.text := rfl

theorem ofParts_add (gated : Bool) (line n : Int) (o : Opening) (body closing : Text) :
    ofParts gated (line + n) o body closing = (ofParts gated line o body closing).moved n := by
  have hend : line + n + Text.newlines o.text + Text.newlines body =
      line + Text.newlines o.text + Text.newlines body + n := by
    omega
  rw [ofParts, hend]
  rfl

end Directive

namespace Span

variable {gated : Text → Bool} {file : Option Text}

theorem map_moved_withText (n : Int) (gathered : Text) (spans : List Span) :
    (withText gathered spans).map (moved n) = withText gathered (spans.map (moved n)) := by
  unfold withText
  split <;> rfl

/-- **A scan that starts further down** gives the same spans further down. -/
theorem unlined_ofPieces_moved (n : Int) (ps : List Piece) (position : Nat) (line : Int)
    (gathered : Text) :
    unlined (ofPieces gated file position (line + n) gathered ps).result =
      unlined ((ofPieces gated file position line gathered ps).result.map (·.map (moved n))) := by
  induction ps generalizing position line gathered with
  | nil => exact congrArg (unlined ∘ Except.ok) (map_moved_withText n gathered []).symm
  | cons p ps ih =>
    cases p with
    | char c =>
      rw [ofPieces, ofPieces, Int.add_right_comm]
      exact ih _ _ _
    | stray t =>
      rw [result_ofPieces_stray, result_ofPieces_stray, Int.add_right_comm]
      exact ih _ _ _
    | block o body t =>
      rw [result_ofPieces_block, result_ofPieces_block]
      dsimp only
      rw [Directive.ofParts_add, Directive.text_moved, Int.add_right_comm, unlined_map, ih,
        unlined_map, unlined_map, unlined_map]
      cases unlined (ofPieces gated file _ _ [] ps).result with
      | error e => rfl
      | ok spans =>
        exact congrArg Except.ok (map_moved_withText n gathered
          (.block (.ofParts (gated o.kind) line o (Lexeme.texts body) t) position _ :: spans)).symm
    | unclosed o => rfl

end Span

/-! ## Decisions -/

namespace Activation

/-- Switches do not look at lines. -/
theorem flags_map_moved (r : Registry) (environment : Option Text) (n : Int) (s : Switch)
    (spans : List Span) :
    flags r environment s (spans.map (Span.moved n)) = flags r environment s spans := by
  induction spans generalizing s with
  | nil => rfl
  | cons span spans ih =>
    cases span with
    | text t => exact congrArg (false :: ·) (ih _)
    | block d start stop =>
      exact congrArg ((decide r environment s d).1 :: ·) (ih (decide r environment s d).2)

end Activation

namespace Page

/-- The first block of an unknown type is the same one further down. -/
theorem unlined_requireKnown_moved (ctx : Context) (n : Int) (spans : List Span) :
    unlined (requireKnown ctx (spans.map (Span.moved n))) = unlined (requireKnown ctx spans) := by
  have hunknown : (unknownBlock? ctx (spans.map (Span.moved n))).map Failure.unlined =
      (unknownBlock? ctx spans).map Failure.unlined := by
    induction spans with
    | nil => rfl
    | cons span spans ih =>
      cases span with
      | text t => exact ih
      | block d start stop =>
        simp only [unknownBlock?, List.map_cons, Span.moved, List.filterMap_cons,
          Span.directive?, List.findSome?_cons, Directive.moved] at ih ⊢
        cases ctx.registry.find? d.kind with
        | some b => exact ih
        | none => rfl
  rw [requireKnown, requireKnown]
  cases h : unknownBlock? ctx spans with
  | none =>
    rw [h] at hunknown
    rw [Option.map_eq_none_iff.1 hunknown]
  | some e =>
    rw [h] at hunknown
    obtain ⟨e', he', heq⟩ := Option.map_eq_some_iff.1 hunknown
    rw [he']
    exact congrArg Except.error heq

end Page

/-! ## Blocks -/

namespace Span

/-- Spans put together become the same further down, if their blocks do. -/
theorem unlined_assemble_moved {f g : Directive → Bool → Outcome Text} {spans : List Span} {n : Int}
    (h : ∀ d start stop active, Span.block d start stop ∈ spans →
      unlined (f (d.moved n) active).result = unlined (g d active).result) (flags : List Bool) :
    unlined (assemble (spans.map (moved n)) flags fun d _ active => f d active).result =
      unlined (assemble spans flags fun d _ active => g d active).result := by
  induction spans generalizing flags with
  | nil => rfl
  | cons span spans ih =>
    have ih := ih fun d start stop active hd => h d start stop active (List.mem_cons_of_mem _ hd)
    cases span with
    | text t =>
      rw [List.map_cons, moved, result_assemble_text, result_assemble_text, unlined_map, unlined_map,
        ih]
    | block d start stop =>
      rw [List.map_cons, moved, result_assemble_block, result_assemble_block, unlined_bind,
        unlined_bind, h d start stop _ List.mem_cons_self]
      simp only [unlined_map, ih]

end Span

namespace Element

variable {w : Workspace} {ctx : Context}

/-- The file of an include does not look at the lines of the block. -/
theorem unlined_includedFile_moved (w : Workspace) (n : Int) (d : Directive) :
    unlined (Task.includedFile w.disk ctx (d.moved n)) =
      unlined (Task.includedFile w.disk ctx d) := by
  cases hparams : d.params.isEmpty with
  | true =>
    have hparams' : (d.moved n).params.isEmpty = true := hparams
    rw [Task.includedFile, Task.includedFile, if_pos hparams, if_pos hparams']
    rfl
  | false =>
    rw [Task.includedFile_eq_bind hparams, Task.includedFile_eq_bind (d := d.moved n) hparams]
    refine unlined_bind_congr rfl fun path => unlined_bind_congr rfl fun isFile => ?_
    cases isFile <;> rfl

theorem unlined_included_moved (enter : Enter w ctx) (n : Int) (d : Directive) :
    unlined (included w ctx enter (d.moved n)) = unlined (included w ctx enter d) := by
  refine unlined_bind_congr (unlined_includedFile_moved w n d) fun path =>
    unlined_bind_congr rfl fun content => ?_
  split
  · rfl
  · split
    · rfl
    · split
      · rfl
      · split <;> rfl

/-- **What a block becomes**, up to lines, depends on its type and parameter, on its markers, and on
what its body becomes. An include depends on its file as well, and a conditional comment on the body
itself. -/
theorem unlined_resolved_congr (hregistry : ctx.registry = .initial) {enter : Enter w ctx}
    {d d' : Directive} {inner inner' : Except Failure Text} {active : Bool}
    (hkind : d'.kind = d.kind) (hparams : d'.params = d.params)
    (hopen : d'.openMarker = d.openMarker) (hclose : d'.closeMarker = d.closeMarker)
    (hbody : ∀ b, ctx.registry.find? d.kind = some b → b.handler = .conditionalComment →
      active = true → d'.body = d.body)
    (hincluded : unlined (included w ctx enter d') = unlined (included w ctx enter d))
    (hinner : unlined inner' = unlined inner) :
    unlined (resolved w ctx enter d' inner' active) =
      unlined (resolved w ctx enter d inner active) := by
  unfold resolved
  rw [hkind]
  cases hfind : ctx.registry.find? d.kind with
  | none => rfl
  | some b =>
    have hbuiltin := Registry.isBuiltin_of_find? (hregistry ▸ hfind)
    dsimp only
    cases active with
    | true =>
      rw [if_pos rfl, if_pos rfl]
      cases hhandler : b.handler with
      | keepBody => exact hinner
      | conditionalComment =>
        rw [Element.active, Element.active, hparams, hbody b hfind hhandler rfl]
      | includeFile => exact hincluded
      | script | styleSheet =>
        rw [Element.active, Element.active, hparams]
        split
        · exact hinner
        · rfl
      | setAttribute =>
        rw [Element.active, Element.active, unlined_map, unlined_map, hinner, hkind, hparams]
      -- the types that are always there are no custom ones
      | parts ps | missingKey =>
        rw [hhandler] at hbuiltin
        cases hbuiltin
    | false =>
      rw [if_neg Bool.false_ne_true, if_neg Bool.false_ne_true, inactive, inactive, hopen, hclose]
      split
      · rfl
      · split
        · exact hinner
        · rw [unlined_map, unlined_map, hinner]

/-- **What a block becomes does not look at its lines**: only the parts of custom types do. -/
theorem unlined_resolved_moved (hregistry : ctx.registry = .initial) (enter : Enter w ctx) (n : Int)
    (d : Directive) {inner inner' : Except Failure Text} (hinner : unlined inner' = unlined inner)
    (active : Bool) :
    unlined (resolved w ctx enter (d.moved n) inner' active) =
      unlined (resolved w ctx enter d inner active) :=
  unlined_resolved_congr hregistry rfl rfl rfl rfl (fun _ _ _ _ => rfl)
    (unlined_included_moved enter n d) hinner

end Element

/-! ## Passes -/

/-- The result of a pass, where the rules of switches alone decide which blocks are active. -/
theorem Page.result_pass_eq_flags (w : Workspace) (visit : Visit → Outcome Text) (v : Visit) :
    (pass w visit v).result =
      (scan v.ctx v.offset v.page).result.bind fun spans =>
        (requireKnown v.ctx spans).bind fun _ =>
          (Span.assemble spans
            (Activation.flags v.ctx.registry v.ctx.options.environment .none spans)
            fun d _ active => perform w visit v.ctx d active).result := by
  rw [result_pass]
  refine congrArg _ (funext fun spans => ?_)
  cases hrequire : requireKnown v.ctx spans with
  | error e => rfl
  | ok _ =>
    have hflags := Activation.result_resolveFrom v.ctx.options.environment
      (requireKnown_eq_ok_iff.1 hrequire) .none
    show (Activation.resolveFrom v.ctx.registry v.ctx.options.environment .none spans).result.bind _ =
      _
    rw [hflags]
    rfl

namespace Visit

/-- **Lines matter in faults only.** With the block types that are always there, a text that begins
further down in its file becomes the same text, or fails in the same way up to the line of a
fault. -/
theorem unlined_expand_moved (w : Workspace) (n : Int) (v : Visit)
    (hregistry : v.ctx.registry = .initial) :
    unlined ((v.moved n).expand w).result = unlined (v.expand w).result := by
  induction v using (wellFounded_measure w.settings).induction with
  | h v ih =>
    have hscan : unlined (Page.scan v.ctx (v.offset + n) v.page).result =
        (unlined (Page.scan v.ctx v.offset v.page).result).map (·.map (Span.moved n)) := by
      rw [← unlined_map, Page.scan, Span.scan, Int.add_right_comm]
      exact Span.unlined_ofPieces_moved n _ _ _ _
    -- scan, check of the kinds and assembly are moved one after another
    rw [expand_eq_pass, expand_eq_pass, Page.result_pass_eq_flags, Page.result_pass_eq_flags,
      unlined_bind, unlined_bind]
    show (unlined (Page.scan v.ctx (v.offset + n) v.page).result).bind _ = _
    rw [hscan]
    cases hspans : unlined (Page.scan v.ctx v.offset v.page).result with
    | error e => rfl
    | ok spans =>
      refine unlined_bind_congr (Page.unlined_requireKnown_moved v.ctx n spans) fun _ => ?_
      show unlined (Span.assemble (spans.map (Span.moved n))
        (Activation.flags v.ctx.registry v.ctx.options.environment .none
          (spans.map (Span.moved n))) _).result = _
      rw [Activation.flags_map_moved]
      refine Span.unlined_assemble_moved (fun d start stop active hd => ?_) _
      show unlined (Page.perform w (expand w) v.ctx (d.moved n) active).result =
        unlined (Page.perform w (expand w) v.ctx d active).result
      rw [Page.result_perform, Page.result_perform, Directive.bodyOffset_moved]
      refine Element.unlined_resolved_moved hregistry _ n d ?_ active
      exact ih ⟨v.ctx, d.bodyOffset, d.body⟩
        (.right _ (Span.length_body_lt (unlined_eq_ok_iff.1 hspans) hd)) hregistry

end Visit

/-- A text that is worked through becomes the same text wherever it begins in its file. -/
theorem Page.result_expand_eq_ok_of_offset {w : Workspace} {ctx : Context} {page t : Text} {i : Int}
    (hregistry : ctx.registry = .initial) (h : (expand w ctx i page).result = .ok t) (j : Int) :
    (expand w ctx j page).result = .ok t := by
  have hmoved : unlined (expand w ctx (i + (j - i)) page).result =
      unlined (expand w ctx i page).result :=
    Visit.unlined_expand_moved w (j - i) ⟨ctx, i, page⟩ hregistry
  have hline : i + (j - i) = j := by omega
  rw [h, hline] at hmoved
  exact unlined_eq_ok_iff.1 hmoved

end BuildBlocks
