import BuildBlocks.Proofs.Calls
import BuildBlocks.Proofs.ElementTree
import BuildBlocks.Proofs.SwitchFlags

/-!
# Rendering the tree of a page

A page is read once into its tree, and the tree is walked: at every list of elements the first block
of an unknown type is a fault, then the switches decide which blocks are active, and then the
elements are rendered in order. No text is read a second time, and only an included page has a tree
of its own.

Working through a page with `Page.expand`, which cuts each body out and reads it again, gives the
same (`result_expand_eq_renderPage`).

## The architecture

* **`result_perform`**: what a block asks for in a pass is what the tree says for it, given that
  bodies and included pages are worked through as the tree says.
* **`result_assemble_spans`**: spans put together in a pass are the elements rendered in order.
* **`result_pass_of_visit`**: so one pass is right if the visits that it calls are, and the
  induction is on visits.
-/

namespace BuildBlocks

/-! ## The renderer -/

namespace Element

/-- The fault of the first block among elements whose type nobody registered. -/
def unknown? (ctx : Context) : List Element → Option Failure
  | [] => none
  | .char _ :: es => unknown? ctx es
  | .stray _ :: es => unknown? ctx es
  | .block o line _ _ :: es =>
    match ctx.registry.find? o.kind with
    | some _ => unknown? ctx es
    | none => some (.fault (.unknownBlock o.kind ⟨ctx.fileText, some line, some o.text⟩))

/-- Which elements are active, in order. A block is judged in the switch that the elements before it
leave; everything but blanks ends a switch. -/
def flags (r : Registry) (environment : Option Text) (s : Activation.Switch) :
    List Element → List Bool
  | [] => []
  | .char c :: es => false :: flags r environment (s.past [c]) es
  | .stray t :: es => false :: flags r environment (s.past t) es
  | .block o line children t :: es =>
    let verdict := Activation.decide r environment s (directive r.isGated o line children t)
    verdict.1 :: flags r environment verdict.2 es

/-- How an included page is rendered, within the limit for nested includes. -/
abbrev Enter (w : Workspace) (ctx : Context) : Type :=
  (ctx.depth : Int) < w.settings.maxIncludeDepth → Path → Text → Except Failure Text

section

variable (w : Workspace) (ctx : Context) (enter : Enter w ctx)

/-- The file that an include block names: put into a script or a style sheet if it is one, as it
stands if it is another file or includes are not recursive, and else rendered by its own tree. -/
def included (d : Directive) : Except Failure Text := do
  let path ← Task.includedFile w.disk ctx d
  let content ← w.disk.readText w.settings.encoding path
  if !w.settings.isHtml (Text.lower path.suffix) then
    .ok (Task.wrapped (Text.lower path.suffix) content)
  else if !ctx.options.recursive then .ok content
  else if ctx.includeStack.contains path.toText then
    let chain := ctx.includeStack.dropWhile (· ≠ path.toText) ++ [path.toText]
    .error (.fault (.circularInclude chain (Task.site ctx d)))
  else if h : (ctx.depth : Int) < w.settings.maxIncludeDepth then enter h path content
  else .error (.fault (.includeDepth w.settings.maxIncludeDepth path.toText (Task.site ctx d)))

/-- What an active block becomes, where `inner` is its children rendered. -/
def active (d : Directive) (inner : Except Failure Text) : Handler → Except Failure Text
  | .keepBody => inner
  | .conditionalComment =>
    let condition := if d.params.isEmpty then "IE".toList else d.params
    .ok ("<!--[if ".toList ++ condition ++ "]>".toList ++ d.body ++ "<![endif]-->".toList)
  | .includeFile => included w ctx enter d
  | .script =>
    if d.params.isEmpty then inner
    else .ok ("<script src=\"".toList ++ d.params ++ "\"></script>".toList)
  | .styleSheet =>
    if d.params.isEmpty then inner
    else .ok ("<link rel=\"stylesheet\" href=\"".toList ++ d.params ++ "\">".toList)
  | .setAttribute => inner.map (Attribute.setAll (Attribute.nameOf d.kind) d.params)
  | .parts ps =>
    if ps.contains .expandedBody then
      inner.map fun expanded => ps.flatMap (Task.partText ctx d expanded)
    else .ok (ps.flatMap (Task.partText ctx d []))
  | .missingKey => .error (.missingKey d.params)

/-- What an inactive block becomes, where `inner` is its children rendered: a gated one loses them,
and the markers stay unless they are dropped. -/
def inactive (d : Directive) (inner : Except Failure Text) (gated : Bool) : Except Failure Text :=
  if gated then
    .ok (if ctx.options.strip then [] else d.openMarker ++ d.closeMarker)
  else if ctx.options.strip then inner
  else inner.map fun text => d.openMarker ++ text ++ d.closeMarker

/-- What a block becomes, where `inner` is its children rendered. -/
def resolved (d : Directive) (inner : Except Failure Text) (isActive : Bool) :
    Except Failure Text :=
  match ctx.registry.find? d.kind with
  | none => .error (.fault (.unknownBlock d.kind {}))
  | some b =>
    if isActive then active w ctx enter d inner b.handler else inactive ctx d inner b.gated

mutual

/-- An element rendered. -/
def render (isActive : Bool) : Element → Except Failure Text
  | .char c => .ok [c]
  | .stray t => .ok t
  | .block o line children t =>
    resolved w ctx enter (directive ctx.registry.isGated o line children t)
      (match unknown? ctx children with
        | some e => .error e
        | none =>
          renderAll (flags ctx.registry ctx.options.environment .none children) children)
      isActive

/-- Elements rendered in order, where the flags tell which ones are active. -/
def renderAll (actives : List Bool) : List Element → Except Failure Text
  | [] => .ok []
  | e :: es => do
    let first ← render (actives.headD false) e
    let rest ← renderAll actives.tail es
    .ok (first ++ rest)

end

/-- A list of siblings rendered: its block types must be known, and its switches decide. -/
def renderSiblings (es : List Element) : Except Failure Text :=
  match unknown? ctx es with
  | some e => .error e
  | none => renderAll w ctx enter (flags ctx.registry ctx.options.environment .none es) es

end

section

variable {w : Workspace} {ctx : Context} {enter : Enter w ctx}

theorem render_block (o : Opening) (line : Int) (children : List Element) (t : Text)
    (isActive : Bool) :
    render w ctx enter isActive (.block o line children t) =
      resolved w ctx enter (directive ctx.registry.isGated o line children t)
        (renderSiblings w ctx enter children) isActive := by
  rw [render, renderSiblings]

theorem renderAll_cons (e : Element) (es : List Element) (actives : List Bool) :
    renderAll w ctx enter actives (e :: es) =
      (render w ctx enter (actives.headD false) e).bind fun first =>
        (renderAll w ctx enter actives.tail es).map (first ++ ·) := by
  rw [renderAll]
  cases render w ctx enter (actives.headD false) e with
  | error e => rfl
  | ok first =>
    cases renderAll w ctx enter actives.tail es <;> rfl

end

/-- A page rendered by its tree. `offset` is the number of lines of the file before the page. -/
def renderPage (w : Workspace) (ctx : Context) (offset : Int) (page : Text) : Except Failure Text :=
  match ofPage ctx.options.marker offset page with
  | .error (o, line) =>
    .error (.fault (.unterminated o.kind ⟨ctx.fileText, some line, some o.text⟩))
  | .ok es =>
    renderSiblings w ctx (fun _ path content => renderPage w (ctx.enter path) 0 content) es
termination_by ctx.room w.settings
decreasing_by exact Context.room_enter_lt path ‹_›

end Element

/-! ## Blocks in a pass -/

namespace Page

variable (w : Workspace) (ctx : Context) (visit : Visit → Outcome Text)

/-- An include block is worked through as the tree says, if included pages are. -/
theorem result_finish_ofInclude (d : Directive) :
    (Task.ofInclude w ctx d >>= finish visit d).result =
      Element.included w ctx (fun _ path content => (visit ⟨ctx.enter path, 0, content⟩).result)
        d := by
  simp only [Task.ofInclude, Element.included, Outcome.result_bind, Outcome.result_ofExcept,
    Outcome.result_note]
  cases Task.includedFile w.disk ctx d with
  | error e => rfl
  | ok path =>
    show (((w.disk.readText w.settings.encoding path).bind _).bind _) =
      (w.disk.readText w.settings.encoding path).bind _
    cases w.disk.readText w.settings.encoding path with
    | error e => rfl
    | ok content =>
      dsimp only [Except.bind]
      -- both sides decide alike; only a page that is entered is worked through
      by_cases hhtml : (!w.settings.isHtml (Text.lower path.suffix)) = true
      · simp only [hhtml, if_true]
        rfl
      by_cases hrec : (!ctx.options.recursive) = true
      · simp only [hhtml, hrec, if_true]
        rfl
      simp only [hhtml, hrec, Task.enterPage]
      by_cases hstack : ctx.includeStack.contains path.toText = true
      · simp only [hstack, if_true]
        rfl
      by_cases hdepth : (ctx.depth : Int) < w.settings.maxIncludeDepth
      · simp only [hstack, hdepth]
        rfl
      · simp only [hstack, hdepth]
        rfl

theorem result_finish_body (d : Directive) (frame : Text → Text) :
    (finish visit d (.body frame : Task w.settings ctx)).result =
      (visit ⟨ctx, d.bodyOffset, d.body⟩).result.map frame := by
  rw [finish, Outcome.result_bind]
  rfl

/-- The body of a block that names no target file is left as it is. -/
theorem result_finish_untargeted (what : String) (d : Directive) :
    ((Task.untargeted what d : Outcome (Task w.settings ctx)) >>= finish visit d).result =
      (visit ⟨ctx, d.bodyOffset, d.body⟩).result := by
  rw [Task.untargeted, Outcome.result_bind, Outcome.result_bind, Outcome.result_note]
  exact (result_finish_body w ctx visit d id).trans (congrFun Except.map_id _)

/-- An active block is worked through as the tree says, if its body and included pages are. -/
theorem result_finish_ofHandler (d : Directive) (h : Handler) :
    (Task.ofHandler w ctx d h >>= finish visit d).result =
      Element.active w ctx (fun _ path content => (visit ⟨ctx.enter path, 0, content⟩).result) d
        (visit ⟨ctx, d.bodyOffset, d.body⟩).result h := by
  cases h with
  | keepBody => exact (result_finish_body w ctx visit d id).trans (congrFun Except.map_id _)
  | conditionalComment => rfl
  | includeFile => exact result_finish_ofInclude w ctx visit d
  | script =>
    rw [Task.ofHandler, Element.active]
    split
    · exact result_finish_untargeted w ctx visit "js" d
    · rfl
  | styleSheet =>
    rw [Task.ofHandler, Element.active]
    split
    · exact result_finish_untargeted w ctx visit "css" d
    · rfl
  | setAttribute => exact result_finish_body w ctx visit d _
  | parts ps =>
    rw [Task.ofHandler, Element.active]
    dsimp only
    split
    · exact result_finish_body w ctx visit d _
    · rfl
  | missingKey => rfl

/-- An inactive block is worked through as the tree says, if its body is. -/
theorem result_finish_ofInactive (d : Directive) (b : BlockType) :
    (finish visit d (Task.ofInactive w.settings ctx d b)).result =
      Element.inactive ctx d (visit ⟨ctx, d.bodyOffset, d.body⟩).result b.gated := by
  have hframed : Task.framed ctx d =
      fun body => if ctx.options.strip then body else d.openMarker ++ body ++ d.closeMarker := rfl
  rw [Task.ofInactive, Element.inactive, hframed]
  by_cases hgated : b.gated = true
  · simp only [hgated, if_true, List.append_nil]
    rfl
  · by_cases hstrip : ctx.options.strip = true
    · simp only [hgated, hstrip, if_true]
      exact (result_finish_body w ctx visit d id).trans (congrFun Except.map_id _)
    · simp only [hgated, hstrip]
      exact result_finish_body w ctx visit d _

/-- **A block is worked through as the tree says**, if its body and included pages are. -/
theorem result_perform (d : Directive) (active : Bool) :
    (perform w visit ctx d active).result =
      Element.resolved w ctx (fun _ path content => (visit ⟨ctx.enter path, 0, content⟩).result) d
        (visit ⟨ctx, d.bodyOffset, d.body⟩).result active := by
  rw [perform, Task.ofBlock, Element.resolved, Registry.resolve]
  cases ctx.registry.find? d.kind with
  | none => rfl
  | some b =>
    cases active with
    | true =>
      have h := result_finish_ofHandler w ctx visit d b.handler
      simpa only [Outcome.result_bind, Outcome.result_ofExcept, Outcome.result_note, Except.bind,
        if_true] using h
    | false => exact result_finish_ofInactive w ctx visit d b

end Page

/-! ## A pass over a page -/

namespace Element

theorem filterMap_directive?_withText (gathered : Text) (spans : List Span) :
    (Span.withText gathered spans).filterMap Span.directive? = spans.filterMap Span.directive? := by
  unfold Span.withText
  split <;> rfl

/-- A pass over the spans of elements finds the block of an unknown type that is the first one among
the elements. -/
theorem unknownBlock?_spans (ctx : Context) (position : Nat) (gathered : Text) (es : List Element) :
    Page.unknownBlock? ctx (spans ctx.registry.isGated position gathered es) = unknown? ctx es := by
  induction es generalizing position gathered with
  | nil =>
    rw [spans, Page.unknownBlock?, filterMap_directive?_withText]
    rfl
  | cons e es ih =>
    cases e with
    | char c => exact ih _ _
    | stray t => exact ih _ _
    | block o line children t =>
      rw [spans, Page.unknownBlock?, filterMap_directive?_withText, List.filterMap_cons]
      simp only [Span.directive?, List.findSome?_cons, unknown?]
      cases hfind : ctx.registry.find? o.kind with
      | none =>
        simp only [directive, Directive.ofParts, hfind]
        rfl
      | some b =>
        simp only [directive, Directive.ofParts, hfind]
        exact ih _ _

/-- Text that was gathered before spans is put before them, and the switch passes it. -/
theorem result_assemble_withText (r : Registry) (environment : Option Text)
    (f : Directive → Bool → Outcome Text) (s : Activation.Switch) (gathered : Text)
    (spans : List Span) :
    (Span.assemble (Span.withText gathered spans)
        (Activation.flags r environment s (Span.withText gathered spans))
        fun d _ active => f d active).result =
      (Span.assemble spans (Activation.flags r environment (s.past gathered.reverse) spans)
        fun d _ active => f d active).result.map (gathered.reverse ++ ·) := by
  cases gathered with
  | nil => exact (congrFun Except.map_id _).symm
  | cons c cs =>
    have htext : Span.withText (c :: cs) spans = .text (c :: cs).reverse :: spans := rfl
    rw [htext, Activation.flags, Span.assemble, Outcome.result_bind]
    rfl

/-- **Spans put together are elements rendered in order**, if blocks become what the tree says. -/
theorem result_assemble_spans {w : Workspace} {ctx : Context} {enter : Enter w ctx}
    {f : Directive → Bool → Outcome Text} {es : List Element}
    (h : ∀ o line children t active, .block o line children t ∈ es →
      (f (directive ctx.registry.isGated o line children t) active).result =
        render w ctx enter active (.block o line children t))
    (s : Activation.Switch) (position : Nat) (gathered : Text) :
    (Span.assemble (spans ctx.registry.isGated position gathered es)
        (Activation.flags ctx.registry ctx.options.environment s
          (spans ctx.registry.isGated position gathered es))
        fun d _ active => f d active).result =
      (renderAll w ctx enter (flags ctx.registry ctx.options.environment (s.past gathered.reverse) es)
        es).map (gathered.reverse ++ ·) := by
  -- text is gathered until a block comes, and the switch passes it in one go then
  induction es generalizing s position gathered with
  | nil => exact result_assemble_withText _ _ f s gathered []
  | cons e es ih =>
    have ih := ih fun o line children t active he =>
      h o line children t active (List.mem_cons_of_mem _ he)
    cases e with
    | char c =>
      rw [spans, ih, List.reverse_cons, ← Activation.Switch.past_append, flags, renderAll_cons,
        render]
      exact map_append_map _ _ _
    | stray t =>
      rw [spans, ih, List.reverse_append, List.reverse_reverse, ← Activation.Switch.past_append,
        flags, renderAll_cons, render]
      exact map_append_map _ _ _
    | block o line children t =>
      have hblock := h o line children t
        (Activation.decide ctx.registry ctx.options.environment (s.past gathered.reverse)
          (directive ctx.registry.isGated o line children t)).1 List.mem_cons_self
      rw [spans, result_assemble_withText, Activation.flags, Span.assemble, Outcome.result_bind,
        flags, renderAll_cons]
      simp only [List.headD_cons, List.tail_cons, hblock, Outcome.result_bind, ih]
      refine congrArg (Except.map (gathered.reverse ++ ·)) (congrArg _ (funext fun first => ?_))
      rw [List.reverse_nil, Activation.Switch.past_nil]
      cases renderAll w ctx enter _ es <;> rfl

/-- **A pass gives what the tree says**, if the texts that it calls for are rendered by their trees.
-/
theorem result_pass_of_visit {w : Workspace} {visit : Visit → Outcome Text}
    (h : ∀ v, (visit v).result = renderPage w v.ctx v.offset v.page) (v : Visit) :
    (Page.pass w visit v).result = renderPage w v.ctx v.offset v.page := by
  obtain ⟨ctx, offset, page⟩ := v
  rw [renderPage, Page.pass, Outcome.result_bind]
  rcases exists_ofPage_or_unterminated ctx.registry.isGated ctx.fileText ctx.options.marker offset
    page with ⟨es, hpage, hspans, hchildren⟩ | ⟨o, l, hpage, hspans⟩
  · have hscan : (Page.scan ctx offset page).result =
        .ok (spans ctx.registry.isGated 0 [] es) := hspans
    -- a body is worked through as a page of its own, whose tree is the children of the block
    have hblock : ∀ o line children t active, .block o line children t ∈ es →
        (Page.perform w visit ctx (directive ctx.registry.isGated o line children t)
          active).result =
          render w ctx (fun _ path content => renderPage w (ctx.enter path) 0 content) active
            (.block o line children t) := by
      intro o line children t active he
      rw [Page.result_perform, render_block, h, renderPage, hchildren o line children t he]
      simp only [h]
    rw [hscan, hpage]
    simp only [Except.bind, Outcome.result_bind, Outcome.result_ofExcept, renderSiblings]
    cases hunknown : unknown? ctx es with
    | some e =>
      have hrequire : Page.requireKnown ctx (spans ctx.registry.isGated 0 [] es) = .error e := by
        rw [Page.requireKnown, unknownBlock?_spans, hunknown]
      rw [hrequire]
    | none =>
      have hrequire : Page.requireKnown ctx (spans ctx.registry.isGated 0 [] es) = .ok () := by
        rw [Page.requireKnown, unknownBlock?_spans, hunknown]
      have hflags := Activation.result_resolveFrom ctx.options.environment
        (Page.requireKnown_eq_ok_iff.1 hrequire) .none
      rw [hrequire, Activation.resolve, hflags]
      refine (result_assemble_spans hblock .none 0 []).trans ?_
      exact congrFun Except.map_id _
  · have hscan : (Page.scan ctx offset page).result =
        .error (.fault (.unterminated o.kind ⟨ctx.fileText, some l, some o.text⟩)) := hspans
    rw [hscan, hpage]
    rfl

/-- **Working through a page gives what rendering its tree gives**, text or failure: it is the same
whether each body is cut out and read again or the page is read once, at every depth of blocks and
through all included pages. -/
theorem result_expand_eq_renderPage (w : Workspace) (ctx : Context) (offset : Int) (page : Text) :
    (Page.expand w ctx offset page).result = renderPage w ctx offset page := by
  suffices hvisit : ∀ v : Visit, (v.expand w).result = renderPage w v.ctx v.offset v.page from
    hvisit ⟨ctx, offset, page⟩
  intro v
  induction v using Visit.induction (w := w) with
  | h v ih =>
    -- the visits that `v` calls may be replaced by their trees, and then all visits are
    let visit (v : Visit) : Outcome Text := ⟨(v.expand w).notes, renderPage w v.ctx v.offset v.page⟩
    have hcalls : ∀ v', v.Calls w v' → v'.expand w = visit v' := fun v' hv' => by
      simp only [visit, ← ih v' hv']
    rw [Visit.expand_eq_pass, Visit.pass_congr hcalls]
    exact result_pass_of_visit (fun _ => rfl) v

end Element
end BuildBlocks
