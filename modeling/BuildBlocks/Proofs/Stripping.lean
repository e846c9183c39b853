import BuildBlocks.Proofs.LineOffset
import BuildBlocks.Proofs.SpanTiling
import Mathlib.Data.List.Induction

/-!
# Stripping

Blocks that do not apply keep their markers unless the options drop them. That is all that dropping
them does: the two runs over a text come to the same blocks, fail in the same way, and what they give
is the same stretches of text one after another, with the markers of inactive blocks between them in
one of them only (`Visit.strips_expand`).

An active attribute block is different, since it rewrites its body after the markers inside it were
kept or dropped: a value may begin before a marker and end after it.

## The architecture

* **`Strips`** says that two runs differ by markers only. It holds of runs that are the same, and of
  runs put one after another (`Strips.append`) or between the markers of an inactive block
  (`Strips.framed`).
* **`Element.strips_resolved`**: so it holds of what a block becomes, if it holds of what the block
  goes on to.
* **`Span.strips_assemble`**: and of spans put together. Both runs come to a block, or none does,
  since what stands before it fails in both or in none.
-/

namespace BuildBlocks

/-! ## Texts with markers between them -/

/-- A stretch of what a text becomes: text that is always there, or a marker of an inactive block. -/
inductive Stretch where
  | text (s : Text)
  | marker (s : Text)
  deriving DecidableEq, Repr

/-- A stretch as it comes out, where markers may be dropped. -/
def Stretch.spelled (strip : Bool) : Stretch → Text
  | .text s => s
  | .marker s => if strip then [] else s

/-- Stretches one after another, where markers may be dropped. -/
def Stretch.spell (strip : Bool) (stretches : List Stretch) : Text :=
  stretches.flatMap (spelled strip)

theorem Stretch.spell_append (strip : Bool) (a b : List Stretch) :
    spell strip (a ++ b) = spell strip a ++ spell strip b := List.flatMap_append

/-- Two runs, one of which drops markers, differ by that only: they fail in the same way, or give the
same stretches, and `P` holds of all markers in them. -/
inductive Strips (P : Text → Prop) (f : Bool → Except Failure Text) : Prop where
  | gives (stretches : List Stretch) (hmarker : ∀ s, .marker s ∈ stretches → P s)
      (h : ∀ strip, f strip = .ok (Stretch.spell strip stretches))
  | fails (e : Failure) (h : ∀ strip, f strip = .error e)

namespace Strips

variable {P Q : Text → Prop} {f g : Bool → Except Failure Text}

theorem imp (h : Strips P f) (hPQ : ∀ s, P s → Q s) : Strips Q f := by
  cases h with
  | gives stretches hmarker h => exact .gives stretches (fun s hs => hPQ s (hmarker s hs)) h
  | fails e h => exact .fails e h

/-- Runs that do not look at the option give text only. -/
theorem const (r : Except Failure Text) : Strips P fun _ => r := by
  cases r with
  | error e => exact .fails e fun _ => rfl
  | ok s =>
    refine .gives [.text s] (fun t ht => ?_) fun _ => ?_
    · cases List.mem_singleton.1 ht
    · exact congrArg Except.ok (List.append_nil s).symm

/-- One run after another, where the second only takes place if the first gives a text. -/
theorem append (hf : Strips P f) (hg : (∀ strip, ∃ s, f strip = .ok s) → Strips P g) :
    Strips P fun strip => (f strip).bind fun s => (g strip).map (s ++ ·) := by
  cases hf with
  | fails e hf =>
    refine .fails e fun strip => ?_
    rw [hf]
    rfl
  | gives before hbefore hf =>
    cases hg fun strip => ⟨_, hf strip⟩ with
    | fails e hg =>
      refine .fails e fun strip => ?_
      rw [hf, hg]
      rfl
    | gives after hafter hg =>
      refine .gives (before ++ after) (fun s hs => ?_) fun strip => ?_
      · exact (List.mem_append.1 hs).elim (hbefore s) (hafter s)
      · rw [hf, hg, Stretch.spell_append]
        rfl

/-- A step that both runs make alike. -/
theorem bind {α : Type} {x : Except Failure α} {f : Bool → α → Except Failure Text}
    (h : ∀ a, x = .ok a → Strips P fun strip => f strip a) :
    Strips P fun strip => x.bind (f strip) := by
  cases x with
  | error e => exact .const (.error e)
  | ok a => exact h a rfl

/-- A decision that both runs make alike. -/
theorem ite {c : Prop} [Decidable c] (hthen : c → Strips P f) (helse : ¬ c → Strips P g) :
    Strips P fun strip => if c then f strip else g strip := by
  by_cases h : c
  · simpa only [if_pos h] using hthen h
  · simpa only [if_neg h] using helse h

/-- A run between two markers. -/
theorem framed (hf : Strips P f) {opening closing : Text} (hopening : P opening)
    (hclosing : P closing) :
    Strips P fun strip =>
      if strip then f strip else (f strip).map fun s => opening ++ s ++ closing := by
  cases hf with
  | fails e hf =>
    refine .fails e fun strip => ?_
    rw [hf]
    cases strip <;> rfl
  | gives stretches hmarker hf =>
    refine .gives ([.marker opening] ++ stretches ++ [.marker closing]) (fun s hs => ?_)
      fun strip => ?_
    · rcases List.mem_append.1 hs with hs | hs
      · rcases List.mem_cons.1 hs with hs | hs
        · cases hs
          exact hopening
        · exact hmarker s hs
      · cases List.mem_singleton.1 hs
        exact hclosing
    · rw [hf, Stretch.spell_append, Stretch.spell_append]
      cases strip <;> simp [Stretch.spell, Stretch.spelled, Except.map]

end Strips

/-! ## Spans -/

namespace Span

/-- **Spans put together** differ by markers only, if each block does that all spans before it let
the runs come to. -/
theorem strips_assemble {P : Text → Prop} {f : Bool → Directive → Bool → Outcome Text}
    {spans : List Span} {flags : List Bool}
    (h : ∀ before d start stop after, spans = before ++ .block d start stop :: after →
      (∀ strip, ∃ s,
        (assemble before flags fun d _ active => f strip d active).result = .ok s) →
      Strips P fun strip => (f strip d ((flags.drop before.length).headD false)).result) :
    Strips P fun strip => (assemble spans flags fun d _ active => f strip d active).result := by
  -- the last span comes after all others were put together
  induction spans using List.reverseRecOn with
  | nil => exact .const (.ok [])
  | append_singleton before span ih =>
    have hbefore := ih fun before' d start stop after heq =>
      h before' d start stop (after ++ [span]) (by rw [heq, List.append_assoc]; rfl)
    simp only [result_assemble_append]
    refine hbefore.append fun hgives => ?_
    cases span with
    | text t =>
      simp only [result_assemble_text]
      exact .const (.ok (t ++ []))
    | block d start stop =>
      simp only [result_assemble_block]
      exact (h before d start stop [] rfl hgives).append fun _ => .const (.ok [])

/-- A block is written in its page. -/
theorem text_isInfix_of_mem {word : Text} {gated : Text → Bool} {file : Option Text} {offset : Int}
    {page : Text} {spans : List Span} {d : Directive} {start stop : Nat}
    (h : (scan word gated file offset page).result = .ok spans)
    (hd : .block d start stop ∈ spans) : d.text <:+: page := by
  obtain ⟨before, after, rfl⟩ := List.append_of_mem hd
  refine ⟨sources before, sources after, ?_⟩
  rw [← (tiles_of_scan h).sources_eq, sources_append, sources_cons, source, List.append_assoc]

end Span

/-! ## Blocks -/

/-- The context in which markers are dropped or kept. -/
def Context.withStrip (ctx : Context) (strip : Bool) : Context :=
  { ctx with options := { ctx.options with strip := strip } }

/-- The text in the context in which markers are dropped or kept. -/
def Visit.withStrip (v : Visit) (strip : Bool) : Visit := { v with ctx := v.ctx.withStrip strip }

/-- Attributes are set by the one type that serves all names in square brackets. -/
theorem Registry.isBracketed_of_setAttribute {name : Text} {b : BlockType}
    (h : initial.find? name = some b) (hb : b.handler = .setAttribute) :
    BlockType.isBracketed name = true := by
  have hall : ∀ b ∈ initial.types, b.handler = .setAttribute → b.name = BlockType.attributeName := by
    decide
  have hname := hall b (mem_of_find? h) hb
  have hattribute : BlockType.isBracketed BlockType.attributeName = true := by decide
  unfold find? at h
  cases hfound : initial.types.find? (·.name = name) with
  | some b' =>
    rw [hfound] at h
    cases h
    have heq := List.find?_some hfound
    rw [← of_decide_eq_true heq, hname]
    exact hattribute
  | none =>
    rw [hfound] at h
    have hserves := List.find?_some h
    rcases Bool.or_eq_true_iff.1 hserves with heq | hbracketed
    · rw [← of_decide_eq_true heq, hname]
      exact hattribute
    · exact (Bool.and_eq_true_iff.1 hbracketed).2

namespace Element

variable {w : Workspace} {ctx : Context} {d : Directive} {P : Text → Prop}

/-- What an include names is the same in both runs, and so they differ in the page that is entered
only. -/
theorem strips_included {enter : (strip : Bool) → Enter w (ctx.withStrip strip)}
    (hinclude : Task.IsInclude ctx d)
    (henter : ∀ path content hroom,
      (Task.ofBlock w ctx d true).result = .ok (.page path content hroom) →
        Strips P fun strip => enter strip hroom path content) :
    Strips P fun strip => included w (ctx.withStrip strip) (enter strip) d := by
  -- up to the page that is entered no step looks at the markers
  show Strips P fun strip => (Task.includedFile w.disk ctx d).bind _
  refine .bind fun path hfile => ?_
  show Strips P fun strip => (w.disk.readText w.settings.encoding path).bind _
  refine .bind fun content htext => ?_
  show Strips P fun strip =>
    if !w.settings.isHtml (Text.lower path.suffix) then
      .ok (Task.wrapped (Text.lower path.suffix) content)
    else if !ctx.options.recursive then .ok content
    else if ctx.includeStack.contains path.toText then
      .error (.fault (.circularInclude
        (ctx.includeStack.dropWhile (· ≠ path.toText) ++ [path.toText]) (Task.site ctx d)))
    else if h : (ctx.depth : Int) < w.settings.maxIncludeDepth then enter strip h path content
    else .error (.fault (.includeDepth w.settings.maxIncludeDepth path.toText (Task.site ctx d)))
  refine .ite (fun _ => .const _) fun hhtml => .ite (fun _ => .const _) fun hrecursive => ?_
  refine .ite (fun _ => .const _) fun hmem => ?_
  rw [Bool.not_eq_true', Bool.not_eq_false] at hhtml hrecursive
  by_cases hroom : (ctx.depth : Int) < w.settings.maxIncludeDepth
  · have hincludes : Task.Includes w ctx d path content :=
      ⟨hinclude, hfile, htext, hhtml, hrecursive⟩
    have htask : (Task.ofBlock w ctx d true).result = .ok (.page path content hroom) := by
      rw [hincludes.result_ofBlock, Task.enterPage_of_not_mem (by simpa using hmem), dif_pos hroom]
    simpa only [dif_pos hroom] using henter path content hroom htask
  · simp only [dif_neg hroom]
    exact .const (.error _)

/-- An active block of a type that is always there puts its text together from parts that are the
same in both runs, unless it goes on to another text or sets an attribute. -/
theorem strips_active {b : BlockType} (hb : ctx.registry.find? d.kind = some b)
    (hbuiltin : b.handler.isBuiltin = true) (hattribute : b.handler ≠ .setAttribute)
    {inner : Bool → Except Failure Text}
    (hinner : ∀ frame, (Task.ofBlock w ctx d true).result = .ok (.body frame) → Strips P inner)
    {enter : (strip : Bool) → Enter w (ctx.withStrip strip)}
    (henter : ∀ path content hroom,
      (Task.ofBlock w ctx d true).result = .ok (.page path content hroom) →
        Strips P fun strip => enter strip hroom path content) :
    Strips P fun strip => active w (ctx.withStrip strip) (enter strip) d (inner strip) b.handler := by
  have htask := Task.result_ofBlock_of_active (w := w) hb
  cases hhandler : b.handler with
  | keepBody =>
    rw [hhandler] at htask
    exact hinner _ htask
  | conditionalComment => exact .const (.ok _)
  | includeFile => exact strips_included ⟨b, hb, hhandler⟩ henter
  | script | styleSheet =>
    rw [hhandler, Task.ofHandler] at htask
    cases hparams : d.params.isEmpty with
    | true =>
      rw [if_pos hparams] at htask
      simpa only [active, hparams, if_true] using hinner _ htask
    | false =>
      simp only [active, hparams, Bool.false_eq_true, if_false]
      exact .const (.ok _)
  | setAttribute => exact absurd hhandler hattribute
  | parts ps | missingKey =>
    rw [hhandler] at hbuiltin
    cases hbuiltin

/-- An inactive block stands between its markers, without its body if it is gated. -/
theorem strips_inactive {b : BlockType} (hb : ctx.registry.find? d.kind = some b)
    (hopening : P d.openMarker) (hclosing : P d.closeMarker) {inner : Bool → Except Failure Text}
    (hinner : ∀ frame, (Task.ofBlock w ctx d false).result = .ok (.body frame) → Strips P inner) :
    Strips P fun strip => inactive (ctx.withStrip strip) d (inner strip) b.gated := by
  have htask := Task.result_ofBlock_of_inactive (w := w) hb
  cases hgated : b.gated with
  | true =>
    have heq : (fun strip => inactive (ctx.withStrip strip) d (inner strip) true) = fun strip =>
        if strip then .ok [] else .ok (d.openMarker ++ [] ++ d.closeMarker) := by
      funext strip
      rw [List.append_nil]
      cases strip <;> rfl
    rw [heq]
    exact (Strips.const (.ok [])).framed hopening hclosing
  | false =>
    rw [Task.ofInactive, hgated] at htask
    exact (hinner _ htask).framed hopening hclosing

/-- **What a block becomes** differs by markers only, if that holds of the text that the block goes
on to, and the block is no active attribute block. -/
theorem strips_resolved (hregistry : ctx.registry = .initial) {active : Bool}
    (hattribute : active = true → BlockType.isBracketed d.kind = false)
    (hmarker : active = false → P d.openMarker ∧ P d.closeMarker)
    {inner : Bool → Except Failure Text}
    (hinner : ∀ frame, (Task.ofBlock w ctx d active).result = .ok (.body frame) → Strips P inner)
    {enter : (strip : Bool) → Enter w (ctx.withStrip strip)}
    (henter : ∀ path content hroom,
      (Task.ofBlock w ctx d active).result = .ok (.page path content hroom) →
        Strips P fun strip => enter strip hroom path content) :
    Strips P fun strip => resolved w (ctx.withStrip strip) (enter strip) d (inner strip) active := by
  have hfind (strip : Bool) : (ctx.withStrip strip).registry.find? d.kind =
      ctx.registry.find? d.kind := rfl
  simp only [resolved, hfind]
  cases hb : ctx.registry.find? d.kind with
  | none => exact .const (.error _)
  | some b =>
    have hinitial : Registry.initial.find? d.kind = some b := hregistry ▸ hb
    cases active with
    | true =>
      have hbuiltin := Registry.isBuiltin_of_find? hinitial
      refine strips_active hb hbuiltin (fun hhandler => ?_) hinner henter
      have hbracketed := Registry.isBracketed_of_setAttribute hinitial hhandler
      rw [hattribute rfl] at hbracketed
      cases hbracketed
    | false => exact strips_inactive hb (hmarker rfl).1 (hmarker rfl).2 hinner

end Element

/-! ## Passes -/

namespace Visit

variable {w : Workspace}

/-- A marker, as it is written, of an inactive block that a run comes to. -/
inductive IsMarker (w : Workspace) (v : Visit) (s : Text) : Prop where
  | intro {v' : Visit} {d : Directive} (hreaches : v.Reaches w v') (hmeets : v'.Meets w d false)
      (hwritten : d.openMarker ++ d.body ++ d.closeMarker <:+: v'.page)
      (hs : s = d.openMarker ∨ s = d.closeMarker)

theorem IsMarker.of_enters {v v' : Visit} (h : v.Enters w v') {s : Text} (hs : v'.IsMarker w s) :
    v.IsMarker w s := by
  obtain ⟨hreaches, hmeets, hwritten, hs⟩ := hs
  exact .intro (.head h hreaches) hmeets hwritten hs

theorem Meets.isMarker {v : Visit} {d : Directive} (h : v.Meets w d false) :
    v.IsMarker w d.openMarker ∧ v.IsMarker w d.closeMarker := by
  obtain ⟨spans, start, stop, hscan, hmem, -⟩ := h.exists_mem_scan
  have hwritten : d.text <:+: v.page := Span.text_isInfix_of_mem hscan hmem
  exact ⟨.intro .refl h hwritten (.inl rfl), .intro .refl h hwritten (.inr rfl)⟩

/-- No active attribute block is met: a run comes to none, neither in its text nor in those that it
goes on to. -/
def SetsNoAttribute (w : Workspace) (v : Visit) : Prop :=
  ∀ v' d, v.Reaches w v' → v'.Meets w d true → BlockType.isBracketed d.kind = false

/-- A block that a pass comes to becomes the same up to markers, if the texts do that the pass goes on
to there. -/
theorem strips_perform {v : Visit} {d : Directive} {active : Bool}
    (hregistry : v.ctx.registry = .initial) (hmeets : v.Meets w d active)
    (hattribute : active = true → BlockType.isBracketed d.kind = false)
    (hentered : ∀ v', v.Enters w v' →
      Strips (v.IsMarker w) fun strip => ((v'.withStrip strip).expand w).result) :
    Strips (v.IsMarker w) fun strip =>
      (Page.perform w (expand w) (v.ctx.withStrip strip) d active).result := by
  simp only [Page.result_perform]
  refine Element.strips_resolved hregistry hattribute (fun hinactive => ?_)
    (fun frame htask => hentered _ (.body hmeets htask))
    fun path content hroom htask => hentered _ (.page hmeets htask)
  subst hinactive
  exact hmeets.isMarker

end Visit

/-! ## A page that is one block -/

namespace TargetedPage

open IncludingPage

/-- The text that a run over a page begins with that is one block for the targets `a` and `b`. -/
def targetedVisit : Visit := ⟨context, 0, targeted⟩

/-- The block of that page. -/
def targetedBlock : Directive :=
  .ofParts (Registry.initial.isGated targetedOpening.kind) 1 targetedOpening [] closing

/-- The body of the block. -/
def targetedBody : Visit := ⟨context, targetedBlock.bodyOffset, []⟩

variable {w : Workspace} {d : Directive} {active : Bool}

theorem eq_of_meets_targeted (h : targetedVisit.Meets w d active) : d = targetedBlock := by
  obtain ⟨spans, start, stop, hscan, hmem, -⟩ := h.exists_mem_scan
  cases (Span.result_scan_of_block lex_targeted .nil _ _ _).symm.trans hscan
  cases List.mem_singleton.1 hmem
  rfl

theorem not_meets_targetedBody : ¬ targetedBody.Meets w d active := by
  intro h
  obtain ⟨spans, start, stop, hscan, hmem, -⟩ := h.exists_mem_scan
  have hempty : Piece.ofLexemes (Lexeme.lex context.options.marker []) = [] := by
    rw [Lexeme.lex, Piece.ofLexemes]
  rw [Page.scan, Span.scan, targetedBody, hempty] at hscan
  cases hscan
  cases hmem

/-- A run over the page comes to the page and to the body of its block. -/
theorem eq_of_reaches_targeted {v : Visit} (h : targetedVisit.Reaches w v) :
    v = targetedVisit ∨ v = targetedBody := by
  induction h with
  | refl => exact .inl rfl
  | tail _ henters ih =>
    obtain rfl | rfl := ih
    · cases henters with
      | body hmeets htask =>
        cases eq_of_meets_targeted hmeets
        exact .inr rfl
      | page hmeets htask =>
        cases eq_of_meets_targeted hmeets
        -- the block is no include
        obtain ⟨b, hb, hhandler⟩ := (Task.includes_of_ofBlock_eq_page htask).2.1.isInclude
        cases hb
        cases hhandler
    · cases henters with
      | body hmeets => exact (not_meets_targetedBody hmeets).elim
      | page hmeets => exact (not_meets_targetedBody hmeets).elim

theorem setsNoAttribute_targeted : targetedVisit.SetsNoAttribute w := by
  intro v d hreaches hmeets
  obtain rfl | rfl := eq_of_reaches_targeted hreaches
  · cases eq_of_meets_targeted hmeets
    decide
  · exact (not_meets_targetedBody hmeets).elim

end TargetedPage

namespace Visit

variable {w : Workspace}

/-- **Dropping markers takes away markers and nothing else.** With the block types that are always
there, and if no active attribute block is met, the run that keeps markers and the run that drops
them fail in the same way, or give the same stretches one after another: all of them in the one run,
and all but the markers in the other. The markers are those of inactive blocks that the runs come to,
as they are written in their page. -/
theorem strips_expand (v : Visit) (hregistry : v.ctx.registry = .initial)
    (hattribute : v.SetsNoAttribute w) :
    Strips (v.IsMarker w) fun strip => ((v.withStrip strip).expand w).result := by
  induction v using induction (w := w) with
  | h v ih =>
    -- the texts that the pass goes on to
    have hentered (v' : Visit) (h : v.Enters w v') :
        Strips (v.IsMarker w) fun strip => ((v'.withStrip strip).expand w).result :=
      (ih v' h.calls ((registry_eq_of_reaches (.single h)).trans hregistry) fun u d hu =>
        hattribute u d (.head h hu)).imp fun s => .of_enters h
    simp only [expand_eq_pass, Page.result_pass_eq_flags]
    -- cutting the text, knowing its types and deciding its switches does not look at the option
    show Strips _ fun strip => (Page.scan v.ctx v.offset v.page).result.bind fun spans =>
      (Page.requireKnown v.ctx spans).bind fun _ =>
        (Span.assemble spans (Activation.flags v.ctx.registry v.ctx.options.environment .none spans)
          fun d _ active => Page.perform w (expand w) (v.ctx.withStrip strip) d active).result
    cases hscan : (Page.scan v.ctx v.offset v.page).result with
    | error e => exact .const (.error e)
    | ok spans =>
      show Strips _ fun strip => (Page.requireKnown v.ctx spans).bind fun _ => _
      cases hknown : Page.requireKnown v.ctx spans with
      | error e => exact .const (.error e)
      | ok _ =>
        have hflags : (Activation.resolve v.ctx.registry v.ctx.options.environment spans).result =
            .ok (Activation.flags v.ctx.registry v.ctx.options.environment .none spans) :=
          Activation.result_resolveFrom _ (Page.requireKnown_eq_ok_iff.1 hknown) .none
        have hlength := Activation.length_flags v.ctx.registry v.ctx.options.environment .none spans
        refine Span.strips_assemble fun before d start stop after heq hgives => ?_
        -- the run of `v` itself drops markers or keeps them, and comes to the block in both cases
        obtain ⟨s, hbefore⟩ := hgives v.ctx.options.strip
        subst heq
        have hlt : before.length < (Activation.flags v.ctx.registry v.ctx.options.environment .none
            (before ++ .block d start stop :: after)).length := by
          rw [hlength, List.length_append, List.length_cons]
          omega
        have hmeets := Meets.intro hscan hknown hflags (getElem?_eq_some_headD_drop hlt false) hbefore
        exact strips_perform hregistry hmeets (fun hactive => hattribute v d .refl (hactive ▸ hmeets))
          hentered

/-- Dropping markers in a page whose block is inactive. -/
theorem strips_expand_of_targeted :
    TargetedPage.targetedVisit.ctx.registry = .initial ∧
      TargetedPage.targetedVisit.SetsNoAttribute (IncludingPage.workspace 1 []) ∧
        Strips (TargetedPage.targetedVisit.IsMarker (IncludingPage.workspace 1 [])) fun strip =>
          ((TargetedPage.targetedVisit.withStrip strip).expand (IncludingPage.workspace 1 [])).result :=
  ⟨rfl, TargetedPage.setsNoAttribute_targeted,
    strips_expand TargetedPage.targetedVisit rfl TargetedPage.setsNoAttribute_targeted⟩

end Visit
end BuildBlocks
