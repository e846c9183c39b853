import BuildBlocks.Page.Basic
import BuildBlocks.Proofs.ListsAndResults
import Mathlib.Order.WellFounded

/-!
# The calls of a pass

Working through a page works through other texts: bodies of its blocks, and pages that its blocks
include. A text in its context is a `Visit`, `Page.pass` is one pass over a visit where the work on
other visits is left open, and `Visit.Calls` says which visits a pass may ask for.

## The architecture

* **`expand_eq_pass`**: `Page.expand` is the pass whose calls are again `Page.expand`.
* **`pass_congr`**: a pass depends on its calls only.
* **`Calls.measure_lt`**: a call lowers the pair of include levels left and length of the text. A
  body is shorter than the text it stands in, and an included page is entered within the limit only.
* **`wellFounded_calls`**: so calls end, and a property of visits may be proved from the visits they
  call (`Visit.induction`).
-/

namespace BuildBlocks

/-- Two steps that go on in the same way from a result are the same. -/
theorem Outcome.bind_congr {α β : Type} {x : Outcome α} {f g : α → Outcome β}
    (h : ∀ a, x.result = .ok a → f a = g a) : x >>= f = x >>= g := by
  show Outcome.bind x f = Outcome.bind x g
  unfold Outcome.bind
  cases hx : x.result with
  | ok a => simp only [h a hx]
  | error e => rfl

theorem Outcome.result_bind_eq_error_iff {α β : Type} {x : Outcome α} {f : α → Outcome β}
    {e : Failure} :
    (x >>= f).result = .error e ↔
      x.result = .error e ∨ ∃ a, x.result = .ok a ∧ (f a).result = .error e := by
  rw [Outcome.result_bind, bind_eq_error_iff]

/-- A text to be worked through: its context, and the number of lines of its file before it. -/
structure Visit where
  ctx : Context
  offset : Int
  page : Text

namespace Page

/-- What a task for a block gives, where `visit` works through other texts. -/
def finish {settings : Settings} {ctx : Context} (visit : Visit → Outcome Text) (d : Directive) :
    Task settings ctx → Outcome Text
  | .done s => pure s
  | .body frame => do
    let body ← visit ⟨ctx, d.bodyOffset, d.body⟩
    pure (frame body)
  | .page path content _ => visit ⟨ctx.enter path, 0, content⟩

/-- What a block becomes, where `visit` works through other texts. -/
def perform (w : Workspace) (visit : Visit → Outcome Text) (ctx : Context) (d : Directive)
    (active : Bool) : Outcome Text :=
  Task.ofBlock w ctx d active >>= finish visit d

/-- One pass over a text, where `visit` works through other texts. -/
def pass (w : Workspace) (visit : Visit → Outcome Text) (v : Visit) : Outcome Text := do
  let spans ← scan v.ctx v.offset v.page
  Outcome.ofExcept (requireKnown v.ctx spans)
  let flags ← Activation.resolve v.ctx.registry v.ctx.options.environment spans
  Span.assemble spans flags fun d _ active => perform w visit v.ctx d active

/-- The result of a pass, step by step. -/
theorem result_pass (w : Workspace) (visit : Visit → Outcome Text) (v : Visit) :
    (pass w visit v).result =
      (scan v.ctx v.offset v.page).result.bind fun spans =>
        (requireKnown v.ctx spans).bind fun _ =>
          (Activation.resolve v.ctx.registry v.ctx.options.environment spans).result.bind fun flags =>
            (Span.assemble spans flags fun d _ active => perform w visit v.ctx d active).result := by
  simp only [pass, Outcome.result_bind, Outcome.result_ofExcept]

/-- The result of a run: block types are registered, the blocks of the page are worked through, and
the placeholders are filled. -/
theorem result_process (w : Workspace) (options : Options) (file : Option Path) (page : Text) :
    (process w options file page).result =
      (registry w.disk options w.settings.extensionOf).result.bind fun r =>
        (Context.top w.disk options r file).bind fun ctx =>
          (expand w ctx 0 page).result.bind fun assembled =>
            (interpolate options.delimiters.toList options.strict ctx.fileText
              (.mapping options.data) assembled).result := by
  simp only [process, Outcome.result_bind, Outcome.result_ofExcept, Outcome.result_note]
  rfl

end Page

namespace Visit

/-- A text worked through. -/
def expand (w : Workspace) (v : Visit) : Outcome Text := Page.expand w v.ctx v.offset v.page

/-- What a call lowers: first the include levels left, then the length of the text. -/
def measure (settings : Settings) (v : Visit) : Nat × Nat := (v.ctx.room settings, v.page.length)

/-- The visits that a pass over a text may ask for: the body of a block of the text, and a page that
a block of the text includes. -/
inductive Calls (w : Workspace) (v : Visit) : Visit → Prop where
  | body {spans : List Span} {d : Directive} {start stop : Nat} {active : Bool}
      {frame : Text → Text} (h : (Page.scan v.ctx v.offset v.page).result = .ok spans)
      (hd : Span.block d start stop ∈ spans)
      (htask : (Task.ofBlock w v.ctx d active).result = .ok (.body frame)) :
      Calls w v ⟨v.ctx, d.bodyOffset, d.body⟩
  | page {spans : List Span} {d : Directive} {start stop : Nat} {active : Bool} {path : Path}
      {content : Text} {hroom : (v.ctx.depth : Int) < w.settings.maxIncludeDepth}
      (h : (Page.scan v.ctx v.offset v.page).result = .ok spans)
      (hd : Span.block d start stop ∈ spans)
      (htask : (Task.ofBlock w v.ctx d active).result = .ok (.page path content hroom)) :
      Calls w v ⟨v.ctx.enter path, 0, content⟩

variable {w : Workspace}

/-- Working through a text is the pass whose calls are worked through in the same way. -/
theorem expand_eq_pass (v : Visit) : v.expand w = Page.pass w (expand w) v := by
  -- the same steps on both sides, but `Page.expand` carries along what its measure needs
  rw [expand, Page.expand]
  refine (Outcome.bindWith_eq_bind _ _).trans ?_
  refine Outcome.bind_congr fun spans _ => Outcome.bind_congr fun _ _ =>
    Outcome.bind_congr fun flags _ => ?_
  refine congrArg _ (funext fun d => funext fun _ => funext fun active => ?_)
  refine Outcome.bind_congr fun task _ => ?_
  cases task <;> rfl

/-- A pass depends on the visits that it calls only. -/
theorem pass_congr {f g : Visit → Outcome Text} {v : Visit}
    (h : ∀ v', v.Calls w v' → f v' = g v') : Page.pass w f v = Page.pass w g v := by
  refine Outcome.bind_congr fun spans hspans => ?_
  refine Outcome.bind_congr fun _ _ => Outcome.bind_congr fun flags _ => ?_
  refine congrArg _ (funext fun d => funext fun hd => funext fun active => ?_)
  obtain ⟨start, stop, hd⟩ := hd
  refine Outcome.bind_congr fun task htask => ?_
  cases task with
  | done s => rfl
  | body frame =>
    show (f _ >>= _) = (g _ >>= _)
    rw [h _ (.body hspans hd htask)]
  | page path content hroom => exact h _ (.page hspans hd htask)

/-- **A call lowers the measure.** -/
theorem Calls.measure_lt {v v' : Visit} (h : v.Calls w v') :
    Prod.Lex (· < ·) (· < ·) (v'.measure w.settings) (v.measure w.settings) := by
  cases h with
  | body h hd htask => exact .right _ (Span.length_body_lt h hd)
  | @page _ _ _ _ _ path _ hroom h hd htask => exact .left _ _ (Context.room_enter_lt path hroom)

theorem wellFounded_measure (settings : Settings) : WellFounded fun v' v : Visit =>
    Prod.Lex (· < ·) (· < ·) (v'.measure settings) (v.measure settings) :=
  InvImage.wf (measure settings) (WellFounded.prod_lex wellFounded_lt wellFounded_lt)

/-- Calls end. -/
theorem wellFounded_calls (w : Workspace) : WellFounded fun v' v : Visit => v.Calls w v' :=
  Subrelation.wf Calls.measure_lt (wellFounded_measure w.settings)

/-- A property of visits that comes from the visits they call. -/
theorem induction {motive : Visit → Prop}
    (h : ∀ v, (∀ v', v.Calls w v' → motive v') → motive v) (v : Visit) : motive v :=
  (wellFounded_calls w).induction v h

/-- **The work on a page ends.** Every call lowers the include levels left or, among texts of the
same file, the length of the text, so calls end. A pass depends on its calls only, and the equation
by which `expand` works through a text by passes has no other solution: what it gives is reached for
every text, in every context and for all files, with no bound but the limit for nested includes. -/
theorem expand_unique_of_pass (w : Workspace) :
    (∀ v v' : Visit, v.Calls w v' →
        Prod.Lex (· < ·) (· < ·) (v'.measure w.settings) (v.measure w.settings)) ∧
      WellFounded (fun v' v : Visit => v.Calls w v') ∧
        (∀ (f g : Visit → Outcome Text) (v : Visit),
          (∀ v', v.Calls w v' → f v' = g v') → Page.pass w f v = Page.pass w g v) ∧
          (∀ v : Visit, v.expand w = Page.pass w (expand w) v) ∧
            ∀ f : Visit → Outcome Text, (∀ v, f v = Page.pass w f v) → f = expand w := by
  refine ⟨fun _ _ => Calls.measure_lt, wellFounded_calls w, fun _ _ _ => pass_congr,
    expand_eq_pass, fun f hf => funext fun v => ?_⟩
  -- two solutions agree on the visits that `v` calls, and so on `v`
  induction v using induction (w := w) with
  | h v ih => rw [hf, expand_eq_pass, pass_congr ih]

end Visit
end BuildBlocks
