import BuildBlocks.Page.Task

/-!
# Working through the blocks of a page

A page is cut into spans, every block must be of a known type, the blocks that apply are chosen, and
then each block is replaced by what it asks for. Bodies and included pages are worked through in the
same way.

This ends for every page and all files: entering an included page takes one level of nesting away,
and the body of a block is shorter than the page it stands in. That is the whole measure; no other
bound is needed.
-/

namespace BuildBlocks

namespace Span

/-- The text of spans one after another, where `f` gives the text of blocks. The flags tell which
spans are active. -/
def assemble : (spans : List Span) → (flags : List Bool) →
    (f : (d : Directive) → (∃ a b, Span.block d a b ∈ spans) → Bool → Outcome Text) → Outcome Text
  | [], _, _ => pure []
  | .text s :: rest, flags, f => do
    let after ← assemble rest flags.tail fun d h =>
      f d (h.elim fun a h => h.elim fun b h => ⟨a, b, List.mem_cons_of_mem _ h⟩)
    pure (s ++ after)
  | .block d a b :: rest, flags, f => do
    let first ← f d ⟨a, b, List.mem_cons_self⟩ (flags.headD false)
    let after ← assemble rest flags.tail fun d h =>
      f d (h.elim fun a h => h.elim fun b h => ⟨a, b, List.mem_cons_of_mem _ h⟩)
    pure (first ++ after)

end Span

namespace Page

/-- The fault of the first block whose type nobody registered. -/
def unknownBlock? (ctx : Context) (spans : List Span) : Option Failure :=
  (spans.filterMap Span.directive?).findSome? fun d =>
    match ctx.registry.find? d.kind with
    | some _ => none
    | none => some (.fault (.unknownBlock d.kind (Task.site ctx d)))

/-- Requires that every block is of a known type. -/
def requireKnown (ctx : Context) (spans : List Span) : Except Failure Unit :=
  match unknownBlock? ctx spans with
  | some e => .error e
  | none => .ok ()

/-- The spans of a page in a context. -/
def scan (ctx : Context) (offset : Int) (page : Text) : Outcome (List Span) :=
  Span.scan ctx.options.marker ctx.registry.isGated ctx.fileText offset page

-- The equations `h` and `hd` are used by `decreasing_by` only.
set_option linter.unusedVariables false in
/-- The page with all its blocks worked through. `offset` is the number of lines of the file before
the page. -/
def expand (w : Workspace) (ctx : Context) (offset : Int) (page : Text) : Outcome Text :=
  (scan ctx offset page).bindWith fun spans h => do
    Outcome.ofExcept (requireKnown ctx spans)
    let flags ← Activation.resolve ctx.registry ctx.options.environment spans
    Span.assemble spans flags fun d hd active => do
      match ← Task.ofBlock w ctx d active with
      | .done s => pure s
      | .body frame => do
        let body ← expand w ctx d.bodyOffset d.body
        pure (frame body)
      | .page path content _ => expand w (ctx.enter path) 0 content
termination_by (ctx.room w.settings, page.length)
decreasing_by
  · obtain ⟨a, b, hd⟩ := hd
    exact Prod.Lex.right _ (Span.length_body_lt h hd)
  · exact Prod.Lex.left _ _ (Context.room_enter_lt path ‹_›)

/-- What a single block becomes when it is active. -/
def handle (w : Workspace) (ctx : Context) (d : Directive) (h : Handler) : Outcome Text := do
  match ← Task.ofHandler w ctx d h with
  | .done s => pure s
  | .body frame => do
    let body ← expand w ctx d.bodyOffset d.body
    pure (frame body)
  | .page path content _ => expand w (ctx.enter path) 0 content

end Page
end BuildBlocks
