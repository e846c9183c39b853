import BuildBlocks.Page.Expansion

/-!
# Flags of spans

`Activation.resolve` decides for every span whether it is active, and fails at a block of an unknown
type. A page is only resolved after all its block types are found to be known; then resolving does
not fail and gives the flags that `Activation.flags` gives by the rules of switches alone
(`result_resolveFrom`), one for each span (`length_flags`).
-/

namespace BuildBlocks
namespace Activation

/-- The switch after a text between blocks. -/
def Switch.past (s : Switch) (t : Text) : Switch := if Text.allBlank t then s else s.closed

theorem Switch.past_nil (s : Switch) : s.past [] = s := rfl

theorem Switch.past_append (s : Switch) (a b : Text) : (s.past a).past b = s.past (a ++ b) := by
  have hblank : Text.allBlank (a ++ b) = (Text.allBlank a && Text.allBlank b) := List.all_append
  simp only [past, hblank]
  cases Text.allBlank a <;> cases Text.allBlank b <;> rfl

/-- Whether a block that applies or not by itself is active in a switch, and the switch after it. -/
def Switch.next (s : Switch) (gated applies : Bool) (targets : List Text) : Bool × Switch :=
  if gated then
    let joined := s.joined targets
    let active := applies && !joined.matched
    (active, { joined with matched := joined.matched || active })
  else (applies, s.closed)

/-- Whether a block is active, and the switch after it. A block of an unknown type is not. -/
def decide (r : Registry) (environment : Option Text) (s : Switch) (d : Directive) :
    Bool × Switch :=
  match r.find? d.kind with
  | none => (false, s)
  | some b => s.next b.gated (appliesTo environment b d) d.targets

/-- Whether each span is active, in order. -/
def flags (r : Registry) (environment : Option Text) (s : Switch) : List Span → List Bool
  | [] => []
  | .text t :: rest => false :: flags r environment (s.past t) rest
  | .block d _ _ :: rest =>
    (decide r environment s d).1 :: flags r environment (decide r environment s d).2 rest

theorem length_flags (r : Registry) (environment : Option Text) (s : Switch) (spans : List Span) :
    (flags r environment s spans).length = spans.length := by
  induction spans generalizing s with
  | nil => rfl
  | cons span spans ih => cases span <;> simp only [flags, List.length_cons, ih]

/-- Blocks of known types are resolved by the rules of switches. -/
theorem result_resolveFrom {r : Registry} (environment : Option Text) {spans : List Span}
    (h : ∀ d start stop, Span.block d start stop ∈ spans → r.find? d.kind ≠ none) (s : Switch) :
    (resolveFrom r environment s spans).result = .ok (flags r environment s spans) := by
  induction spans generalizing s with
  | nil => rfl
  | cons span spans ih =>
    have hrest : ∀ d start stop, Span.block d start stop ∈ spans → r.find? d.kind ≠ none :=
      fun d start stop hd => h d start stop (List.mem_cons_of_mem _ hd)
    cases span with
    | text t =>
      simp only [resolveFrom, Outcome.result_bind, ih hrest]
      rfl
    | block d start stop =>
      obtain ⟨b, hb⟩ := Option.ne_none_iff_exists'.1 (h d start stop List.mem_cons_self)
      have hresolve : r.resolve d.kind = .ok b := by rw [Registry.resolve, hb]
      simp only [resolveFrom, Outcome.result_bind, Outcome.result_ofExcept, hresolve, Except.bind,
        flags, decide, hb, Switch.next]
      split
      · -- a gated block joins the switch; what it loses to another one is only noted
        split <;> simp only [Outcome.result_bind, Outcome.result_note, ih hrest] <;> rfl
      · simp only [Outcome.result_bind, ih hrest]
        rfl

end Activation

namespace Page

/-- A page is in order if all its blocks are of known types. -/
theorem requireKnown_eq_ok_iff {ctx : Context} {spans : List Span} :
    requireKnown ctx spans = .ok () ↔
      ∀ d start stop, Span.block d start stop ∈ spans → ctx.registry.find? d.kind ≠ none := by
  have hmem (d : Directive) : d ∈ spans.filterMap Span.directive? ↔
      ∃ start stop, Span.block d start stop ∈ spans := by
    rw [List.mem_filterMap]
    constructor
    · rintro ⟨span, hspan, hd⟩
      cases span with
      | text s => cases hd
      | block e start stop =>
        cases hd
        exact ⟨start, stop, hspan⟩
    · rintro ⟨start, stop, hspan⟩
      exact ⟨_, hspan, rfl⟩
  have hnone : unknownBlock? ctx spans = none ↔
      ∀ d start stop, Span.block d start stop ∈ spans → ctx.registry.find? d.kind ≠ none := by
    rw [unknownBlock?, List.findSome?_eq_none_iff]
    constructor
    · intro h d start stop hd hfind
      have := h d ((hmem d).2 ⟨start, stop, hd⟩)
      simp [hfind] at this
    · intro h d hd
      obtain ⟨start, stop, hspan⟩ := (hmem d).1 hd
      obtain ⟨b, hb⟩ := Option.ne_none_iff_exists'.1 (h d start stop hspan)
      rw [hb]
  rw [← hnone, requireKnown]
  cases unknownBlock? ctx spans <;> simp

/-- What is wrong with the types of the blocks is that one of them is unknown. -/
theorem requireKnown_eq_error {ctx : Context} {spans : List Span} {e : Failure}
    (h : requireKnown ctx spans = .error e) :
    ∃ d start stop, Span.block d start stop ∈ spans ∧ ctx.registry.find? d.kind = none ∧
      e = .fault (.unknownBlock d.kind (Task.site ctx d)) := by
  rw [requireKnown] at h
  split at h
  · next e' hunknown =>
    cases h
    obtain ⟨d, hd, hfault⟩ := List.exists_of_findSome?_eq_some hunknown
    obtain ⟨span, hspan, hdirective⟩ := List.mem_filterMap.1 hd
    cases span with
    | text s => cases hdirective
    | block d' start stop =>
      cases hdirective
      split at hfault
      · cases hfault
      · next hnone =>
        cases hfault
        exact ⟨_, start, stop, hspan, hnone, rfl⟩
  · cases h

end Page
end BuildBlocks
