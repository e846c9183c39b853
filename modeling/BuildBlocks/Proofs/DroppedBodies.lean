import BuildBlocks.Proofs.ClosedLexemes
import BuildBlocks.Proofs.LineEnd
import BuildBlocks.Proofs.Concatenation
import BuildBlocks.Proofs.SpanTiling

/-!
# Dropped bodies do not matter

A block of a target-gated type that does not apply loses its body unread. So its body may be
replaced by any text that starts with a line end, and in which no comment starts, and the text
around it becomes what it was before, or fails in the same way up to the line of a fault
(`Visit.unlined_expand_of_drops`). That holds at every depth, for blocks in bodies that are worked
through.

The body is read all the same when the markers of the text are paired, and when those of the bodies
around it are; its length and its lines move what comes after it; and the switch of its block goes
on behind it. None of these looks into the body.

## The architecture

* **`Visit.Decides`**, **`Visit.Drops`**: the block at two places of a text is active or not, and
  two places of a text, at any depth, that an inactive gated block has its body between.
* **`Span.exists_ofPieces_replaced`**: replacing the body of a block gives the same spans before it,
  the block with its new body, and the same spans after it at other places (`Span.unplaced`) and
  further down (`Span.moved`).
* **`Visit.Decides.unlined_expand_of_lex_eq`**: one pass gives the same if the block does. An
  inactive gated block does so by itself, and a block around it by induction on the depth.
-/

namespace BuildBlocks

/-! ## Another body -/

/-- A block with another body. -/
def Directive.withBody (d : Directive) (body : Text) : Directive :=
  { d with
    bodyLines := Text.lines body
    endLine := d.startLine + Text.newlines d.openMarker + Text.newlines body }

theorem Directive.body_withBody (d : Directive) (body : Text) : (d.withBody body).body = body :=
  Text.flatten_lines body

/-- A text in which what stands between two places is replaced. -/
def Text.replaced (page : Text) (left right : Nat) (t : Text) : Text :=
  page.take left ++ t ++ page.drop right

/-- A span that names no places. -/
def Span.unplaced : Span → Span
  | .text s => .text s
  | .block d _ _ => .block d 0 0

/-! ## Places do not matter -/

section

variable {w : Workspace} {ctx : Context}

theorem Span.map_unplaced_withText (gathered : Text) (spans : List Span) :
    (withText gathered spans).map unplaced = withText gathered (spans.map unplaced) := by
  unfold withText
  split <;> rfl

/-- A scan that starts at another place gives the same spans at other places. -/
theorem Span.map_unplaced_ofPieces (gated : Text → Bool) (file : Option Text) (position place : Nat)
    (line : Int) (gathered : Text) (ps : List Piece) :
    (ofPieces gated file position line gathered ps).result.map (·.map unplaced) =
      (ofPieces gated file place line gathered ps).result.map (·.map unplaced) := by
  induction ps generalizing position place line gathered with
  | nil => rfl
  | cons p ps ih =>
    cases p with
    | char c => exact ih _ _ _ _
    | stray t =>
      rw [result_ofPieces_stray, result_ofPieces_stray]
      exact ih _ _ _ _
    | block o body t =>
      have hstep (d : Directive) (start stop : Nat) (x : Except Failure (List Span)) :
          (x.map fun spans => withText gathered (.block d start stop :: spans)).map
              (·.map unplaced) =
            (x.map (·.map unplaced)).map fun spans =>
              withText gathered (.block d 0 0 :: spans) := by
        cases x with
        | error e => rfl
        | ok spans => exact congrArg Except.ok (map_unplaced_withText gathered _)
      rw [result_ofPieces_block, result_ofPieces_block]
      dsimp only
      rw [hstep, hstep, ih]
    | unclosed o => rfl

theorem Activation.flags_map_unplaced (r : Registry) (environment : Option Text) (s : Switch)
    (spans : List Span) :
    flags r environment s (spans.map Span.unplaced) = flags r environment s spans := by
  induction spans generalizing s with
  | nil => rfl
  | cons span spans ih =>
    cases span with
    | text t => exact congrArg (false :: ·) (ih _)
    | block d start stop =>
      exact congrArg ((decide r environment s d).1 :: ·) (ih (decide r environment s d).2)

theorem Span.result_assemble_map_unplaced (f : Directive → Bool → Outcome Text) (spans : List Span)
    (flags : List Bool) :
    (assemble (spans.map unplaced) flags fun d _ active => f d active).result =
      (assemble spans flags fun d _ active => f d active).result := by
  induction spans generalizing flags with
  | nil => rfl
  | cons span spans ih =>
    cases span with
    | text t => rw [List.map_cons, unplaced, result_assemble_text, result_assemble_text, ih]
    | block d start stop =>
      rw [List.map_cons, unplaced, result_assemble_block, result_assemble_block, ih]

end

/-- A scan that starts at another place and further down gives the same spans there. -/
theorem Span.exists_ofPieces_moved {gated : Text → Bool} {file : Option Text} {position : Nat}
    {line : Int} {gathered : Text} {ps : List Piece} {spans : List Span}
    (h : (ofPieces gated file position line gathered ps).result = .ok spans) (place : Nat)
    (n : Int) :
    ∃ spans', (ofPieces gated file place (line + n) gathered ps).result = .ok spans' ∧
      spans'.map unplaced = (spans.map (moved n)).map unplaced := by
  have hmoved : (ofPieces gated file position (line + n) gathered ps).result =
      .ok (spans.map (moved n)) := by
    refine unlined_eq_ok_iff.1 ?_
    rw [unlined_ofPieces_moved, h]
    rfl
  have hplaced := map_unplaced_ofPieces gated file place position (line + n) gathered ps
  rw [hmoved] at hplaced
  exact exists_of_map_eq_ok hplaced

/-! ## Replacing the body of a block -/

namespace Lexeme

/-- Lexemes that change no count alike may stand for one another. -/
theorem depthAfter_append_congr {xs ys : List Lexeme} (h : ∀ n, depthAfter n xs = depthAfter n ys)
    (before : List Lexeme) (n : Nat) :
    depthAfter n (before ++ xs) = depthAfter n (before ++ ys) := by
  induction before generalizing n with
  | nil => exact h n
  | cons l before ih =>
    cases l with
    | char c => exact ih n
    | opening o => exact ih (n + 1)
    | closing t =>
      cases n with
      | zero => rfl
      | succ n => exact ih n

theorem Balanced.depthAfter_eq {ls : List Lexeme} (h : Balanced ls) : depthAfter 0 ls = some 0 := by
  simpa [depthAfter] using h.depthAfter_append 0 []

/-- A text in which the body of a block is replaced is what stands around the body, and the new body
between. -/
theorem replaced_of_lex_eq {word page : Text} {before body after : List Lexeme} {o : Opening}
    {s : Text} (h : lex word page = before ++ .opening o :: (body ++ .closing s :: after))
    (t : Text) :
    page.replaced (texts (before ++ [.opening o])).length
        (texts (before ++ .opening o :: body)).length t =
      texts (before ++ [.opening o]) ++ t ++ texts (.closing s :: after) := by
  have hopening : lex word page = before ++ [.opening o] ++ (body ++ .closing s :: after) := by
    rw [h]
    simp
  have hclosing : lex word page = before ++ .opening o :: body ++ .closing s :: after := by
    rw [h]
    simp
  rw [Text.replaced, (lex_drop_of_lex_eq hopening).2, (lex_drop_of_lex_eq hclosing).1]

/-- The lexemes around a body stay as they are when the body is replaced. -/
theorem lex_replaced {word page : Text} (hword : ∀ c ∈ word, Text.isBlank c = false)
    {before body after : List Lexeme} {o : Opening} {s t : Text}
    (h : lex word page = before ++ .opening o :: (body ++ .closing s :: after))
    (ht : ¬ Marker.commentStart <:+: '\n' :: t) :
    lex word (page.replaced (texts (before ++ [.opening o])).length
        (texts (before ++ .opening o :: body)).length ('\n' :: t)) =
      before ++ .opening o :: (('\n' :: t).map .char ++ .closing s :: after) := by
  rw [replaced_of_lex_eq h, lex_replace_body hword h ht]

/-- The body of a block has the lexemes that stand between the markers of the block. -/
theorem lex_body {word page : Text} {before body after : List Lexeme} {o : Opening} {s : Text}
    (h : lex word page = before ++ .opening o :: (body ++ .closing s :: after)) :
    lex word (texts body) = body := by
  have hpage : lex word page = before ++ [.opening o] ++ body ++ .closing s :: after := by
    rw [h]
    simp
  exact lex_texts_of_lex_eq hpage

/-- Balanced lexemes stay so if a balanced part is replaced by another one. -/
theorem Balanced.replace {before body body' after : List Lexeme}
    (h : Balanced (before ++ (body ++ after))) (hbody : Balanced body) (hbody' : Balanced body') :
    Balanced (before ++ (body' ++ after)) := by
  refine balanced_of_depthAfter ?_
  rw [← h.depthAfter_eq]
  refine depthAfter_append_congr (fun n => ?_) before 0
  rw [hbody.depthAfter_append, hbody'.depthAfter_append]

end Lexeme

namespace Span

variable {gated : Text → Bool} {file : Option Text}

/-- **What replacing the body of a block does to the spans of a text.** Those before the block stay,
the block has its new body, and those after it stand further down and at other places. -/
theorem exists_ofPieces_replaced {before body body' after : List Lexeme} {o : Opening} {s : Text}
    (hbefore : Lexeme.Closed before) (hbody : Lexeme.Balanced body) (hbody' : Lexeme.Balanced body')
    {position : Nat} {line : Int} {gathered : Text} {spans : List Span}
    (h : (ofPieces gated file position line gathered
      (Piece.ofLexemes (before ++ .opening o :: (body ++ .closing s :: after)))).result =
        .ok spans) :
    ∃ front tail tail' stop' n,
      let d := Directive.ofParts (gated o.kind) (line + Text.newlines (Lexeme.texts before)) o
        (Lexeme.texts body) s
      let start := position + (Lexeme.texts before).length
      spans = front ++ .block d start (start + d.text.length) :: tail ∧
        (ofPieces gated file position line gathered
          (Piece.ofLexemes (before ++ .opening o :: (body' ++ .closing s :: after)))).result =
            .ok (front ++ .block (d.withBody (Lexeme.texts body')) start stop' :: tail') ∧
          tail'.map unplaced = (tail.map (moved n)).map unplaced := by
  obtain ⟨front, gathered', hfront⟩ :=
    exists_ofPieces_append_of_closed gated file hbefore position line gathered
  rw [hfront, ← List.cons_append, ofLexemes_block hbody, result_ofPieces_block] at h
  rw [hfront, ← List.cons_append, ofLexemes_block hbody', result_ofPieces_block]
  obtain ⟨_, hblock, rfl⟩ := exists_of_map_eq_ok h
  obtain ⟨tail, htail, rfl⟩ := exists_of_map_eq_ok hblock
  dsimp only at htail ⊢
  let d := Directive.ofParts (gated o.kind) (line + Text.newlines (Lexeme.texts before)) o
    (Lexeme.texts body) s
  let d' := d.withBody (Lexeme.texts body')
  -- what follows the block is read as before, from where the block ends now
  obtain ⟨tail', htail', hspans⟩ := exists_ofPieces_moved htail
    (position + (Lexeme.texts before).length + d'.text.length)
    (Text.newlines d'.text - Text.newlines d.text)
  have hline : line + Text.newlines (Lexeme.texts before) + Text.newlines d.text +
      (Text.newlines d'.text - Text.newlines d.text) =
        line + Text.newlines (Lexeme.texts before) + Text.newlines d'.text := by
    omega
  rw [hline] at htail'
  refine ⟨front ++ withText gathered' [], tail, tail',
    position + (Lexeme.texts before).length + d'.text.length, _, ?_, ?_, hspans⟩
  · rw [List.append_assoc, ← withText_append]
    rfl
  · have hd' : Directive.ofParts (gated o.kind) (line + Text.newlines (Lexeme.texts before)) o
        (Lexeme.texts body') s = d' := rfl
    rw [hd', htail']
    refine congrArg Except.ok ?_
    rw [List.append_assoc, ← withText_append]
    rfl

/-- A block stands at one place of spans that cover a text. -/
theorem Tiles.eq_of_block_eq {position : Nat} {line : Int} {before before' after after' : List Span}
    {d d' : Directive} {start stop stop' : Nat} {covered : Text}
    (h : Tiles position line (before ++ .block d start stop :: after) covered)
    (hpos : ∀ e a b, .block e a b ∈ before ++ .block d start stop :: after → 0 < e.text.length)
    (heq : before ++ .block d start stop :: after = before' ++ .block d' start stop' :: after') :
    before = before' ∧ d = d' ∧ after = after' := by
  have hplace := (h.place rfl).1
  have hplace' := (h.place heq).1
  rcases List.append_eq_append_iff.1 heq with ⟨mid, rfl, hmid⟩ | ⟨mid, rfl, hmid⟩
  · rcases List.cons_eq_append_iff.1 hmid with ⟨rfl, hfirst⟩ | ⟨mid, rfl, -⟩
    · cases hfirst
      exact ⟨(List.append_nil before).symm, rfl, rfl⟩
    · have := hpos d start stop (by simp)
      rw [sources_append, sources_cons, List.length_append, List.length_append, source] at hplace'
      omega
  · rcases List.cons_eq_append_iff.1 hmid with ⟨rfl, hfirst⟩ | ⟨mid, rfl, -⟩
    · cases hfirst
      exact ⟨List.append_nil before', rfl, rfl⟩
    · have := hpos d' start stop' (by rw [heq]; simp)
      rw [sources_append, sources_cons, List.length_append, List.length_append, source] at hplace
      omega

section

variable {word page page' : Text} {offset : Int} {spans front tail : List Span} {d : Directive}
  {start stop : Nat}

/-- No block of a scan is empty. -/
theorem length_text_pos_of_mem_scan (h : (scan word gated file offset page).result = .ok spans)
    (hd : .block d start stop ∈ spans) : 0 < d.text.length := by
  obtain ⟨before, o, body, s, after, hlex, -, -, rfl, -, -⟩ := exists_lexemes_of_mem_ofPieces h hd
  have hmem : Lexeme.opening o ∈ Lexeme.lex word page := by
    rw [hlex]
    simp
  have hlen := length_opening_pos hmem
  rw [Directive.text_ofParts, List.length_append, List.length_append]
  omega

/-- The scan of a text in which a block has another body. -/
theorem exists_scan_replaced
    (h : (scan word gated file offset page).result = .ok (front ++ .block d start stop :: tail))
    {before body body' after : List Lexeme} {o : Opening} {s : Text}
    (hbefore : Lexeme.Closed before) (hbody : Lexeme.Balanced body)
    (hbody' : Lexeme.Balanced body') (hstart : start = (Lexeme.texts before).length)
    (hlex : Lexeme.lex word page = before ++ .opening o :: (body ++ .closing s :: after))
    (hlex' : Lexeme.lex word page' = before ++ .opening o :: (body' ++ .closing s :: after)) :
    ∃ tail' stop' n,
      (scan word gated file offset page').result =
          .ok (front ++ .block (d.withBody (Lexeme.texts body')) start stop' :: tail') ∧
        tail'.map unplaced = (tail.map (moved n)).map unplaced := by
  have hpieces : (ofPieces gated file 0 (offset + 1) []
      (Piece.ofLexemes (before ++ .opening o :: (body ++ .closing s :: after)))).result =
        .ok (front ++ .block d start stop :: tail) := hlex ▸ h
  obtain ⟨front', tail₀, tail', stop', n, hspans, hscan', htail⟩ :=
    exists_ofPieces_replaced hbefore hbody hbody' hpieces
  rw [Nat.zero_add, ← hstart] at hspans hscan'
  -- the spans cover the text, so the block is the one that the lexemes say
  obtain ⟨rfl, rfl, rfl⟩ := (tiles_of_scan h).eq_of_block_eq
    (fun e a b he => length_text_pos_of_mem_scan h he) hspans
  rw [← hlex'] at hscan'
  exact ⟨tail', stop', n, hscan', htail⟩

end

end Span

/-! ## A pass over a text with another body -/

namespace Page

variable {w : Workspace} {ctx : Context}

/-- What a block becomes does not look at its lines. -/
theorem unlined_perform_moved (hregistry : ctx.registry = .initial) (n : Int) (d : Directive)
    (active : Bool) :
    unlined (perform w (Visit.expand w) ctx (d.moved n) active).result =
      unlined (perform w (Visit.expand w) ctx d active).result := by
  rw [result_perform, result_perform, Directive.bodyOffset_moved]
  exact Element.unlined_resolved_moved hregistry _ n d
    (Visit.unlined_expand_moved w n ⟨ctx, d.bodyOffset, d.body⟩ hregistry) active

/-- Spans that are the same up to places and lines become the same. -/
theorem unlined_assemble_of_unplaced (hregistry : ctx.registry = .initial)
    {spans spans' : List Span} {n : Int}
    (h : spans'.map Span.unplaced = (spans.map (Span.moved n)).map Span.unplaced)
    (flags : List Bool) :
    unlined (Span.assemble spans' flags fun d _ active =>
        perform w (Visit.expand w) ctx d active).result =
      unlined (Span.assemble spans flags fun d _ active =>
        perform w (Visit.expand w) ctx d active).result := by
  have hspans := Span.result_assemble_map_unplaced (fun d active =>
    perform w (Visit.expand w) ctx d active) spans' flags
  rw [h, Span.result_assemble_map_unplaced] at hspans
  rw [← hspans]
  exact Span.unlined_assemble_moved
    (fun d _ _ active _ => unlined_perform_moved hregistry n d active) flags

end Page

namespace Activation

/-- Decisions do not look at the body of a block, nor at the places and lines of the blocks after
it. -/
theorem flags_replaced (r : Registry) (environment : Option Text) {front tail tail' : List Span}
    {n : Int} (h : tail'.map Span.unplaced = (tail.map (Span.moved n)).map Span.unplaced)
    (d : Directive) (body : Text) (start stop stop' : Nat) (s : Switch) :
    flags r environment s (front ++ .block (d.withBody body) start stop' :: tail') =
      flags r environment s (front ++ .block d start stop :: tail) := by
  induction front generalizing s with
  | nil =>
    have htail (s : Switch) : flags r environment s tail' = flags r environment s tail := by
      rw [← flags_map_unplaced, h, flags_map_unplaced, flags_map_moved]
    exact congrArg ((decide r environment s d).1 :: ·) (htail (decide r environment s d).2)
  | cons span front ih =>
    cases span with
    | text t => exact congrArg (false :: ·) (ih _)
    | block e start stop =>
      exact congrArg ((decide r environment s e).1 :: ·) (ih (decide r environment s e).2)

end Activation

namespace Page

/-- The block types of a text are known whatever the body of a block is, and wherever the blocks
after it stand. -/
theorem requireKnown_replaced {ctx : Context} {front tail tail' : List Span} {n : Int}
    {d : Directive} {start stop : Nat}
    (h : tail'.map Span.unplaced = (tail.map (Span.moved n)).map Span.unplaced)
    (hknown : requireKnown ctx (front ++ .block d start stop :: tail) = .ok ()) (body : Text)
    (stop' : Nat) :
    requireKnown ctx (front ++ .block (d.withBody body) start stop' :: tail') = .ok () := by
  rw [requireKnown_eq_ok_iff] at hknown ⊢
  intro e a b he
  rcases List.mem_append.1 he with he | he
  · exact hknown e a b (List.mem_append_left _ he)
  · rcases List.mem_cons.1 he with heq | he
    · cases heq
      exact hknown d start stop (by simp)
    · -- the block stands among those after the replaced body, at some other place
      have hmem := List.mem_map_of_mem (f := Span.unplaced) he
      rw [h, List.map_map] at hmem
      obtain ⟨span, hspan, heq⟩ := List.mem_map.1 hmem
      cases span with
      | text t => cases heq
      | block e' a' b' =>
        cases heq
        exact hknown e' a' b' (by simp [hspan])

end Page

namespace Visit

variable {w : Workspace} {v : Visit} {d : Directive} {active : Bool} {start stop : Nat}

/-- **The pass over a text decides** whether the block between two places of the text is active. -/
inductive Decides (v : Visit) (d : Directive) (active : Bool) (start stop : Nat) : Prop where
  | intro {before after : List Span} {flags : List Bool}
      (hscan : (Page.scan v.ctx v.offset v.page).result =
        .ok (before ++ .block d start stop :: after))
      (hknown : Page.requireKnown v.ctx (before ++ .block d start stop :: after) = .ok ())
      (hflags : (Activation.resolve v.ctx.registry v.ctx.options.environment
        (before ++ .block d start stop :: after)).result = .ok flags)
      (hactive : flags[before.length]? = some active)

/-- A block that is decided is a part of the lexemes of its text. -/
theorem Decides.exists_lexemes (h : v.Decides d active start stop) :
    ∃ before o body s after,
      Lexeme.lex v.ctx.options.marker v.page =
          before ++ .opening o :: (body ++ .closing s :: after) ∧
        Lexeme.Closed before ∧ Lexeme.Balanced body ∧
        d = Directive.ofParts (v.ctx.registry.isGated o.kind)
          (v.offset + 1 + Text.newlines (Lexeme.texts before)) o (Lexeme.texts body) s ∧
        start = (Lexeme.texts before).length ∧
          start + d.openMarker.length = (Lexeme.texts (before ++ [.opening o])).length ∧
            stop - d.closeMarker.length = (Lexeme.texts (before ++ .opening o :: body)).length := by
  obtain ⟨hscan, -, -, -⟩ := h
  obtain ⟨before, o, body, s, after, hlex, hbefore, hbody, rfl, rfl, rfl⟩ :=
    Span.exists_lexemes_of_mem_ofPieces hscan (List.mem_append_right _ List.mem_cons_self)
  refine ⟨before, o, body, s, after, hlex, hbefore, hbody, rfl, Nat.zero_add _, ?_, ?_⟩
  · simp only [Directive.ofParts, Span.texts_append, Span.texts_cons, Span.texts_nil,
      List.append_nil, List.length_append, Lexeme.text, Nat.zero_add]
  · simp only [Directive.text_ofParts, Span.texts_append, Span.texts_cons, List.length_append,
      Lexeme.text]
    simp only [Directive.ofParts]
    omega

/-- **A pass over a text with another body for one of its blocks** gives the same, up to lines, if
the block does. -/
theorem Decides.unlined_expand_of_lex_eq (h : v.Decides d active start stop)
    (hregistry : v.ctx.registry = .initial) {before body body' after : List Lexeme} {o : Opening}
    {s : Text} (hbefore : Lexeme.Closed before) (hbody : Lexeme.Balanced body)
    (hbody' : Lexeme.Balanced body') (hstart : start = (Lexeme.texts before).length)
    (hlex : Lexeme.lex v.ctx.options.marker v.page =
      before ++ .opening o :: (body ++ .closing s :: after)) {page : Text}
    (hlex' : Lexeme.lex v.ctx.options.marker page =
      before ++ .opening o :: (body' ++ .closing s :: after))
    (hblock : unlined (Page.perform w (expand w) v.ctx (d.withBody (Lexeme.texts body'))
        active).result =
      unlined (Page.perform w (expand w) v.ctx d active).result) :
    unlined (expand w { v with page := page }).result = unlined (v.expand w).result := by
  obtain @⟨front, tail, flags, hscan, hknown, hflags, hactive⟩ := h
  obtain ⟨tail', stop', n, hscan', htail⟩ : ∃ tail' stop' n,
      (Page.scan v.ctx v.offset page).result =
          .ok (front ++ .block (d.withBody (Lexeme.texts body')) start stop' :: tail') ∧
        tail'.map Span.unplaced = (tail.map (Span.moved n)).map Span.unplaced :=
    Span.exists_scan_replaced hscan hbefore hbody hbody' hstart hlex hlex'
  have hresolve := Activation.result_resolveFrom v.ctx.options.environment
    (Page.requireKnown_eq_ok_iff.1 hknown) .none
  rw [Activation.resolve, hresolve, Except.ok.injEq] at hflags
  rw [expand_eq_pass, expand_eq_pass, Page.result_pass_eq_flags, Page.result_pass_eq_flags]
  show unlined ((Page.scan v.ctx v.offset page).result.bind _) = _
  rw [hscan', hscan]
  show unlined ((Page.requireKnown v.ctx _).bind _) = unlined ((Page.requireKnown v.ctx _).bind _)
  rw [hknown, Page.requireKnown_replaced htail hknown]
  show unlined (Span.assemble _ _ _).result = unlined (Span.assemble _ _ _).result
  rw [Activation.flags_replaced _ _ htail, hflags, Span.result_assemble_append,
    Span.result_assemble_append, unlined_bind, unlined_bind]
  have hflag : (flags.drop front.length).headD false = active := by
    rw [List.headD_eq_head?_getD, List.head?_drop, hactive]
    rfl
  -- what stands before the block is the same, then comes the block, and then what stands after it
  refine congrArg _ (funext fun t => ?_)
  rw [Span.result_assemble_block, Span.result_assemble_block, hflag, unlined_map, unlined_map,
    unlined_bind, unlined_bind, hblock]
  refine congrArg _ (congrArg _ (funext fun first => ?_))
  rw [unlined_map, unlined_map, Page.unlined_assemble_of_unplaced hregistry htail]

end Visit

/-! ## Blocks with another body -/

namespace Element

variable {w : Workspace} {ctx : Context}

/-- An inactive gated block does not look at its body. -/
theorem resolved_withBody_of_gated (enter : Enter w ctx) {d : Directive}
    (hgated : ctx.registry.isGated d.kind = true) (body : Text)
    (inner inner' : Except Failure Text) :
    resolved w ctx enter (d.withBody body) inner' false = resolved w ctx enter d inner false := by
  have hkind : (d.withBody body).kind = d.kind := rfl
  unfold resolved
  rw [hkind]
  cases hfind : ctx.registry.find? d.kind with
  | none => rfl
  | some b =>
    have hb : b.gated = true := by simpa [Registry.isGated, hfind] using hgated
    simp only [inactive, hb, if_true]
    rfl

/-- **A block that has its body worked through** does not look at the body itself. -/
theorem unlined_resolved_withBody (hregistry : ctx.registry = .initial) (enter : Enter w ctx)
    {d : Directive} {active : Bool} {frame : Text → Text}
    (htask : (Task.ofBlock w ctx d active).result = .ok (.body frame)) (body : Text)
    {inner inner' : Except Failure Text} (hinner : unlined inner' = unlined inner) :
    unlined (resolved w ctx enter (d.withBody body) inner' active) =
      unlined (resolved w ctx enter d inner active) := by
  refine unlined_resolved_congr hregistry rfl rfl rfl rfl (fun b hfind hhandler hactive => ?_) rfl
    hinner
  -- a conditional comment keeps its body as it stands, and asks for nothing to be worked through
  subst hactive
  rw [Task.result_ofBlock_of_active hfind, hhandler] at htask
  cases htask

end Element

namespace Visit

variable {w : Workspace} {v : Visit} {left right : Nat}

/-- **The body between two places of a text is dropped.** It is that of a target-gated block of the
text that does not apply, or it lies in the body of a block of the text that has its body worked
through, and is dropped there. -/
inductive Drops (w : Workspace) : Visit → Nat → Nat → Prop where
  | here {v : Visit} {d : Directive} {start stop : Nat} (hdecides : v.Decides d false start stop)
      (hgated : v.ctx.registry.isGated d.kind = true) :
      Drops w v (start + d.openMarker.length) (stop - d.closeMarker.length)
  | within {v : Visit} {outer : Directive} {active : Bool} {frame : Text → Text}
      {start stop left right : Nat} (hdecides : v.Decides outer active start stop)
      (htask : (Task.ofBlock w v.ctx outer active).result = .ok (.body frame))
      (hinner : Drops w ⟨v.ctx, outer.bodyOffset, outer.body⟩ left right) :
      Drops w v (start + outer.openMarker.length + left) (start + outer.openMarker.length + right)

/-- A body that is dropped is a balanced part of the lexemes of the text. -/
theorem Drops.exists_lexemes (h : v.Drops w left right) :
    ∃ before o body s after,
      Lexeme.lex v.ctx.options.marker v.page =
          before ++ .opening o :: (body ++ .closing s :: after) ∧
        Lexeme.Balanced body ∧ left = (Lexeme.texts (before ++ [.opening o])).length ∧
          right = (Lexeme.texts (before ++ .opening o :: body)).length := by
  induction h with
  | here hdecides hgated =>
    obtain ⟨before, o, body, s, after, hlex, -, hbody, -, -, hleft, hright⟩ :=
      hdecides.exists_lexemes
    exact ⟨before, o, body, s, after, hlex, hbody, hleft, hright⟩
  | within hdecides htask hinner ih =>
    obtain ⟨front, open', inside, close, back, hlex, -, -, rfl, hstart, -, -⟩ :=
      hdecides.exists_lexemes
    obtain ⟨before, o, body, s, after, hlex', hbody, rfl, rfl⟩ := ih
    -- the lexemes of the outer body are those between the markers of the outer block
    have hinside : inside = before ++ .opening o :: (body ++ .closing s :: after) := by
      rw [← hlex', Directive.body_ofParts, Lexeme.lex_body hlex]
    refine ⟨front ++ .opening open' :: before, o, body, s, after ++ .closing close :: back, ?_,
      hbody, ?_, ?_⟩
    · rw [hlex, hinside]
      simp
    · simp only [hstart, Directive.ofParts, Span.texts_append, Span.texts_cons, Span.texts_nil,
        List.append_nil, List.length_append, Lexeme.text]
      omega
    · simp only [hstart, Directive.ofParts, Span.texts_append, Span.texts_cons, List.length_append,
        Lexeme.text]
      omega

/-- **Dropped bodies do not matter.** With the block types that are always there and a marker word
without blanks, a body that is dropped may be replaced by any text that starts with a line end and
in which no comment starts: the text around it becomes what it was before, or fails in the same way
up to the line of a fault. So nothing in the old body has an effect, neither a block of an unknown
type nor an include of a file that is not there or that is being included already. -/
theorem unlined_expand_of_drops (hdrops : v.Drops w left right)
    (hregistry : v.ctx.registry = .initial)
    (hmarker : ∀ c ∈ v.ctx.options.marker, Text.isBlank c = false) {t : Text}
    (ht : ¬ Marker.commentStart <:+: '\n' :: t) :
    unlined (expand w { v with page := v.page.replaced left right ('\n' :: t) }).result =
      unlined (v.expand w).result := by
  induction hdrops with
  | @here v d start stop hdecides hgated =>
    obtain ⟨before, o, body, s, after, hlex, hbefore, hbody, -, hstart, hleft, hright⟩ :=
      hdecides.exists_lexemes
    refine hdecides.unlined_expand_of_lex_eq hregistry hbefore hbody
      (Lexeme.balanced_map_char ('\n' :: t)) hstart hlex ?_ ?_
    · rw [hleft, hright, Lexeme.lex_replaced hmarker hlex ht]
    · rw [Page.result_perform, Page.result_perform, Element.resolved_withBody_of_gated _ hgated]
  | @within v outer active frame start stop left right hdecides htask hinner ih =>
    obtain ⟨front, o, inside, close, back, hlex, hfront, hinside, hd, hstart, hleft, -⟩ :=
      hdecides.exists_lexemes
    obtain ⟨before, o', body, s, after, hlex', hbody, rfl, rfl⟩ := hinner.exists_lexemes
    have hsource : outer.body = Lexeme.texts inside := by rw [hd, Directive.body_ofParts]
    have hlexemes : inside = before ++ .opening o' :: (body ++ .closing s :: after) := by
      rw [← hlex', hsource, Lexeme.lex_body hlex]
    -- the lexemes of the whole text, cut at the body that is dropped
    have hwhole : Lexeme.lex v.ctx.options.marker v.page = front ++ .opening o :: before ++
        .opening o' :: (body ++ .closing s :: (after ++ .closing close :: back)) := by
      rw [hlex, hlexemes]
      simp
    have hinside' : Lexeme.Balanced (before ++ .opening o' :: (('\n' :: t).map .char ++
        .closing s :: after)) := by
      rw [hlexemes, List.append_cons] at hinside
      rw [List.append_cons]
      exact hinside.replace hbody (Lexeme.balanced_map_char _)
    refine hdecides.unlined_expand_of_lex_eq hregistry hfront hinside hinside' hstart hlex ?_ ?_
    · have hopen : start + outer.openMarker.length +
          (Lexeme.texts (before ++ [.opening o'])).length =
            (Lexeme.texts (front ++ .opening o :: before ++ [.opening o'])).length := by
        rw [hleft, ← List.length_append, ← Span.texts_append]
        simp
      have hclose : start + outer.openMarker.length +
          (Lexeme.texts (before ++ .opening o' :: body)).length =
            (Lexeme.texts (front ++ .opening o :: before ++ .opening o' :: body)).length := by
        rw [hleft, ← List.length_append, ← Span.texts_append]
        simp
      rw [hopen, hclose, Lexeme.lex_replaced hmarker hwhole ht]
      simp
    · rw [Page.result_perform, Page.result_perform]
      refine Element.unlined_resolved_withBody hregistry _ htask _ ?_
      have hreplaced : Lexeme.texts (before ++ .opening o' :: (('\n' :: t).map .char ++
          .closing s :: after)) =
            outer.body.replaced (Lexeme.texts (before ++ [.opening o'])).length
              (Lexeme.texts (before ++ .opening o' :: body)).length ('\n' :: t) := by
        rw [← Lexeme.lex_replaced hmarker hlex' ht, Lexeme.texts_lex]
      rw [Directive.body_withBody, hreplaced]
      exact ih hregistry hmarker

end Visit

namespace NestedDrop

open IncludingPage TwoBlocks

/-- The block that is kept for the target `dev` only, with a block of an unknown type in it. -/
def droppedBlock : Directive where
  kind := "remove".toList
  targets := ["dev".toList]
  params := "dev".toList
  bodyLines := ["<!--m:nope--><!--/m-->".toList]
  startLine := 1
  endLine := 1
  openMarker := "<!--m:remove(dev)-->".toList
  closeMarker := "<!--/m-->".toList

/-- The block around it. -/
def outerBlock : Directive where
  kind := "js".toList
  targets := []
  params := []
  bodyLines := ["<!--m:remove(dev)--><!--m:nope--><!--/m--><!--/m-->".toList]
  startLine := 1
  endLine := 1
  openMarker := "<!--m:js-->".toList
  closeMarker := "<!--/m-->".toList

/-- A page that is these two blocks. -/
def nestedPage : Text :=
  "<!--m:js--><!--m:remove(dev)--><!--m:nope--><!--/m--><!--/m--><!--/m-->".toList

/-- The lexemes of the body of the dropped block. -/
def unknownBlock : List Lexeme :=
  [.opening ⟨"<!--m:nope-->".toList, "nope".toList, none, none, none⟩, .closing closing]

/-- The lexemes of the body of the outer block. -/
def insideOuter : List Lexeme :=
  .opening ⟨droppedBlock.openMarker, "remove".toList, none, some "dev".toList, none⟩ ::
    (unknownBlock ++ [.closing closing])

theorem balanced_unknownBlock : Lexeme.Balanced unknownBlock := .block _ _ .nil .nil

theorem lex_outerBlock : Lexeme.lex "m".toList outerBlock.body = insideOuter := by
  decide +kernel

theorem lex_nestedPage : Lexeme.lex "m".toList nestedPage =
    .opening ⟨outerBlock.openMarker, "js".toList, none, none, none⟩ ::
      (insideOuter ++ [.closing closing]) := by
  decide +kernel

theorem decides_droppedBlock :
    Visit.Decides ⟨forTarget, outerBlock.bodyOffset, outerBlock.body⟩ droppedBlock false 0 51 := by
  have hscan : (Page.scan forTarget outerBlock.bodyOffset outerBlock.body).result =
      .ok ([] ++ [.block droppedBlock 0 51]) :=
    (Span.result_scan_of_block lex_outerBlock balanced_unknownBlock _ _ _).trans (by rfl)
  exact .intro hscan (by rfl) (by rfl : _ = Except.ok [false]) rfl

theorem decides_outerBlock : Visit.Decides ⟨forTarget, 0, nestedPage⟩ outerBlock true 0 71 := by
  have hscan : (Page.scan forTarget 0 nestedPage).result = .ok ([] ++ [.block outerBlock 0 71]) :=
    (Span.result_scan_of_block lex_nestedPage (.block _ _ balanced_unknownBlock .nil) _ _ _).trans
      (by rfl)
  exact .intro hscan (by rfl) (by rfl : _ = Except.ok [true]) rfl

theorem drops_nestedPage : Visit.Drops (workspace 1 []) ⟨forTarget, 0, nestedPage⟩ 31 53 :=
  have htask : (Task.ofBlock (workspace 1 []) forTarget outerBlock true).result =
      .ok (.body id) := by
    rfl
  .within decides_outerBlock htask (.here decides_droppedBlock (by rfl))

end NestedDrop

namespace Visit

/-- Replacing the body of the inner block of a page, which holds a block of an unknown type. -/
theorem unlined_expand_of_drops_of_nested :
    Visit.Drops (IncludingPage.workspace 1 []) ⟨TwoBlocks.forTarget, 0, NestedDrop.nestedPage⟩ 31 53 ∧
      TwoBlocks.forTarget.registry = .initial ∧
      (∀ c ∈ TwoBlocks.forTarget.options.marker, Text.isBlank c = false) ∧
      ¬ Marker.commentStart <:+: '\n' :: "x".toList ∧
      unlined (expand (IncludingPage.workspace 1 []) ⟨TwoBlocks.forTarget, 0,
          NestedDrop.nestedPage.replaced 31 53 ('\n' :: "x".toList)⟩).result =
        unlined (expand (IncludingPage.workspace 1 [])
          ⟨TwoBlocks.forTarget, 0, NestedDrop.nestedPage⟩).result := by
  have hmarker : ∀ c ∈ TwoBlocks.forTarget.options.marker, Text.isBlank c = false := fun c hc => by
    rw [List.mem_singleton.1 hc]
    rfl
  have ht : ¬ Marker.commentStart <:+: '\n' :: "x".toList := by decide
  exact ⟨NestedDrop.drops_nestedPage, rfl, hmarker, ht,
    unlined_expand_of_drops NestedDrop.drops_nestedPage rfl hmarker ht⟩

end Visit
end BuildBlocks
