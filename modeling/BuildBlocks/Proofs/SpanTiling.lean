import BuildBlocks.Proofs.Nesting

/-!
# Spans tile their page

The spans of a page lie one after another without a gap: put together they are the page, every block
stands at the place that its span names and is written there as its directive says, and the lines of
blocks do not go back.

## The architecture

* **`Tiles`** says what it is for spans to cover a text from a place and a line on: a text between
  blocks is not empty, and only a block may follow it.
* **`tiles_of_ofPieces`**: what a scan gives covers the text that its lexemes make up. What was
  gathered since the last block belongs to the text that is covered.
* **`scan_tiles`** reads off what it means that the spans of a page cover it.
-/

namespace BuildBlocks
namespace Span

/-- Spans as they are written one after another. -/
def sources (spans : List Span) : Text := spans.flatMap source

theorem sources_cons (span : Span) (spans : List Span) :
    sources (span :: spans) = span.source ++ sources spans := List.flatMap_cons

theorem sources_append (a b : List Span) : sources (a ++ b) = sources a ++ sources b :=
  List.flatMap_append

/-! ## Covering a text -/

/-- Spans cover a text that starts at a place of a page and on a line of its file. -/
inductive Tiles : (position : Nat) → (line : Int) → (spans : List Span) → (covered : Text) → Prop
  | nil (position : Nat) (line : Int) : Tiles position line [] []
  | text (position : Nat) (line : Int) {s : Text} (hs : s ≠ []) : Tiles position line [.text s] s
  | block {position : Nat} {line : Int} {d : Directive} {spans : List Span} {covered : Text}
      (hstart : d.startLine = line) (hlines : d.startLine ≤ d.endLine)
      (hend : d.endLine ≤ line + Text.newlines d.text)
      (hrest : Tiles (position + d.text.length) (line + Text.newlines d.text) spans covered) :
      Tiles position line (.block d position (position + d.text.length) :: spans)
        (d.text ++ covered)
  | between {position : Nat} {line : Int} {s : Text} {d : Directive} {start stop : Nat}
      {spans : List Span} {covered : Text} (hs : s ≠ [])
      (hrest : Tiles (position + s.length) (line + Text.newlines s) (.block d start stop :: spans)
        covered) :
      Tiles position line (.text s :: .block d start stop :: spans) (s ++ covered)

namespace Tiles

variable {position : Nat} {line : Int} {spans : List Span} {covered : Text}

/-- Spans put together are what they cover. -/
theorem sources_eq (h : Tiles position line spans covered) : sources spans = covered := by
  induction h with
  | nil => rfl
  | text => exact List.flatMap_singleton _ _
  | block _ _ _ _ ih => rw [← ih, sources_cons, source]
  | between _ _ ih => rw [← ih, sources_cons, source]

/-- A block starts where the spans before it end, and stops after its text. -/
theorem place {before after : List Span} {d : Directive} {start stop : Nat}
    (h : Tiles position line spans covered) (heq : spans = before ++ .block d start stop :: after) :
    start = position + (sources before).length ∧ stop = start + d.text.length := by
  induction h generalizing before with
  | nil => simp at heq
  | text =>
    obtain ⟨-, htail⟩ | ⟨_, -, htail⟩ := List.cons_eq_append_iff.1 heq
    · cases htail
    · simp at htail
  | block _ _ _ _ ih =>
    obtain ⟨rfl, hhead⟩ | ⟨before, rfl, htail⟩ := List.cons_eq_append_iff.1 heq
    · cases hhead
      exact ⟨by simp [sources], rfl⟩
    · obtain ⟨hstart, hstop⟩ := ih htail
      refine ⟨?_, hstop⟩
      rw [hstart, sources_cons, source, List.length_append, Nat.add_assoc]
  | between _ _ ih =>
    obtain ⟨-, hhead⟩ | ⟨before, rfl, htail⟩ := List.cons_eq_append_iff.1 heq
    · cases hhead
    · obtain ⟨hstart, hstop⟩ := ih htail
      refine ⟨?_, hstop⟩
      rw [hstart, sources_cons, source, List.length_append, Nat.add_assoc]

/-- No text between blocks is empty. -/
theorem text_ne_nil {s : Text} (h : Tiles position line spans covered) (hs : .text s ∈ spans) :
    s ≠ [] := by
  induction h with
  | nil => simp at hs
  | text _ _ hne =>
    cases List.mem_singleton.1 hs
    exact hne
  | block _ _ _ _ ih => exact ih (List.mem_of_ne_of_mem Span.noConfusion hs)
  | between hne _ ih =>
    obtain hs | hs := List.mem_cons.1 hs
    · cases hs
      exact hne
    · exact ih hs

/-- A block comes between any two texts. -/
theorem not_adjacent {before after : List Span} {s t : Text}
    (h : Tiles position line spans covered) : spans ≠ before ++ .text s :: .text t :: after := by
  intro heq
  induction h generalizing before with
  | nil => simp at heq
  | text =>
    obtain ⟨-, heq⟩ | ⟨_, -, heq⟩ := List.cons_eq_append_iff.1 heq
    · cases heq
    · simp at heq
  | block _ _ _ _ ih =>
    obtain ⟨-, heq⟩ | ⟨_, -, heq⟩ := List.cons_eq_append_iff.1 heq
    · cases heq
    · exact ih heq
  | between _ _ ih =>
    obtain ⟨-, heq⟩ | ⟨_, -, heq⟩ := List.cons_eq_append_iff.1 heq
    · cases heq
    · exact ih heq

/-- A block does not end before the line it starts on, nor start before the line that is covered
from. -/
theorem lines_le {d : Directive} {start stop : Nat} (h : Tiles position line spans covered)
    (hd : .block d start stop ∈ spans) : line ≤ d.startLine ∧ d.startLine ≤ d.endLine := by
  induction h with
  | nil => simp at hd
  | text => simp at hd
  | block hstart hlines _ _ ih =>
    obtain hd | hd := List.mem_cons.1 hd
    · cases hd
      exact ⟨hstart ▸ Int.le_refl _, hlines⟩
    · obtain ⟨hline, hlines⟩ := ih hd
      exact ⟨by omega, hlines⟩
  | between _ _ ih =>
    obtain ⟨hline, hlines⟩ := ih (List.mem_of_ne_of_mem Span.noConfusion hd)
    exact ⟨by omega, hlines⟩

/-- A block ends on a line before or on which all blocks after it start. -/
theorem pairwise_lines (h : Tiles position line spans covered) :
    (spans.filterMap directive?).Pairwise fun d e => d.endLine ≤ e.startLine := by
  induction h with
  | nil => exact .nil
  | text => exact .nil
  | @block position line d spans covered _ _ hend hrest ih =>
    refine List.pairwise_cons.2 ⟨fun e he => ?_, ih⟩
    obtain ⟨span, hspan, he⟩ := List.mem_filterMap.1 he
    cases span with
    | text => cases he
    | block e' start stop =>
      cases he
      exact Int.le_trans hend (hrest.lines_le hspan).1
  | between _ _ ih => exact ih

/-- What was gathered before spans is a text of its own before them, if spans start with a block or
there are none. -/
theorem withText {gathered : Text} (h : Tiles (position + gathered.length)
      (line + Text.newlines gathered) spans covered)
    (hspans : spans = [] ∨ ∃ d start stop rest, spans = .block d start stop :: rest) :
    Tiles position line (Span.withText gathered spans) (gathered.reverse ++ covered) := by
  unfold Span.withText
  split
  · next hempty =>
    rw [List.isEmpty_iff] at hempty
    subst hempty
    simpa [Text.newlines] using h
  · next hgathered =>
    have hne : gathered.reverse ≠ [] := by simpa using hgathered
    have hnewlines : Text.newlines gathered.reverse = Text.newlines gathered := List.count_reverse
    obtain rfl | ⟨d, start, stop, rest, rfl⟩ := hspans
    · cases h
      rw [List.append_nil]
      exact .text _ _ hne
    · refine .between hne ?_
      rw [List.length_reverse, hnewlines]
      exact h

end Tiles

/-! ## What a scan gives -/

variable {gated : Text → Bool} {file : Option Text}

/-- **What a scan gives covers the text of its lexemes**, with what was gathered before them. The
induction follows the pairing of markers, so a block is one step of it. -/
theorem tiles_of_ofPieces {ls : List Lexeme} {position place : Nat} {line current : Int}
    {gathered : Text} {spans : List Span} (hplace : place = position + gathered.length)
    (hcurrent : current = line + Text.newlines gathered)
    (h : (ofPieces gated file place current gathered (Piece.ofLexemes ls)).result = .ok spans) :
    Tiles position line spans (gathered.reverse ++ Lexeme.texts ls) := by
  fun_induction Piece.ofLexemes ls generalizing position place line current gathered spans with
  | case1 =>
    cases h
    subst hplace hcurrent
    exact Tiles.withText (.nil _ _) (.inl rfl)
  | case2 c rest ih =>
    have hlines : Text.newlines (c :: gathered) = Text.newlines [c] + Text.newlines gathered :=
      Text.newlines_append [c] gathered
    have htiles : Tiles position line spans ((c :: gathered).reverse ++ Lexeme.texts rest) :=
      ih (by rw [hplace, List.length_cons, Nat.add_assoc]) (by rw [hcurrent, hlines]; omega) h
    simpa [texts_cons, Lexeme.text] using htiles
  | case3 t rest ih =>
    have hlines : Text.newlines (t.reverse ++ gathered) = Text.newlines t + Text.newlines gathered := by
      rw [Text.newlines_append]
      exact congrArg (· + _) List.count_reverse
    rw [result_ofPieces_stray] at h
    have htiles : Tiles position line spans ((t.reverse ++ gathered).reverse ++ Lexeme.texts rest) :=
      ih (by rw [hplace, List.length_append, List.length_reverse]; omega)
        (by rw [hcurrent, hlines]; omega) h
    simpa [texts_cons, Lexeme.text] using htiles
  | case4 o rest hm => cases h
  | case5 o rest body t after hm ih =>
    subst hplace hcurrent
    rw [result_ofPieces_block] at h
    obtain ⟨tail, htail, rfl⟩ := exists_of_map_eq_ok h
    have htiles : Tiles _ _ tail (([] : Text).reverse ++ Lexeme.texts after) :=
      ih rfl (Int.add_zero _).symm htail
    refine Tiles.withText ?_ (.inr ⟨_, _, _, _, rfl⟩)
    -- a block covers its two markers and the body between them
    rw [Piece.eq_of_matching hm, ← List.cons_append,
      texts_block (gated o.kind) (line + Text.newlines gathered)]
    refine .block rfl ?_ ?_ htiles
    · simp only [Directive.ofParts]
      omega
    · rw [Directive.text_ofParts, Text.newlines_append, Text.newlines_append]
      simp only [Directive.ofParts]
      omega

variable {word : Text} {offset : Int} {page : Text} {spans : List Span}

/-- The spans of a scan cover the page. -/
theorem tiles_of_scan (h : (scan word gated file offset page).result = .ok spans) :
    Tiles 0 (offset + 1) spans page := by
  have hlexemes : Tiles 0 (offset + 1) spans
      (([] : Text).reverse ++ Lexeme.texts (Lexeme.lex word page)) :=
    tiles_of_ofPieces rfl (Int.add_zero _).symm h
  rwa [Lexeme.texts_lex] at hlexemes

/-- **Spans tile their page.** Put together they are the page. A block starts where the span before
it ends, and between its start and its stop the page reads as the block is written. No text between
blocks is empty and no two texts meet. A block does not end before the line it starts on, and the
blocks after it do not start before the line it ends on. -/
theorem scan_tiles (h : (scan word gated file offset page).result = .ok spans) :
    sources spans = page ∧
      (∀ before d start stop after, spans = before ++ .block d start stop :: after →
        start = (sources before).length ∧ stop = start + d.text.length ∧ stop ≤ page.length ∧
          (page.drop start).take (stop - start) = d.text) ∧
      (∀ s, .text s ∈ spans → s ≠ []) ∧
      (∀ before s t after, spans ≠ before ++ .text s :: .text t :: after) ∧
      (∀ d start stop, .block d start stop ∈ spans → d.startLine ≤ d.endLine) ∧
      (spans.filterMap directive?).Pairwise fun d e => d.endLine ≤ e.startLine := by
  have htiles := tiles_of_scan h
  refine ⟨htiles.sources_eq, fun before d start stop after heq => ?_, fun s => htiles.text_ne_nil,
    fun before s t after => htiles.not_adjacent, fun d start stop hd => (htiles.lines_le hd).2,
    htiles.pairwise_lines⟩
  obtain ⟨hstart, hstop⟩ := htiles.place heq
  rw [Nat.zero_add] at hstart
  -- the page is what comes before the block, the block, and what comes after it
  have hpage : page = sources before ++ (d.text ++ sources after) := by
    rw [← htiles.sources_eq, heq, sources_append, sources_cons, source]
  refine ⟨hstart, hstop, ?_, ?_⟩
  · rw [hpage, hstop, hstart, List.length_append, List.length_append]
    omega
  · rw [hpage, hstop, hstart, List.drop_left, Nat.add_sub_cancel_left, List.take_left]

/-- A page that starts with a closing marker that closes nothing, and ends with two blocks that
meet. -/
theorem scan_tiles_of_stray_and_blocks :
    (scan "m".toList (fun _ => false) none 0
        "a<!--/m--><!--m:b\n-->c<!--/m--><!--m:d--><!--/m-->".toList).result = .ok [
          .text "a<!--/m-->".toList,
          .block ⟨"b".toList, [], [], ["c".toList], 1, 2, "<!--m:b\n-->".toList,
            "<!--/m-->".toList⟩ 10 31,
          .block ⟨"d".toList, [], [], [], 2, 2, "<!--m:d-->".toList, "<!--/m-->".toList⟩ 31 50] ∧
      ("a<!--/m--><!--m:b\n-->c<!--/m--><!--m:d--><!--/m-->".toList.drop 31).take 19 =
        "<!--m:d--><!--/m-->".toList := by
  have hscan : (scan "m".toList (fun _ => false) none 0
      "a<!--/m--><!--m:b\n-->c<!--/m--><!--m:d--><!--/m-->".toList).result = .ok [
        .text "a<!--/m-->".toList,
        .block ⟨"b".toList, [], [], ["c".toList], 1, 2, "<!--m:b\n-->".toList,
          "<!--/m-->".toList⟩ 10 31,
        .block ⟨"d".toList, [], [], [], 2, 2, "<!--m:d-->".toList, "<!--/m-->".toList⟩ 31 50] := by
    decide +kernel
  exact ⟨hscan, ((scan_tiles hscan).2.1 [_, _] _ 31 50 [] rfl).2.2.2⟩

end Span
end BuildBlocks
