import BuildBlocks.Block.Directive
import BuildBlocks.Outcome

/-!
# Spans

A page is cut into blocks and the text between them. Markers pair like brackets: a closing marker
belongs to the nearest opening marker before it that has none, blocks inside a block stay in its
body, and a closing marker without an opening one is text. A page with an opening marker that is
never closed has no spans.

Cutting goes in two steps. `Piece.ofLexemes` pairs the markers, and `Span.ofPieces` gathers the text
between blocks and counts lines and positions.

The body of a block is shorter than the page it was cut from (`length_body_lt`), which is why
working through bodies ends.
-/

namespace BuildBlocks

/-! ## Pairing markers -/

/-- A page after its outermost markers are paired: characters, closing markers without an opening
one, blocks, and an opening marker that is never closed. -/
inductive Piece where
  | char (c : Char)
  | stray (closing : Text)
  | block (o : Opening) (body : List Lexeme) (closing : Text)
  | unclosed (o : Opening)
  deriving DecidableEq, Repr

namespace Piece

/-- The lexemes up to the closing marker that leaves `depth` blocks open no more, that marker, and
what follows it. -/
def matching (depth : Nat) : List Lexeme → Option (List Lexeme × Text × List Lexeme)
  | [] => none
  | .closing t :: rest =>
    match depth with
    | 0 => some ([], t, rest)
    | depth + 1 => (matching depth rest).map fun (body, r) => (.closing t :: body, r)
  | .opening o :: rest => (matching (depth + 1) rest).map fun (body, r) => (.opening o :: body, r)
  | .char c :: rest => (matching depth rest).map fun (body, r) => (.char c :: body, r)

/-- The lexemes are the body, the closing marker and what follows it. -/
theorem eq_of_matching {depth : Nat} {ls body rest : List Lexeme} {t : Text}
    (h : matching depth ls = some (body, t, rest)) : ls = body ++ .closing t :: rest := by
  induction ls generalizing depth body with
  | nil => simp [matching] at h
  | cons l ls ih =>
    cases l with
    | closing u =>
      cases depth with
      | zero =>
        simp only [matching, Option.some.injEq, Prod.mk.injEq] at h
        obtain ⟨rfl, rfl, rfl⟩ := h
        rfl
      | succ depth =>
        simp only [matching, Option.map_eq_some_iff, Prod.mk.injEq] at h
        obtain ⟨⟨b, r⟩, hm, rfl, rfl⟩ := h
        rw [ih hm, List.cons_append]
    | opening o =>
      simp only [matching, Option.map_eq_some_iff, Prod.mk.injEq] at h
      obtain ⟨⟨b, r⟩, hm, rfl, rfl⟩ := h
      rw [ih hm, List.cons_append]
    | char c =>
      simp only [matching, Option.map_eq_some_iff, Prod.mk.injEq] at h
      obtain ⟨⟨b, r⟩, hm, rfl, rfl⟩ := h
      rw [ih hm, List.cons_append]

-- The equation `h` is used by `decreasing_by` only.
set_option linter.unusedVariables false in
/-- The pieces of a page. Nothing follows an opening marker that is never closed. -/
def ofLexemes (ls : List Lexeme) : List Piece :=
  match ls with
  | [] => []
  | .char c :: rest => .char c :: ofLexemes rest
  | .closing t :: rest => .stray t :: ofLexemes rest
  | .opening o :: rest =>
    match h : matching 0 rest with
    | none => [.unclosed o]
    | some (body, t, after) => .block o body t :: ofLexemes after
termination_by ls.length
decreasing_by
  · simp
  · simp
  · have := eq_of_matching h
    simp only [this, List.length_cons, List.length_append]
    omega

end Piece

/-! ## Spans -/

/-- A stretch of text between blocks, or a block with the positions of its start and its end. -/
inductive Span where
  | text (s : Text)
  | block (d : Directive) (start stop : Nat)
  deriving DecidableEq, Repr

namespace Span

/-- The block of a span. -/
def directive? : Span → Option Directive
  | .text _ => none
  | .block d _ _ => some d

/-- A span as it is written. -/
def source : Span → Text
  | .text s => s
  | .block d _ _ => d.text

/-- Spans with the text before them, which was gathered last character first. -/
def withText (gathered : Text) (spans : List Span) : List Span :=
  if gathered.isEmpty then spans else .text gathered.reverse :: spans

/-- The spans of pieces that start at `position` and on line `line`. `gathered` is the text since
the last block, last character first; `gated` tells which block types read their parameter as a
target list. -/
def ofPieces (gated : Text → Bool) (file : Option Text) (position : Nat) (line : Int)
    (gathered : Text) : List Piece → Outcome (List Span)
  | [] => pure (withText gathered [])
  | .char c :: rest =>
    ofPieces gated file (position + 1) (line + Text.newlines [c]) (c :: gathered) rest
  | .stray t :: rest => do
    Outcome.note 3 s!"Stray end marker at line {line}"
    ofPieces gated file (position + t.length) (line + Text.newlines t) (t.reverse ++ gathered) rest
  | .block o body t :: rest => do
    let inner := Lexeme.texts body
    let d := Directive.ofParts (gated o.kind) line o inner t
    let stop := position + o.text.length + inner.length + t.length
    Outcome.note 3 s!"Directive '{d.kind}' lines {d.startLine}-{d.endLine}"
    let spans ← ofPieces gated file stop (d.endLine + Text.newlines t) [] rest
    pure (withText gathered (.block d position stop :: spans))
  | .unclosed o :: _ =>
    Outcome.fail (.fault (.unterminated o.kind ⟨file, some line, some o.text⟩))

/-- The spans of a page. `word` is the marker word, and `offset` the number of lines of the file
before the page. -/
def scan (word : Text) (gated : Text → Bool) (file : Option Text) (offset : Int) (page : Text) :
    Outcome (List Span) :=
  ofPieces gated file 0 (offset + 1) [] (Piece.ofLexemes (Lexeme.lex word page))

/-! ## Bodies are shorter than the page -/

theorem mem_withText {gathered : Text} {spans : List Span} {d : Directive} {a b : Nat} :
    Span.block d a b ∈ withText gathered spans ↔ Span.block d a b ∈ spans := by
  unfold withText
  split <;> simp

/-- Every block of a page is one of its pieces. -/
theorem mem_pieces_of_mem_ofPieces {gated : Text → Bool} {file : Option Text} {ps : List Piece}
    {position : Nat} {line : Int} {gathered : Text} {spans : List Span}
    (h : (ofPieces gated file position line gathered ps).result = .ok spans)
    {d : Directive} {a b : Nat} (hd : Span.block d a b ∈ spans) :
    ∃ o body t, Piece.block o body t ∈ ps ∧ d.body = Lexeme.texts body := by
  induction ps generalizing position line gathered spans with
  | nil =>
    simp only [ofPieces, Outcome.result_pure, Except.ok.injEq] at h
    subst h
    simp [mem_withText] at hd
  | cons p ps ih =>
    cases p with
    | char c =>
      obtain ⟨o, body, t, hm, hb⟩ := ih h hd
      exact ⟨o, body, t, List.mem_cons_of_mem _ hm, hb⟩
    | stray t =>
      simp only [ofPieces, Outcome.result_bind, Outcome.result_note] at h
      obtain ⟨o, body, t, hm, hb⟩ := ih h hd
      exact ⟨o, body, t, List.mem_cons_of_mem _ hm, hb⟩
    | unclosed o => simp [ofPieces] at h
    | block o body t =>
      simp only [ofPieces, Outcome.result_bind, Outcome.result_note, Except.bind] at h
      split at h
      · cases h
      · next tail htail =>
        simp only [Outcome.result_pure, Except.ok.injEq] at h
        subst h
        rw [mem_withText, List.mem_cons] at hd
        rcases hd with hd | hd
        · simp only [Span.block.injEq] at hd
          exact ⟨o, body, t, List.mem_cons_self, by simp [hd.1]⟩
        · obtain ⟨o', body', t', hm, hb⟩ := ih htail hd
          exact ⟨o', body', t', List.mem_cons_of_mem _ hm, hb⟩

theorem texts_append (a b : List Lexeme) :
    Lexeme.texts (a ++ b) = Lexeme.texts a ++ Lexeme.texts b := by
  simp [Lexeme.texts]

theorem texts_cons (l : Lexeme) (ls : List Lexeme) :
    Lexeme.texts (l :: ls) = l.text ++ Lexeme.texts ls := by
  simp [Lexeme.texts]

/-- The body of a block among the pieces is no longer than what the pieces were made from, less its
opening marker. -/
theorem length_body_of_mem_ofLexemes {ls : List Lexeme} {o : Opening} {body : List Lexeme} {t : Text}
    (h : Piece.block o body t ∈ Piece.ofLexemes ls) :
    Lexeme.opening o ∈ ls ∧
      o.text.length + (Lexeme.texts body).length ≤ (Lexeme.texts ls).length := by
  fun_induction Piece.ofLexemes ls with
  | case1 => simp at h
  | case2 c rest ih =>
    simp only [List.mem_cons, reduceCtorEq, false_or] at h
    have := ih h
    simp only [texts_cons, List.length_append, List.mem_cons, reduceCtorEq, false_or]
    exact ⟨this.1, by omega⟩
  | case3 u rest ih =>
    simp only [List.mem_cons, reduceCtorEq, false_or] at h
    have := ih h
    simp only [texts_cons, List.length_append, List.mem_cons, reduceCtorEq, false_or]
    exact ⟨this.1, by omega⟩
  | case4 o' rest hm => simp at h
  | case5 o' rest body' t' after hm ih =>
    have heq := Piece.eq_of_matching hm
    simp only [List.mem_cons, Piece.block.injEq] at h
    subst heq
    simp only [texts_cons, texts_append, List.length_append, Lexeme.text]
    rcases h with ⟨rfl, rfl, rfl⟩ | h
    · exact ⟨List.mem_cons_self, by omega⟩
    · have := ih h
      refine ⟨?_, by omega⟩
      exact List.mem_cons_of_mem _ (List.mem_append_right _ (List.mem_cons_of_mem _ this.1))

/-- An opening marker is not empty. -/
theorem length_opening_pos {word s : Text} {o : Opening}
    (h : Lexeme.opening o ∈ Lexeme.lex word s) : 0 < o.text.length := by
  fun_induction Lexeme.lex word s with
  | case1 => simp at h
  | case2 c cs ih =>
    rcases List.mem_cons.1 h with h | h
    · have hf := Lexeme.first_append word c cs
      rw [← h] at hf
      have h₁ := congrArg List.length hf.1
      rw [List.length_append] at h₁
      have h₂ := hf.2
      simp only [Lexeme.text] at h₁
      omega
    · exact ih h

/-- The body of a block is shorter than the page it was cut from. -/
theorem length_body_lt {word : Text} {gated : Text → Bool} {file : Option Text} {offset : Int}
    {page : Text} {spans : List Span}
    (h : (scan word gated file offset page).result = .ok spans)
    {d : Directive} {a b : Nat} (hd : Span.block d a b ∈ spans) : d.body.length < page.length := by
  obtain ⟨o, body, t, hm, hb⟩ := mem_pieces_of_mem_ofPieces h hd
  have hlen := length_body_of_mem_ofLexemes hm
  have hpos := length_opening_pos hlen.1
  rw [Lexeme.texts_lex] at hlen
  rw [hb]
  omega

end Span
end BuildBlocks
