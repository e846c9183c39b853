import BuildBlocks.Proofs.Nesting

/-!
# Bodies are scanned as they stand in the page

A scan meets the markers of a page one after another. `Token.ofPage` lists them with their places
and their lines in the file. Scanning the body of a block by itself meets the markers that the scan
of the page met between the two markers of the block: the same markers on the same lines, moved by
the place where the body starts. This holds for blocks in blocks at every depth, since each body is
again a part of the lexemes of the page (`Span.Nested.part`).

The body is balanced, so its own scan succeeds and leaves no closing marker over.
-/

namespace BuildBlocks

/-! ## Markers with their places -/

/-- Whether a lexeme is a marker. -/
def Lexeme.isMarker : Lexeme → Bool
  | .char _ => false
  | .opening _ | .closing _ => true

/-- A marker of a page, where it starts, and the line of the file that it starts on. -/
structure Token where
  position : Nat
  line : Int
  marker : Lexeme
  deriving DecidableEq, Repr

namespace Token

/-- The place right after a marker. -/
def stop (t : Token) : Nat := t.position + t.marker.text.length

/-- A marker of a text that starts at place `n` of a page, as a marker of the page. -/
def moved (n : Nat) (t : Token) : Token := { t with position := n + t.position }

/-- Whether a marker lies between two places of a page. -/
def liesIn (start stop : Nat) (t : Token) : Bool := start ≤ t.position && t.stop ≤ stop

theorem liesIn_iff {start stop : Nat} {t : Token} :
    t.liesIn start stop = true ↔
      start ≤ t.position ∧ t.position + t.marker.text.length ≤ stop := by
  rw [liesIn, Bool.and_eq_true, decide_eq_true_eq, decide_eq_true_eq, Token.stop]

/-- The markers among lexemes that start at `position` and on line `line`. -/
def ofLexemes (position : Nat) (line : Int) : List Lexeme → List Token
  | [] => []
  | l :: ls =>
    let rest := ofLexemes (position + l.text.length) (line + Text.newlines l.text) ls
    if l.isMarker then ⟨position, line, l⟩ :: rest else rest

/-- The markers that a scan meets in a page, in order. `offset` is the number of lines of the file
before the page. -/
def ofPage (word : Text) (offset : Int) (page : Text) : List Token :=
  ofLexemes 0 (offset + 1) (Lexeme.lex word page)

theorem ofLexemes_append (position : Nat) (line : Int) (a b : List Lexeme) :
    ofLexemes position line (a ++ b) = ofLexemes position line a ++
      ofLexemes (position + (Lexeme.texts a).length) (line + Text.newlines (Lexeme.texts a)) b := by
  induction a generalizing position line with
  | nil => simp [ofLexemes, Lexeme.texts, Text.newlines]
  | cons l a ih =>
    have hposition : position + (Lexeme.texts (l :: a)).length =
        position + l.text.length + (Lexeme.texts a).length := by
      rw [Span.texts_cons, List.length_append, Nat.add_assoc]
    rw [List.cons_append, ofLexemes, ofLexemes, ih, hposition, Lexeme.line_texts_cons]
    split <;> rfl

theorem map_moved_ofLexemes (n position : Nat) (line : Int) (ls : List Lexeme) :
    (ofLexemes position line ls).map (moved n) = ofLexemes (n + position) line ls := by
  induction ls generalizing position line with
  | nil => rfl
  | cons l ls ih =>
    simp only [ofLexemes]
    split
    · rw [List.map_cons, ih, Nat.add_assoc]
      rfl
    · rw [ih, Nat.add_assoc]

/-- A marker of a page is one of its lexemes; its place and its line count what stands before it. -/
theorem exists_lexemes_of_mem_ofLexemes {position : Nat} {line : Int} {ls : List Lexeme} {t : Token}
    (h : t ∈ ofLexemes position line ls) :
    ∃ before after, ls = before ++ t.marker :: after ∧
      t.position = position + (Lexeme.texts before).length ∧
        t.line = line + Text.newlines (Lexeme.texts before) := by
  induction ls generalizing position line with
  | nil => simp [ofLexemes] at h
  | cons l ls ih =>
    have hlater (h : t ∈ ofLexemes (position + l.text.length) (line + Text.newlines l.text) ls) :
        ∃ before after, l :: ls = before ++ t.marker :: after ∧
          t.position = position + (Lexeme.texts before).length ∧
            t.line = line + Text.newlines (Lexeme.texts before) := by
      obtain ⟨before, after, rfl, hposition, hline⟩ := ih h
      refine ⟨l :: before, after, rfl, ?_, ?_⟩
      · rw [hposition, Span.texts_cons, List.length_append, Nat.add_assoc]
      · rw [hline, Lexeme.line_texts_cons]
    rw [ofLexemes] at h
    split at h
    · rcases List.mem_cons.1 h with rfl | h
      · exact ⟨[], ls, rfl, by simp [Lexeme.texts], by simp [Lexeme.texts, Text.newlines]⟩
      · exact hlater h
    · exact hlater h

end Token

/-- No lexeme of a page is empty. -/
theorem Lexeme.length_text_pos {word s : Text} {l : Lexeme} (h : l ∈ lex word s) :
    0 < l.text.length := by
  fun_induction lex word s with
  | case1 => simp at h
  | case2 c cs ih =>
    rcases List.mem_cons.1 h with rfl | h
    · obtain ⟨hspell, hlen⟩ := first_append word c cs
      have := congrArg List.length hspell
      rw [List.length_append] at this
      omega
    · exact ih h

namespace Token

/-- The markers that lie between two places of a page where lexemes end are those of the lexemes
between them. -/
theorem filter_liesIn_ofPage {word page : Text} {before body after : List Lexeme}
    (h : Lexeme.lex word page = before ++ body ++ after) (offset : Int) :
    (ofPage word offset page).filter
        (liesIn (Lexeme.texts before).length (Lexeme.texts (before ++ body)).length) =
      ofLexemes (Lexeme.texts before).length (offset + 1 + Text.newlines (Lexeme.texts before))
        body := by
  have hpos {l : Lexeme} (hl : l ∈ before ++ body ++ after) : 0 < l.text.length :=
    Lexeme.length_text_pos (h ▸ hl)
  rw [ofPage, h, ofLexemes_append, ofLexemes_append, List.filter_append, List.filter_append,
    Nat.zero_add, Nat.zero_add]
  -- markers before the body end too early
  have hbefore : (ofLexemes 0 (offset + 1) before).filter
      (liesIn (Lexeme.texts before).length (Lexeme.texts (before ++ body)).length) = [] := by
    refine List.filter_eq_nil_iff.2 fun t ht => ?_
    obtain ⟨l₁, l₂, rfl, hposition, -⟩ := exists_lexemes_of_mem_ofLexemes ht
    have := hpos (l := t.marker) (by simp)
    simp only [liesIn_iff, Span.texts_append, Span.texts_cons, List.length_append] at hposition ⊢
    omega
  -- markers of the body lie between the two places
  have hbody : (ofLexemes (Lexeme.texts before).length
      (offset + 1 + Text.newlines (Lexeme.texts before)) body).filter
        (liesIn (Lexeme.texts before).length (Lexeme.texts (before ++ body)).length) =
      ofLexemes (Lexeme.texts before).length (offset + 1 + Text.newlines (Lexeme.texts before))
        body := by
    refine List.filter_eq_self.2 fun t ht => ?_
    obtain ⟨l₁, l₂, rfl, hposition, -⟩ := exists_lexemes_of_mem_ofLexemes ht
    simp only [liesIn_iff, Span.texts_append, Span.texts_cons, List.length_append]
    omega
  -- markers after the body stop too late
  have hafter : (ofLexemes (Lexeme.texts (before ++ body)).length
      (offset + 1 + Text.newlines (Lexeme.texts (before ++ body))) after).filter
        (liesIn (Lexeme.texts before).length (Lexeme.texts (before ++ body)).length) = [] := by
    refine List.filter_eq_nil_iff.2 fun t ht => ?_
    obtain ⟨l₁, l₂, rfl, hposition, -⟩ := exists_lexemes_of_mem_ofLexemes ht
    have := hpos (l := t.marker) (by simp)
    rw [liesIn_iff]
    omega
  rw [hbefore, hbody, hafter, List.nil_append, List.append_nil]

end Token

/-! ## Blocks in blocks -/

namespace Span

/-- A block of a page at any depth, and the places of the page where its body starts and stops. -/
inductive Nested (word : Text) (gated : Text → Bool) (file : Option Text) (offset : Int)
    (page : Text) : Directive → Nat → Nat → Prop where
  | block {spans : List Span} {d : Directive} {start stop : Nat}
      (h : (scan word gated file offset page).result = .ok spans)
      (hd : Span.block d start stop ∈ spans) :
      Nested word gated file offset page d (start + d.openMarker.length)
        (stop - d.closeMarker.length)
  | inner {outer d : Directive} {start stop left right : Nat} {spans : List Span}
      (houter : Nested word gated file offset page outer left right)
      (h : (scan word gated file outer.bodyOffset outer.body).result = .ok spans)
      (hd : Span.block d start stop ∈ spans) :
      Nested word gated file offset page d (left + (start + d.openMarker.length))
        (left + (stop - d.closeMarker.length))

variable {word : Text} {gated : Text → Bool} {file : Option Text} {offset : Int} {page : Text}

/-- The body of a block that a scan gives is a balanced part of the lexemes of the page. -/
theorem exists_body_of_mem_scan {spans : List Span} {d : Directive} {start stop : Nat}
    (h : (scan word gated file offset page).result = .ok spans)
    (hd : Span.block d start stop ∈ spans) :
    ∃ before body after, Lexeme.lex word page = before ++ body ++ after ∧ Lexeme.Balanced body ∧
      d.body = Lexeme.texts body ∧ d.bodyOffset = offset + Text.newlines (Lexeme.texts before) ∧
        start + d.openMarker.length = (Lexeme.texts before).length ∧
          stop - d.closeMarker.length = (Lexeme.texts (before ++ body)).length := by
  obtain ⟨before, o, body, t, after, hlex, -, hbal, rfl, rfl, rfl⟩ :=
    exists_lexemes_of_mem_ofPieces h hd
  refine ⟨before ++ [.opening o], body, .closing t :: after, ?_, hbal,
    Directive.body_ofParts _ _ _ _ _, ?_, ?_, ?_⟩
  · rw [hlex]
    simp
  · simp only [Directive.bodyOffset, Directive.ofParts, texts_append, texts_cons, texts_nil,
      Text.newlines_append, List.append_nil, Lexeme.text, Int.natCast_add]
    omega
  · simp only [Directive.ofParts, texts_append, texts_cons, texts_nil, List.append_nil, Lexeme.text,
      List.length_append]
    omega
  · simp only [Directive.text_ofParts, texts_append, texts_cons, texts_nil, List.append_nil,
      Lexeme.text, List.length_append]
    simp only [Directive.ofParts]
    omega

/-- **The body of a block at any depth is a balanced part of the lexemes of the page.** Induction on
the depth: the lexemes of a body are those of the page between its markers. -/
theorem Nested.exists_body {d : Directive} {left right : Nat}
    (h : Nested word gated file offset page d left right) :
    ∃ before body after, Lexeme.lex word page = before ++ body ++ after ∧ Lexeme.Balanced body ∧
      d.body = Lexeme.texts body ∧ d.bodyOffset = offset + Text.newlines (Lexeme.texts before) ∧
        left = (Lexeme.texts before).length ∧ right = (Lexeme.texts (before ++ body)).length := by
  induction h with
  | block h hd => exact exists_body_of_mem_scan h hd
  | inner houter h hd ih =>
    obtain ⟨before, body, after, hlex, -, hbody, hoffset, rfl, rfl⟩ := ih
    obtain ⟨before', body', after', hlex', hbal, hbody', hoffset', hstart, hstop⟩ :=
      exists_body_of_mem_scan h hd
    rw [hbody, Lexeme.lex_texts_of_lex_eq hlex] at hlex'
    refine ⟨before ++ before', body', after' ++ after, ?_, hbal, hbody', ?_, ?_, ?_⟩
    · rw [hlex, hlex']
      simp only [List.append_assoc]
    · rw [hoffset', hoffset, texts_append, Text.newlines_append, Int.natCast_add, Int.add_assoc]
    · rw [hstart, texts_append, List.length_append]
    · rw [hstop, List.append_assoc, texts_append before, List.length_append]

/-- The markers of the body of a block are those of the page between the markers of the block. -/
theorem Nested.map_moved_ofPage {d : Directive} {left right : Nat}
    (h : Nested word gated file offset page d left right) :
    (Token.ofPage word d.bodyOffset d.body).map (Token.moved left) =
      (Token.ofPage word offset page).filter (Token.liesIn left right) := by
  obtain ⟨before, body, after, hlex, -, hbody, hoffset, rfl, rfl⟩ := h.exists_body
  have hline : d.bodyOffset + 1 = offset + 1 + Text.newlines (Lexeme.texts before) := by
    rw [hoffset]
    omega
  rw [Token.filter_liesIn_ofPage hlex, Token.ofPage, hbody, Lexeme.lex_texts_of_lex_eq hlex,
    Token.map_moved_ofLexemes, Nat.add_zero, hline]

/-- The body of a block has spans, and no closing marker is left over in it. -/
theorem Nested.exists_spans {d : Directive} {left right : Nat}
    (h : Nested word gated file offset page d left right) :
    (∃ spans, (scan word gated file d.bodyOffset d.body).result = .ok spans) ∧
      ∀ t, Piece.stray t ∉ Piece.ofLexemes (Lexeme.lex word d.body) := by
  obtain ⟨before, body, after, hlex, hbal, hbody, -⟩ := h.exists_body
  rw [scan, hbody, Lexeme.lex_texts_of_lex_eq hlex]
  exact ⟨result_ofPieces_of_balanced hbal _ _ _, stray_notMem_of_balanced hbal⟩

/-- **Bodies are local.** Scanning the body of a block meets exactly the markers that the scan of
the page met between the markers of the block, on the same lines of the file. The scan of a body
does not fail and leaves no closing marker over, at any depth. -/
theorem scan_body_local {spans : List Span} {d : Directive} {start stop : Nat}
    (h : (scan word gated file offset page).result = .ok spans)
    (hd : Span.block d start stop ∈ spans) :
    (Token.ofPage word d.bodyOffset d.body).map (Token.moved (start + d.openMarker.length)) =
        (Token.ofPage word offset page).filter
          (Token.liesIn (start + d.openMarker.length) (stop - d.closeMarker.length)) ∧
      ∀ e left right, Nested word gated file offset page e left right →
        (Token.ofPage word e.bodyOffset e.body).map (Token.moved left) =
            (Token.ofPage word offset page).filter (Token.liesIn left right) ∧
          (∃ inner, (scan word gated file e.bodyOffset e.body).result = .ok inner) ∧
            ∀ t, Piece.stray t ∉ Piece.ofLexemes (Lexeme.lex word e.body) :=
  ⟨(Nested.block h hd).map_moved_ofPage,
    fun _ _ _ hnested => ⟨hnested.map_moved_ofPage, hnested.exists_spans⟩⟩

/-- A block in a block: the two inner markers stand on the second line of the file, and the scan of
the outer body meets them there. -/
theorem scan_body_local_of_block_in_block :
    (scan "m".toList (fun _ => false) none 0
        "<!--m:a\n--><!--m:b-->x<!--/m--><!--/m-->".toList).result = .ok [.block
          ⟨"a".toList, [], [], ["<!--m:b-->x<!--/m-->".toList], 1, 2, "<!--m:a\n-->".toList,
            "<!--/m-->".toList⟩ 0 40] ∧
      (Token.ofPage "m".toList 1 "<!--m:b-->x<!--/m-->".toList).map (Token.moved 11) =
          (Token.ofPage "m".toList 0 "<!--m:a\n--><!--m:b-->x<!--/m--><!--/m-->".toList).filter
            (Token.liesIn 11 31) ∧
        (Token.ofPage "m".toList 1 "<!--m:b-->x<!--/m-->".toList).map Token.line = [2, 2] := by
  have hscan : (scan "m".toList (fun _ => false) none 0
      "<!--m:a\n--><!--m:b-->x<!--/m--><!--/m-->".toList).result = .ok [.block
        ⟨"a".toList, [], [], ["<!--m:b-->x<!--/m-->".toList], 1, 2, "<!--m:a\n-->".toList,
          "<!--/m-->".toList⟩ 0 40] := by
    decide +kernel
  refine ⟨hscan, ?_, ?_⟩
  · exact (scan_body_local hscan List.mem_cons_self).1
  · decide +kernel

end Span
end BuildBlocks
