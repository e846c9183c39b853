import BuildBlocks.Proofs.LexemeLocality
import BuildBlocks.Proofs.ListsAndResults

/-!
# Nesting of markers

The lexemes between the two markers of a block are balanced: every opening marker among them is
closed among them, and no closing marker is left over. So the body of a block, cut out of its page
and scanned by itself, pairs its markers as they were paired in the page.

## The architecture

* **`depthAfter`** counts open blocks along lexemes, and **`Balanced`** gives balanced lexemes by
  their structure; `balanced_of_depthAfter` leads from the count to the structure.
* **`matching_eq_some_iff`**: the search for a closing marker finds the end of a balanced part.
* **`exists_lexemes_of_mem_ofPieces`**: every block of a scan is an opening marker, a balanced body
  and a closing marker among the lexemes of the page, on the line where the opening marker stands.
* **`result_ofPieces_of_balanced`**: balanced lexemes have spans, and none of their pieces is a
  stray closing marker.
-/

namespace BuildBlocks

/-! ## Lines of lexemes -/

theorem Text.newlines_append (a b : Text) :
    Text.newlines (a ++ b) = Text.newlines a + Text.newlines b :=
  List.count_append

/-- The line after some lexemes is reached lexeme by lexeme. -/
theorem Lexeme.line_texts_cons (line : Int) (l : Lexeme) (ls : List Lexeme) :
    line + Text.newlines (texts (l :: ls)) =
      line + Text.newlines l.text + Text.newlines (texts ls) := by
  rw [Span.texts_cons, Text.newlines_append, Int.natCast_add, Int.add_assoc]

/-- The place after some lexemes is reached lexeme by lexeme. -/
theorem Lexeme.place_texts_cons (position : Nat) (l : Lexeme) (ls : List Lexeme) :
    position + (texts (l :: ls)).length = position + l.text.length + (texts ls).length := by
  rw [Span.texts_cons, List.length_append, Nat.add_assoc]

namespace Lexeme

/-! ## Balanced lexemes -/

/-- The number of open blocks after some lexemes, when `n` are open before them. There is none if a
closing marker has no block to close. -/
def depthAfter : Nat → List Lexeme → Option Nat
  | n, [] => some n
  | n, .char _ :: ls => depthAfter n ls
  | n, .opening _ :: ls => depthAfter (n + 1) ls
  | 0, .closing _ :: _ => none
  | n + 1, .closing _ :: ls => depthAfter n ls

/-- Lexemes in which every marker has its partner. -/
inductive Balanced : List Lexeme → Prop where
  | nil : Balanced []
  | char (c : Char) {ls : List Lexeme} (h : Balanced ls) : Balanced (.char c :: ls)
  | block (o : Opening) (t : Text) {body after : List Lexeme} (hbody : Balanced body)
      (hafter : Balanced after) : Balanced (.opening o :: body ++ .closing t :: after)

/-- Lexemes in which every opening marker has its closing marker. Closing markers without an opening
one may stand between blocks. -/
inductive Closed : List Lexeme → Prop where
  | nil : Closed []
  | char (c : Char) {ls : List Lexeme} (h : Closed ls) : Closed (.char c :: ls)
  | stray (t : Text) {ls : List Lexeme} (h : Closed ls) : Closed (.closing t :: ls)
  | block (o : Opening) (t : Text) {body after : List Lexeme} (hbody : Balanced body)
      (hafter : Closed after) : Closed (.opening o :: body ++ .closing t :: after)

/-- The lexemes up to the closing marker of a block, and that marker. -/
theorem matching_eq_some_iff {n : Nat} {ls body rest : List Lexeme} {t : Text} :
    Piece.matching n ls = some (body, t, rest) ↔
      ls = body ++ .closing t :: rest ∧ depthAfter n body = some 0 := by
  constructor
  · intro h
    refine ⟨Piece.eq_of_matching h, ?_⟩
    -- the depth of the search is the number of blocks that are open
    induction ls generalizing n body with
    | nil => simp [Piece.matching] at h
    | cons l ls ih =>
      cases l with
      | char c =>
        simp only [Piece.matching, Option.map_eq_some_iff, Prod.mk.injEq, Prod.exists] at h
        obtain ⟨b, u, r, hm, rfl, rfl, rfl⟩ := h
        simpa only [depthAfter] using ih hm
      | opening o =>
        simp only [Piece.matching, Option.map_eq_some_iff, Prod.mk.injEq, Prod.exists] at h
        obtain ⟨b, u, r, hm, rfl, rfl, rfl⟩ := h
        simpa only [depthAfter] using ih hm
      | closing u =>
        cases n with
        | zero =>
          simp only [Piece.matching, Option.some.injEq, Prod.mk.injEq] at h
          obtain ⟨rfl, -, -⟩ := h
          rfl
        | succ n =>
          simp only [Piece.matching, Option.map_eq_some_iff, Prod.mk.injEq, Prod.exists] at h
          obtain ⟨b, u, r, hm, rfl, rfl, rfl⟩ := h
          simpa only [depthAfter] using ih hm
  · rintro ⟨rfl, h⟩
    induction body generalizing n with
    | nil =>
      simp only [depthAfter, Option.some.injEq] at h
      subst h
      rfl
    | cons l body ih =>
      cases l with
      | char c => simp [Piece.matching, ih h]
      | opening o => simp [Piece.matching, ih h]
      | closing u =>
        cases n with
        | zero => simp [depthAfter] at h
        | succ n => simp [Piece.matching, ih h]

/-- Where all blocks are closed in the end, the innermost one is closed somewhere. -/
theorem exists_matching_of_depthAfter {n : Nat} {ls : List Lexeme}
    (h : depthAfter (n + 1) ls = some 0) :
    ∃ body t rest, Piece.matching n ls = some (body, t, rest) ∧ depthAfter 0 rest = some 0 := by
  induction ls generalizing n with
  | nil => simp [depthAfter] at h
  | cons l ls ih =>
    cases l with
    | char c =>
      obtain ⟨body, t, rest, hm, hrest⟩ := ih h
      exact ⟨.char c :: body, t, rest, by simp [Piece.matching, hm], hrest⟩
    | opening o =>
      obtain ⟨body, t, rest, hm, hrest⟩ := ih h
      exact ⟨.opening o :: body, t, rest, by simp [Piece.matching, hm], hrest⟩
    | closing u =>
      cases n with
      | zero => exact ⟨[], u, ls, rfl, h⟩
      | succ n =>
        obtain ⟨body, t, rest, hm, hrest⟩ := ih h
        exact ⟨.closing u :: body, t, rest, by simp [Piece.matching, hm], hrest⟩

/-- Lexemes that open no block and close none in the end are balanced. Induction on their number. -/
theorem balanced_of_depthAfter : ∀ {ls : List Lexeme}, depthAfter 0 ls = some 0 → Balanced ls
  | [], _ => .nil
  | .char c :: _, h => .char c (balanced_of_depthAfter h)
  | .closing _ :: _, h => by simp [depthAfter] at h
  | .opening o :: ls, h => by
    obtain ⟨body, t, rest, hm, hrest⟩ := exists_matching_of_depthAfter h
    obtain ⟨heq, hbody⟩ := matching_eq_some_iff.1 hm
    have hlen := congrArg List.length heq
    rw [List.length_append, List.length_cons] at hlen
    rw [heq]
    exact .block o t (balanced_of_depthAfter hbody) (balanced_of_depthAfter hrest)
termination_by ls => ls.length
decreasing_by
  · exact Nat.lt_succ_self _
  all_goals
    simp only [List.length_cons, List.length_append] at hlen ⊢
    omega

/-- The body that the search for a closing marker finds is balanced. -/
theorem balanced_of_matching {ls body rest : List Lexeme} {t : Text}
    (h : Piece.matching 0 ls = some (body, t, rest)) : Balanced body :=
  balanced_of_depthAfter (matching_eq_some_iff.1 h).2

/-- A balanced body is passed over without a change of the count. -/
theorem Balanced.depthAfter_append {ls : List Lexeme} (h : Balanced ls) (n : Nat)
    (rest : List Lexeme) : depthAfter n (ls ++ rest) = depthAfter n rest := by
  induction h generalizing n rest with
  | nil => rfl
  | char c _ ih => exact ih n rest
  | block o t _ _ ihbody ihafter =>
    -- one block more is open in the body, and the closing marker takes it away
    rw [List.append_assoc, List.cons_append]
    show depthAfter (n + 1) (_ ++ .closing t :: (_ ++ rest)) = _
    rw [ihbody]
    exact ihafter n rest

/-- The closing marker of a balanced body is the one that follows it. -/
theorem Balanced.matching_append {body : List Lexeme} (h : Balanced body) (t : Text)
    (rest : List Lexeme) :
    Piece.matching 0 (body ++ .closing t :: rest) = some (body, t, rest) := by
  refine matching_eq_some_iff.2 ⟨rfl, ?_⟩
  simpa [depthAfter] using h.depthAfter_append 0 []

/-! ## Markers of a page -/

/-- What a page is read as from a lexeme on. -/
theorem lex_drop_of_lex_eq {word s : Text} {before ls : List Lexeme}
    (h : lex word s = before ++ ls) :
    s.drop (texts before).length = texts ls ∧ s.take (texts before).length = texts before := by
  have hs : s = texts before ++ texts ls := by
    rw [← Span.texts_append, ← h, texts_lex]
  rw [hs]
  exact ⟨List.drop_left, List.take_left⟩

/-- An opening marker among the lexemes of a page stands in the page, after the text of the lexemes
before it. -/
theorem opening?_of_lex_eq {word s : Text} {before after : List Lexeme} {o : Opening}
    (h : lex word s = before ++ .opening o :: after) :
    Marker.opening? word (s.drop (texts before).length) = some (o, texts after) := by
  rw [(lex_drop_of_lex_eq h).1]
  have hlex := lex_texts_of_append_eq_lex h
  cases hs : texts (.opening o :: after) with
  | nil =>
    rw [hs] at hlex
    simp [lex] at hlex
  | cons c cs =>
    rw [hs, lex, List.cons.injEq] at hlex
    obtain ⟨hfirst, hrest⟩ := hlex
    unfold first at hfirst hrest
    split at hfirst
    · next o' r ho =>
      rw [ho] at hrest
      cases hfirst
      rw [ho, ← texts_lex word r, hrest]
    · split at hfirst <;> cases hfirst

end Lexeme

/-! ## Blocks of a scan -/

namespace Piece

theorem ofLexemes_of_matching {o : Opening} {rest body after : List Lexeme} {t : Text}
    (h : matching 0 rest = some (body, t, after)) :
    ofLexemes (.opening o :: rest) = .block o body t :: ofLexemes after := by
  rw [ofLexemes]
  split
  · next hnone => simp [h] at hnone
  · next hsome =>
    rw [h] at hsome
    cases hsome
    rfl

end Piece

namespace Span

theorem texts_nil : Lexeme.texts [] = [] := rfl

/-- The lexemes of a block are written as the block is. -/
theorem texts_block (gated : Bool) (line : Int) (o : Opening) (t : Text) (body after : List Lexeme) :
    Lexeme.texts (.opening o :: body ++ .closing t :: after) =
      (Directive.ofParts gated line o (Lexeme.texts body) t).text ++ Lexeme.texts after := by
  rw [Directive.text_ofParts, List.cons_append, texts_cons, texts_append, texts_cons]
  simp only [Lexeme.text, List.append_assoc]

variable {gated : Text → Bool} {file : Option Text}

/-- A closing marker that closes nothing is gathered with the text around it. -/
theorem result_ofPieces_stray (position : Nat) (line : Int) (gathered t : Text) (ps : List Piece) :
    (ofPieces gated file position line gathered (.stray t :: ps)).result =
      (ofPieces gated file (position + t.length) (line + Text.newlines t) (t.reverse ++ gathered)
        ps).result := by
  simp only [ofPieces, Outcome.result_bind, Outcome.result_note]
  rfl

/-- What a block adds to the spans of the pieces after it. -/
theorem result_ofPieces_block (position : Nat) (line : Int) (gathered : Text) (o : Opening)
    (body : List Lexeme) (t : Text) (rest : List Piece) :
    (ofPieces gated file position line gathered (.block o body t :: rest)).result =
      let d := Directive.ofParts (gated o.kind) line o (Lexeme.texts body) t
      (ofPieces gated file (position + d.text.length) (line + Text.newlines d.text) [] rest).result.map
        fun spans => withText gathered (.block d position (position + d.text.length) :: spans) := by
  have hlen : position + o.text.length + (Lexeme.texts body).length + t.length =
      position + (o.text ++ Lexeme.texts body ++ t).length := by
    simp only [List.length_append]
    omega
  have hline : (Directive.ofParts (gated o.kind) line o (Lexeme.texts body) t).endLine +
      Text.newlines t = line + Text.newlines (o.text ++ Lexeme.texts body ++ t) := by
    simp only [Directive.ofParts, Text.newlines_append]
    omega
  simp only [ofPieces, Outcome.result_bind, Outcome.result_note, Directive.text_ofParts, hlen, hline]
  rfl

/-- Whether a block stands among lexemes: it is an opening marker, a balanced body and a closing
marker, and no block is open before it. Its lines and positions count what stands before it. -/
def StandsIn (gated : Text → Bool) (ls : List Lexeme) (position : Nat) (line : Int) (d : Directive)
    (start stop : Nat) : Prop :=
  ∃ before o body t after,
    ls = before ++ (.opening o :: body ++ .closing t :: after) ∧ Lexeme.Closed before ∧
      Lexeme.Balanced body ∧
      d = Directive.ofParts (gated o.kind) (line + Text.newlines (Lexeme.texts before)) o
        (Lexeme.texts body) t ∧
      start = position + (Lexeme.texts before).length ∧
      stop = start + d.text.length

/-- A block stands among lexemes if it does so behind some of them that leave no block open. -/
theorem StandsIn.behind (passed : List Lexeme) {ls : List Lexeme} {position : Nat} {line : Int}
    {d : Directive} {start stop : Nat}
    (hpassed : ∀ before, Lexeme.Closed before → Lexeme.Closed (passed ++ before))
    (h : StandsIn gated ls (position + (Lexeme.texts passed).length)
      (line + Text.newlines (Lexeme.texts passed)) d start stop) :
    StandsIn gated (passed ++ ls) position line d start stop := by
  obtain ⟨before, o, body, t, after, rfl, hbefore, hbody, rfl, rfl, rfl⟩ := h
  refine ⟨passed ++ before, o, body, t, after, ?_, hpassed before hbefore, hbody, ?_, ?_, rfl⟩
  · rw [List.append_assoc]
  · rw [texts_append, Text.newlines_append, Int.natCast_add, Int.add_assoc]
  · rw [texts_append, List.length_append, Nat.add_assoc]

/-- The block at the front. -/
theorem standsIn_front {o : Opening} {body : List Lexeme} (hbody : Lexeme.Balanced body) (t : Text)
    (after : List Lexeme) (position : Nat) (line : Int) :
    let d := Directive.ofParts (gated o.kind) line o (Lexeme.texts body) t
    StandsIn gated (.opening o :: body ++ .closing t :: after) position line d position
      (position + d.text.length) := by
  refine ⟨[], o, body, t, after, rfl, .nil, hbody, ?_, rfl, rfl⟩
  rw [texts_nil]
  exact congrArg (Directive.ofParts _ · _ _ _) (Int.add_zero line).symm

/-- **Every block of a scan is a part of the lexemes.** -/
theorem exists_lexemes_of_mem_ofPieces {ls : List Lexeme} {position : Nat} {line : Int}
    {gathered : Text} {spans : List Span}
    (h : (ofPieces gated file position line gathered (Piece.ofLexemes ls)).result = .ok spans)
    {d : Directive} {start stop : Nat} (hd : Span.block d start stop ∈ spans) :
    StandsIn gated ls position line d start stop := by
  -- on the pieces: the block is the piece at the front, or one behind it
  fun_induction Piece.ofLexemes ls generalizing position line gathered spans with
  | case1 =>
    simp only [ofPieces, Outcome.result_pure, Except.ok.injEq] at h
    subst h
    simp [mem_withText] at hd
  | case2 c rest ih => exact .behind [.char c] (fun _ => .char c) (ih h hd)
  | case3 u rest ih =>
    rw [result_ofPieces_stray] at h
    refine .behind [.closing u] (fun _ => .stray u) ?_
    rw [texts_cons, texts_nil, List.append_nil]
    exact ih h hd
  | case4 o rest hm => simp [ofPieces] at h
  | case5 o rest body t after hm ih =>
    have hbody := Lexeme.balanced_of_matching hm
    rw [result_ofPieces_block] at h
    obtain ⟨tail, htail, rfl⟩ := exists_of_map_eq_ok h
    rw [mem_withText, List.mem_cons] at hd
    rw [Piece.eq_of_matching hm]
    rcases hd with hd | hd
    · cases hd
      exact standsIn_front hbody t after _ _
    · have hpassed : .opening o :: (body ++ .closing t :: after) =
          (.opening o :: body ++ [.closing t]) ++ after := by simp
      rw [hpassed]
      refine .behind _ (fun before hbefore => ?_) ?_
      · simpa using Lexeme.Closed.block o t hbody hbefore
      · rw [texts_block (gated o.kind) line, texts_nil, List.append_nil]
        exact ih htail hd

/-- Balanced lexemes have spans. -/
theorem result_ofPieces_of_balanced {ls : List Lexeme} (h : Lexeme.Balanced ls) (position : Nat)
    (line : Int) (gathered : Text) :
    ∃ spans,
      (ofPieces gated file position line gathered (Piece.ofLexemes ls)).result = .ok spans := by
  induction h generalizing position line gathered with
  | nil => exact ⟨_, by rw [Piece.ofLexemes, ofPieces, Outcome.result_pure]⟩
  | char c _ ih =>
    obtain ⟨spans, hspans⟩ := ih (position + 1) (line + Text.newlines [c]) (c :: gathered)
    exact ⟨spans, by rw [Piece.ofLexemes, ofPieces, hspans]⟩
  | block o t hbody hafter ihbody ihafter =>
    rw [List.cons_append, Piece.ofLexemes_of_matching (hbody.matching_append t _),
      result_ofPieces_block]
    dsimp only
    obtain ⟨spans, hspans⟩ := ihafter _ _ _
    rw [hspans]
    exact ⟨_, rfl⟩

/-- Among the pieces of balanced lexemes no closing marker is left over. -/
theorem stray_notMem_of_balanced {ls : List Lexeme} (h : Lexeme.Balanced ls) (t : Text) :
    Piece.stray t ∉ Piece.ofLexemes ls := by
  induction h with
  | nil => simp [Piece.ofLexemes]
  | char c _ ih => simpa [Piece.ofLexemes] using ih
  | block o u hbody hafter ihbody ihafter =>
    rw [List.cons_append, Piece.ofLexemes_of_matching (hbody.matching_append u _)]
    simpa using ihafter

/-- What ends a scan is an opening marker of the page that is never closed. -/
theorem exists_lexemes_of_ofPieces_eq_error {ls : List Lexeme} {position : Nat} {line : Int}
    {gathered : Text} {e : Failure}
    (h : (ofPieces gated file position line gathered (Piece.ofLexemes ls)).result = .error e) :
    ∃ before o after, ls = before ++ .opening o :: after ∧
      e = .fault (.unterminated o.kind
        ⟨file, some (line + Text.newlines (Lexeme.texts before)), some o.text⟩) := by
  fun_induction Piece.ofLexemes ls generalizing position line gathered with
  | case1 => cases h
  | case2 c rest ih =>
    obtain ⟨before, o, after, rfl, rfl⟩ := ih h
    refine ⟨.char c :: before, o, after, rfl, ?_⟩
    rw [Lexeme.line_texts_cons]
    rfl
  | case3 u rest ih =>
    rw [result_ofPieces_stray] at h
    obtain ⟨before, o, after, rfl, rfl⟩ := ih h
    refine ⟨.closing u :: before, o, after, rfl, ?_⟩
    rw [Lexeme.line_texts_cons]
    rfl
  | case4 o rest hm =>
    cases h
    exact ⟨[], o, rest, rfl, by simp [Lexeme.texts, Text.newlines]⟩
  | case5 o rest body t after hm ih =>
    rw [result_ofPieces_block] at h
    obtain ⟨before, o', after', rfl, rfl⟩ := ih (eq_error_of_map_eq_error h)
    refine ⟨.opening o :: body ++ .closing t :: before, o', after', ?_, ?_⟩
    · rw [Piece.eq_of_matching hm]
      simp
    · rw [texts_block (gated o.kind) line, Text.newlines_append, Int.natCast_add, Int.add_assoc]

end Span
end BuildBlocks
