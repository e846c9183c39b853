import BuildBlocks.Proofs.Nesting

/-!
# Closed lexemes

Lexemes are closed if every opening marker among them has its closing marker among them; closing
markers without an opening one may stand between blocks. A page has spans just if its lexemes are
closed. Otherwise they are closed up to an opening marker that nothing after it closes, and that
marker is the fault of the page.

## The architecture

* **`closed_or_unclosed`** cuts any lexemes at the first opening marker that is never closed.
* **`Balanced.exists_partner`**, **`Closed.exists_partner`**: the closing marker of an opening one.
* **`exists_ofPieces_append_of_closed`**: a scan goes through closed lexemes by themselves, which
  gives its result in the two cases (`result_ofPieces_of_closed`, `result_ofPieces_of_unclosed`) and
  its blocks (`mem_ofPieces_iff`).
-/

namespace BuildBlocks
namespace Lexeme

/-! ## Cutting lexemes at an opening marker -/

/-- An opening marker among the lexemes of a block and what follows the block: it opens the block,
it stands in the body, or it stands behind the block. -/
theorem opening_cases_of_block {o o' : Opening} {t : Text} {body after before ls : List Lexeme}
    (h : .opening o' :: body ++ .closing t :: after = before ++ .opening o :: ls) :
    (before = [] ∧ o = o' ∧ ls = body ++ .closing t :: after) ∨
      (∃ left right, before = .opening o' :: left ∧ body = left ++ .opening o :: right ∧
        ls = right ++ .closing t :: after) ∨
        ∃ left, before = .opening o' :: body ++ .closing t :: left ∧
          after = left ++ .opening o :: ls := by
  rw [List.cons_append] at h
  rcases List.cons_eq_append_iff.1 h with ⟨hnil, hfirst⟩ | ⟨left, rfl, hrest⟩
  · cases hfirst
    exact .inl ⟨hnil, rfl, rfl⟩
  · rcases List.append_eq_append_iff.1 hrest with ⟨mid, rfl, hmid⟩ | ⟨mid, rfl, hmid⟩
    · -- the cut lies behind the body, and not at the closing marker
      rcases List.cons_eq_append_iff.1 hmid with ⟨-, hfirst⟩ | ⟨left, rfl, hafter⟩
      · cases hfirst
      · exact .inr (.inr ⟨left, by simp, hafter⟩)
    · rcases List.cons_eq_append_iff.1 hmid with ⟨-, hfirst⟩ | ⟨right, rfl, hls⟩
      · cases hfirst
      · exact .inr (.inl ⟨left, right, rfl, rfl, hls⟩)

/-- An opening marker among balanced lexemes is closed among them. -/
theorem Balanced.exists_partner {ls : List Lexeme} (h : Balanced ls) {before after : List Lexeme}
    {o : Opening} (heq : ls = before ++ .opening o :: after) :
    ∃ body t rest, after = body ++ .closing t :: rest ∧ Balanced body := by
  induction h generalizing before after with
  | nil => simp at heq
  | char c _ ih =>
    rcases List.cons_eq_append_iff.1 heq with ⟨-, hfirst⟩ | ⟨before, rfl, hrest⟩
    · cases hfirst
    · exact ih hrest
  | @block o' t _ behind hbody _ ihbody ihafter =>
    rcases opening_cases_of_block heq with
      ⟨-, -, rfl⟩ | ⟨left, right, -, hright, rfl⟩ | ⟨left, -, hleft⟩
    · exact ⟨_, t, _, rfl, hbody⟩
    · obtain ⟨body, u, rest, rfl, hbalanced⟩ := ihbody hright
      exact ⟨body, u, rest ++ .closing t :: behind, by simp, hbalanced⟩
    · exact ihafter hleft

/-- Two balanced bodies before a closing marker at the start of the same lexemes are the same. -/
theorem Balanced.eq_of_append_eq {body body' : List Lexeme} (h : Balanced body)
    (h' : Balanced body') {t t' : Text} {rest rest' : List Lexeme}
    (heq : body ++ .closing t :: rest = body' ++ .closing t' :: rest') :
    body = body' ∧ t = t' ∧ rest = rest' := by
  have hmatching := h.matching_append t rest
  rw [heq, h'.matching_append] at hmatching
  cases hmatching
  exact ⟨rfl, rfl, rfl⟩

/-- Lexemes that are not balanced close a block that they did not open, or open one that they do not
close. -/
theorem balanced_or_unbalanced (ls : List Lexeme) :
    Balanced ls ∨ (∃ left t right, ls = left ++ .closing t :: right ∧ Balanced left) ∨
      ∃ left o right, ls = left ++ .opening o :: right ∧ Piece.matching 0 right = none := by
  -- the induction follows the pairing of markers
  fun_induction Piece.ofLexemes ls with
  | case1 => exact .inl .nil
  | case2 c rest ih =>
    rcases ih with h | ⟨left, t, right, rfl, h⟩ | ⟨left, o, right, rfl, h⟩
    · exact .inl (.char c h)
    · exact .inr (.inl ⟨.char c :: left, t, right, rfl, .char c h⟩)
    · exact .inr (.inr ⟨.char c :: left, o, right, rfl, h⟩)
  | case3 t rest => exact .inr (.inl ⟨[], t, rest, rfl, .nil⟩)
  | case4 o rest hm => exact .inr (.inr ⟨[], o, rest, rfl, hm⟩)
  | case5 o rest body t after hm ih =>
    have hbody := balanced_of_matching hm
    rw [Piece.eq_of_matching hm]
    rcases ih with h | ⟨left, u, right, rfl, h⟩ | ⟨left, o', right, rfl, h⟩
    · exact .inl (.block o t hbody h)
    · exact .inr (.inl ⟨.opening o :: body ++ .closing t :: left, u, right, by simp,
        .block o t hbody h⟩)
    · exact .inr (.inr ⟨.opening o :: body ++ .closing t :: left, o', right, by simp, h⟩)

/-! ## Closed lexemes -/

theorem balanced_map_char (t : Text) : Balanced (t.map .char) := by
  induction t with
  | nil => exact .nil
  | cons c t ih => exact .char c ih

/-- **Lexemes are closed**, or they are so up to the first opening marker that is never closed. -/
theorem closed_or_unclosed (ls : List Lexeme) :
    Closed ls ∨ ∃ before o after, ls = before ++ .opening o :: after ∧ Closed before ∧
      Piece.matching 0 after = none := by
  fun_induction Piece.ofLexemes ls with
  | case1 => exact .inl .nil
  | case2 c rest ih =>
    rcases ih with h | ⟨before, o, after, rfl, h, hnone⟩
    · exact .inl (.char c h)
    · exact .inr ⟨.char c :: before, o, after, rfl, .char c h, hnone⟩
  | case3 t rest ih =>
    rcases ih with h | ⟨before, o, after, rfl, h, hnone⟩
    · exact .inl (.stray t h)
    · exact .inr ⟨.closing t :: before, o, after, rfl, .stray t h, hnone⟩
  | case4 o rest hm => exact .inr ⟨[], o, rest, rfl, .nil, hm⟩
  | case5 o rest body t after hm ih =>
    have hbody := balanced_of_matching hm
    rw [Piece.eq_of_matching hm]
    rcases ih with h | ⟨before, o', after, rfl, h, hnone⟩
    · exact .inl (.block o t hbody h)
    · exact .inr ⟨.opening o :: body ++ .closing t :: before, o', after, by simp,
        .block o t hbody h, hnone⟩

namespace Closed

/-- An opening marker among closed lexemes is closed among them. -/
theorem exists_partner {ls : List Lexeme} (h : Closed ls) {before after : List Lexeme} {o : Opening}
    (heq : ls = before ++ .opening o :: after) :
    ∃ body t rest, after = body ++ .closing t :: rest ∧ Balanced body := by
  induction h generalizing before after with
  | nil => simp at heq
  | char c _ ih | stray t _ ih =>
    rcases List.cons_eq_append_iff.1 heq with ⟨-, hfirst⟩ | ⟨before, rfl, hrest⟩
    · cases hfirst
    · exact ih hrest
  | @block o' t _ behind hbody _ ih =>
    rcases opening_cases_of_block heq with
      ⟨-, -, rfl⟩ | ⟨left, right, -, hright, rfl⟩ | ⟨left, -, hleft⟩
    · exact ⟨_, t, _, rfl, hbody⟩
    · obtain ⟨body, u, rest, rfl, hbalanced⟩ := hbody.exists_partner hright
      exact ⟨body, u, rest ++ .closing t :: behind, by simp, hbalanced⟩
    · exact ih hleft

/-- A block among closed lexemes that an opening marker is open before lies in the block of that
marker. -/
theorem exists_outer {left right body after : List Lexeme} {o o' : Opening} {s : Text}
    (h : Closed (left ++ .opening o' :: (right ++ .opening o :: (body ++ .closing s :: after))))
    (hright : Piece.matching 0 right = none) (hbody : Balanced body) :
    ∃ mid u rest, after = mid ++ .closing u :: rest ∧
      Balanced (right ++ .opening o :: (body ++ .closing s :: mid)) := by
  obtain ⟨outer, u, rest, heq, houter⟩ := h.exists_partner rfl
  rcases List.append_eq_append_iff.1 heq with ⟨mid, rfl, hmid⟩ | ⟨mid, rfl, hmid⟩
  · rcases List.cons_eq_append_iff.1 hmid with ⟨-, hfirst⟩ | ⟨mid, rfl, hinner⟩
    · cases hfirst
    · -- the inner block ends in the outer one, with the closing marker that it has
      obtain ⟨body', s', mid, rfl, hbody'⟩ := houter.exists_partner rfl
      rw [List.append_assoc, List.cons_append] at hinner
      obtain ⟨rfl, rfl, rfl⟩ := hbody.eq_of_append_eq hbody' hinner
      exact ⟨mid, u, rest, rfl, houter⟩
  · rcases List.cons_eq_append_iff.1 hmid with ⟨-, hfirst⟩ | ⟨mid, rfl, -⟩
    · cases hfirst
    · rw [houter.matching_append] at hright
      cases hright

end Closed
end Lexeme

/-! ## What a scan gives -/

namespace Span

variable {gated : Text → Bool} {file : Option Text}

/-- The pieces of a block and what follows it. -/
theorem ofLexemes_block {o : Opening} {t : Text} {body after : List Lexeme}
    (hbody : Lexeme.Balanced body) :
    Piece.ofLexemes (.opening o :: body ++ .closing t :: after) =
      .block o body t :: Piece.ofLexemes after := by
  rw [List.cons_append, Piece.ofLexemes_of_matching (hbody.matching_append t after)]

theorem withText_append (gathered : Text) (a b : List Span) :
    withText gathered (a ++ b) = withText gathered a ++ b := by
  unfold withText
  split <;> rfl

/-- **A scan goes through closed lexemes by themselves**: what follows them adds its spans behind
theirs. -/
theorem exists_ofPieces_append_of_closed (gated : Text → Bool) (file : Option Text)
    {before : List Lexeme} (h : Lexeme.Closed before) (position : Nat) (line : Int)
    (gathered : Text) :
    ∃ front gathered', ∀ ls : List Lexeme,
      (ofPieces gated file position line gathered (Piece.ofLexemes (before ++ ls))).result =
        (ofPieces gated file (position + (Lexeme.texts before).length)
          (line + Text.newlines (Lexeme.texts before)) gathered'
            (Piece.ofLexemes ls)).result.map (front ++ ·) := by
  -- on the closed lexemes; only a block ends the gathered text
  induction h generalizing position line gathered with
  | nil =>
    refine ⟨[], gathered, fun ls => ?_⟩
    have hid : ([] ++ · : List Span → List Span) = id := rfl
    rw [List.nil_append, hid, Except.map_id]
    simp [Lexeme.texts, Text.newlines]
  | @char c before _ ih =>
    obtain ⟨front, gathered', hscan⟩ := ih (position + 1) (line + Text.newlines [c]) (c :: gathered)
    refine ⟨front, gathered', fun ls => ?_⟩
    rw [List.cons_append, Piece.ofLexemes, ofPieces, hscan, Lexeme.place_texts_cons,
      Lexeme.line_texts_cons]
    rfl
  | @stray t before _ ih =>
    obtain ⟨front, gathered', hscan⟩ := ih (position + t.length) (line + Text.newlines t)
      (t.reverse ++ gathered)
    refine ⟨front, gathered', fun ls => ?_⟩
    rw [List.cons_append, Piece.ofLexemes, result_ofPieces_stray, hscan, Lexeme.place_texts_cons,
      Lexeme.line_texts_cons]
    rfl
  | @block o t body before hbody _ ih =>
    let d := Directive.ofParts (gated o.kind) line o (Lexeme.texts body) t
    obtain ⟨front, gathered', hscan⟩ := ih (position + d.text.length)
      (line + Text.newlines d.text) []
    refine ⟨withText gathered [.block d position (position + d.text.length)] ++ front, gathered',
      fun ls => ?_⟩
    have heq : .opening o :: body ++ .closing t :: before ++ ls =
        .opening o :: body ++ .closing t :: (before ++ ls) := by simp
    rw [heq, ofLexemes_block hbody, result_ofPieces_block]
    dsimp only
    rw [hscan, texts_block (gated o.kind) line, List.length_append, Text.newlines_append,
      Int.natCast_add, ← Int.add_assoc, ← Nat.add_assoc]
    cases (ofPieces gated file _ _ gathered' (Piece.ofLexemes ls)).result with
    | error e => rfl
    | ok spans =>
      refine congrArg Except.ok ?_
      show withText gathered ([.block d position (position + d.text.length)] ++ (front ++ spans)) = _
      rw [withText_append]
      exact (List.append_assoc _ _ _).symm

/-- Closed lexemes have spans. -/
theorem result_ofPieces_of_closed {ls : List Lexeme} (h : Lexeme.Closed ls) (position : Nat)
    (line : Int) (gathered : Text) :
    ∃ spans,
      (ofPieces gated file position line gathered (Piece.ofLexemes ls)).result = .ok spans := by
  obtain ⟨front, gathered', hscan⟩ :=
    exists_ofPieces_append_of_closed gated file h position line gathered
  refine ⟨front ++ withText gathered' [], ?_⟩
  rw [← List.append_nil ls, hscan, Piece.ofLexemes, ofPieces]
  rfl

/-- The first opening marker that is never closed is what ends a scan. -/
theorem result_ofPieces_of_unclosed {before after : List Lexeme} {o : Opening}
    (hbefore : Lexeme.Closed before) (hafter : Piece.matching 0 after = none) (position : Nat)
    (line : Int) (gathered : Text) :
    (ofPieces gated file position line gathered
        (Piece.ofLexemes (before ++ .opening o :: after))).result =
      .error (.fault (.unterminated o.kind
        ⟨file, some (line + Text.newlines (Lexeme.texts before)), some o.text⟩)) := by
  have hpieces : Piece.ofLexemes (.opening o :: after) = [.unclosed o] := by
    rw [Piece.ofLexemes]
    split
    · rfl
    · next hsome =>
      rw [hafter] at hsome
      cases hsome
  obtain ⟨front, gathered', hscan⟩ :=
    exists_ofPieces_append_of_closed gated file hbefore position line gathered
  rw [hscan, hpieces]
  rfl

/-- A page that is one block. -/
theorem result_scan_of_block {word page : Text} {o : Opening} {body : List Lexeme} {t : Text}
    (h : Lexeme.lex word page = .opening o :: (body ++ [.closing t])) (hbody : Lexeme.Balanced body)
    (gated : Text → Bool) (file : Option Text) (offset : Int) :
    (scan word gated file offset page).result =
      let d := Directive.ofParts (gated o.kind) (offset + 1) o (Lexeme.texts body) t
      .ok [.block d 0 d.text.length] := by
  rw [scan, h, ← List.cons_append, ofLexemes_block hbody, Piece.ofLexemes, result_ofPieces_block]
  dsimp only
  rw [Nat.zero_add]
  rfl

/-- **The blocks of a scan** are the balanced parts between two markers that stand after closed
lexemes. -/
theorem mem_ofPieces_iff {ls : List Lexeme} {position : Nat} {line : Int} {gathered : Text}
    {spans : List Span}
    (h : (ofPieces gated file position line gathered (Piece.ofLexemes ls)).result = .ok spans)
    {d : Directive} {start stop : Nat} :
    Span.block d start stop ∈ spans ↔ ∃ before o body t after,
      ls = before ++ (.opening o :: body ++ .closing t :: after) ∧ Lexeme.Closed before ∧
        Lexeme.Balanced body ∧
        d = Directive.ofParts (gated o.kind) (line + Text.newlines (Lexeme.texts before)) o
          (Lexeme.texts body) t ∧
        start = position + (Lexeme.texts before).length ∧ stop = start + d.text.length := by
  refine ⟨exists_lexemes_of_mem_ofPieces h, ?_⟩
  rintro ⟨before, o, body, t, after, rfl, hbefore, hbody, rfl, rfl, rfl⟩
  obtain ⟨front, gathered', hscan⟩ :=
    exists_ofPieces_append_of_closed gated file hbefore position line gathered
  rw [hscan, ofLexemes_block hbody, result_ofPieces_block] at h
  obtain ⟨tail, htail, rfl⟩ := exists_of_map_eq_ok h
  obtain ⟨rest, -, rfl⟩ := exists_of_map_eq_ok htail
  exact List.mem_append_right _ (mem_withText.2 List.mem_cons_self)

end Span
end BuildBlocks
