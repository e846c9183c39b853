import BuildBlocks.Block.Span
import BuildBlocks.Proofs.MarkerLocality

/-!
# Lexemes of a part of a page

Consecutive lexemes of a page make up a text that has just these lexemes when it is read by itself
(`lex_texts_of_lex_eq`). So a body that is cut out of a page and read again is read as it was read
in the page, at every depth.
-/

namespace BuildBlocks
namespace Lexeme

/-- A lexeme that lies in `a` is the first of `a`. -/
theorem first_of_append {word a b r : Text} {c : Char} {l : Lexeme}
    (h : first word c (a ++ b) = (l, r ++ b)) : first word c a = (l, r) := by
  unfold first at h ⊢
  rw [← List.cons_append] at h
  cases hopen : Marker.opening? word (c :: a ++ b) with
  | some os =>
    obtain ⟨o, s⟩ := os
    rw [hopen] at h
    simp only [Prod.mk.injEq] at h
    obtain ⟨rfl, rfl⟩ := h
    rw [Marker.opening?_of_append hopen]
  | none =>
    -- no marker of the part opens, since none of the whole does
    have hpart : Marker.opening? word (c :: a) = none := by
      by_contra hsome
      obtain ⟨⟨o, s⟩, ho⟩ := Option.ne_none_iff_exists'.1 hsome
      exact Marker.opening?_append_ne_none ho hopen
    rw [hopen] at h
    rw [hpart]
    cases hclose : Marker.closing? word (c :: a ++ b) with
    | some ts =>
      obtain ⟨t, s⟩ := ts
      rw [hclose] at h
      simp only [Prod.mk.injEq] at h
      obtain ⟨rfl, rfl⟩ := h
      rw [Marker.closing?_append_iff.1 hclose]
    | none =>
      have hpart : Marker.closing? word (c :: a) = none := by
        by_contra hsome
        obtain ⟨⟨t, s⟩, ht⟩ := Option.ne_none_iff_exists'.1 hsome
        rw [Marker.closing?_append_iff.2 ht] at hclose
        cases hclose
      rw [hclose] at h
      rw [hpart]
      simp only [Prod.mk.injEq, List.append_left_inj] at h
      exact Prod.ext h.1 h.2

/-- The lexemes at the start of a page are those of the text that they make up. -/
theorem lex_texts_of_lex_eq_append {word s : Text} {ls after : List Lexeme}
    (h : lex word s = ls ++ after) : lex word (texts ls) = ls := by
  induction ls generalizing s with
  | nil => simp [texts, lex]
  | cons l ls ih =>
    cases s with
    | nil => simp [lex] at h
    | cons c cs =>
      rw [lex, List.cons_append, List.cons.injEq] at h
      obtain ⟨hl, hls⟩ := h
      -- the first lexeme is not empty: it starts with the first character of the page
      obtain ⟨hspell, hlen⟩ := first_append word c cs
      have hrest : (first word c cs).2 = texts ls ++ texts after := by
        rw [← texts_lex word (first word c cs).2, hls, Span.texts_append]
      rw [hl, hrest] at hspell
      obtain ⟨u, hu⟩ : ∃ u, l.text = c :: u := by
        cases hlt : l.text with
        | nil =>
          rw [hlt, List.nil_append] at hspell
          rw [hrest, hspell] at hlen
          exact absurd hlen (Nat.lt_irrefl _)
        | cons d u =>
          rw [hlt, List.cons_append, List.cons.injEq] at hspell
          exact ⟨u, by rw [hspell.1]⟩
      rw [hu, List.cons_append, List.cons.injEq, ← List.append_assoc] at hspell
      -- and it is read from what the lexemes make up
      have hpart : first word c (u ++ texts ls) = (l, texts ls) := by
        refine first_of_append (b := texts after) ?_
        rw [hspell.2]
        exact Prod.ext hl hrest
      rw [Span.texts_cons, hu, List.cons_append, lex, hpart]
      exact congrArg (l :: ·) (ih hls)

/-- The lexemes at the end of a page are those of the text that they make up. -/
theorem lex_texts_of_append_eq_lex {word s : Text} {before ls : List Lexeme}
    (h : lex word s = before ++ ls) : lex word (texts ls) = ls := by
  induction before generalizing s with
  | nil =>
    rw [List.nil_append] at h
    rw [← h, texts_lex, h]
  | cons l before ih =>
    cases s with
    | nil => simp [lex] at h
    | cons c cs =>
      rw [lex, List.cons_append, List.cons.injEq] at h
      exact ih h.2

/-- **The lexemes of a part.** A text that consecutive lexemes of a page make up has just these
lexemes. -/
theorem lex_texts_of_lex_eq {word s : Text} {before ls after : List Lexeme}
    (h : lex word s = before ++ ls ++ after) : lex word (texts ls) = ls := by
  rw [List.append_assoc] at h
  exact lex_texts_of_lex_eq_append (lex_texts_of_append_eq_lex h)

end Lexeme
end BuildBlocks
