import BuildBlocks.Proofs.LexemeLocality
import Mathlib.Data.List.TakeWhile

/-!
# Seams

A seam is a place of a text where a new line starts with a tag. No marker reaches across it: a
marker runs over the ends of lines only where blanks are skipped, and these blanks are followed by
something of the marker, which does not start with `<`. So a text up to a seam is read as it is read
alone (`Lexeme.lex_append_seam`).

That holds for marker words without blanks that do not start with `<` themselves.

## The architecture

* **`exists_rest`** and **`exists_rest_of_trimmed`**: what a reader takes, without or with blanks to
  be skipped before it, ends before the seam.
* **one lemma for each part of a marker**, up to `opening?_seam` and `closing?_seam`.
* **`Lexeme.lex_tag`**: the tag itself is read as characters, whatever follows it.
-/

namespace BuildBlocks
namespace Marker

variable {word x r v : Text}

/-! ## Reading before a seam -/

/-- What holds no line end ends before a line end that comes later. -/
theorem exists_rest {p : Text} (h : x ++ '\n' :: v = p ++ r) (hp : '\n' ∉ p) :
    ∃ y, r = y ++ '\n' :: v := by
  rcases List.append_eq_append_iff.1 h with ⟨q, rfl, hq⟩ | ⟨q, -, hq⟩
  · cases q with
    | nil => exact ⟨[], hq.symm⟩
    | cons c q =>
      rw [List.cons_append, List.cons.injEq] at hq
      exact absurd (List.mem_append_right x (List.mem_cons.2 (.inl hq.1))) hp
  · exact ⟨q, hq⟩

/-- A run stops before a character that is no part of it. -/
theorem dropWhile_append_cons {p : Char → Bool} {c : Char} (hc : p c = false) (x v : Text) :
    (x ++ c :: v).dropWhile p = x.dropWhile p ++ c :: v := by
  rw [List.dropWhile_append]
  split
  · next hnil =>
    rw [List.isEmpty_iff.1 hnil, List.dropWhile_cons_of_neg (by simp [hc])]
    rfl
  · rfl

theorem takeWhile_append_cons {p : Char → Bool} {c : Char} (hc : p c = false) (x v : Text) :
    (x ++ c :: v).takeWhile p = x.takeWhile p := by
  have hwhole := List.takeWhile_append_dropWhile (p := p) (l := x ++ c :: v)
  have hpart := List.takeWhile_append_dropWhile (p := p) (l := x)
  rw [dropWhile_append_cons hc] at hwhole
  rw [← List.append_left_inj (x.dropWhile p ++ c :: v), hwhole, ← List.append_assoc, hpart]

/-- What does not hold a character, and is the beginning of a text, ends before that character. -/
theorem prefix_of_prefix_append_cons {p : Text} {c : Char} (hc : c ∉ p) (h : p <+: x ++ c :: v) :
    p <+: x := by
  rcases List.prefix_or_prefix_of_prefix h (List.prefix_append x (c :: v)) with hinside | hacross
  · exact hinside
  · obtain ⟨t, rfl⟩ := hacross
    rw [List.prefix_append_right_inj] at h
    cases t with
    | nil => simp
    | cons d t =>
      have hd : d = c := (List.cons_prefix_cons.1 h).1
      exact absurd (by simp [hd]) hc

/-- What holds no line end and stands after blanks ends before a seam, unless it starts with `<`. -/
theorem exists_rest_of_trimmed {p : Text}
    (h : (x ++ '\n' :: '<' :: v).dropWhile Text.isBlank = p ++ r) (hp : '\n' ∉ p) (hne : p ≠ [])
    (hhead : p.head? ≠ some '<') : ∃ y, r = y ++ '\n' :: '<' :: v := by
  have hblank : Text.isBlank '\n' = true := by decide
  have htag : Text.isBlank '<' = false := by decide
  obtain ⟨c, p, rfl⟩ := List.exists_cons_of_ne_nil hne
  rw [List.dropWhile_append] at h
  split at h
  · -- the blanks reach across the line end, and what follows them is the tag
    rw [List.dropWhile_cons_of_pos hblank, List.dropWhile_cons_of_neg (by simp [htag]),
      List.cons_append, List.cons.injEq] at h
    exact absurd (congrArg some h.1.symm) hhead
  · exact exists_rest h hp

/-! ## The parts of a marker -/

theorem dropPrefix?_seam {p : Text} (hp : '\n' ∉ p)
    (h : Text.dropPrefix? p (x ++ '\n' :: v) = some r) : ∃ y, r = y ++ '\n' :: v :=
  exists_rest (dropPrefix?_eq_some_iff.1 h) hp

theorem notMem_takeWhile {p : Char → Bool} {c : Char} (hp : p c = false) (s : Text) :
    c ∉ s.takeWhile p := fun hc => by
  have := List.mem_takeWhile_imp hc
  simp [hp] at this

/-- A run holds what satisfies `p` only. -/
theorem notMem_of_run? {p : Char → Bool} {c : Char} {s run : Text} (hp : p c = false)
    (h : run? p s = some (run, r)) : c ∉ run := fun hmem => by
  obtain ⟨hs, -, hlen⟩ := run?_eq_some_iff.1 h
  have hle : run.length ≤ (s.takeWhile p).length := by
    simp only [hlen, runLength]
    split <;> omega
  have hinit : run <+: s.takeWhile p :=
    List.prefix_of_prefix_length_le ⟨r, hs.symm⟩ (List.takeWhile_prefix p) hle
  exact notMem_takeWhile hp _ (hinit.subset hmem)

theorem run?_seam {p : Char → Bool} {run : Text} (hp : p '\n' = false)
    (h : run? p (x ++ '\n' :: v) = some (run, r)) : ∃ y, r = y ++ '\n' :: v :=
  exists_rest (run?_eq_some_iff.1 h).1 (notMem_of_run? hp h)

theorem kind?_seam {k : Text} (h : kind? (x ++ '\n' :: v) = some (k, r)) :
    ∃ y, r = y ++ '\n' :: v := by
  have hname : isNameChar '\n' = false := by decide
  cases x with
  | nil =>
    have hrun : run? isNameChar ([] ++ '\n' :: v) = some (k, r) := h
    exact run?_seam hname hrun
  | cons c x =>
    by_cases hc : c = '['
    · subst hc
      obtain ⟨-, hclose, -⟩ := kind?_bracket_eq_some_iff.1 h
      rw [List.append_eq, dropWhile_append_cons hname] at hclose
      exact exists_rest (p := [']']) hclose (by decide)
    · have hrun : run? isNameChar (c :: x ++ '\n' :: v) = some (k, r) := by
        rw [← h, kind?]
        intro s hs
        exact hc (List.cons.inj hs).1
      exact run?_seam hname hrun

theorem targets?_seam {t : Option Text} (h : targets? (x ++ '\n' :: v) = some (t, r)) :
    ∃ y, r = y ++ '\n' :: v := by
  unfold targets? at h
  split at h
  · next s hs =>
    obtain ⟨y, rfl⟩ := exists_rest (p := [':']) hs (by decide)
    obtain ⟨⟨run, r'⟩, hrun, heq⟩ := Option.map_eq_some_iff.1 h
    cases heq
    exact run?_seam (by decide) hrun
  · cases h
    exact ⟨x, rfl⟩

theorem params?_seam {p : Text} (h : params? (x ++ '\n' :: v) = some (p, r)) :
    ∃ y, r = y ++ '\n' :: v := by
  obtain ⟨t, hopen, hclose, -⟩ := params?_eq_some_iff.1 h
  rw [dropWhile_append_cons (by decide)] at hopen
  obtain ⟨y, rfl⟩ := exists_rest (p := ['(']) hopen (by decide)
  rw [dropWhile_append_cons (by decide)] at hclose
  exact exists_rest (p := [')']) hclose (by decide)

theorem isBlank_of_mem_valueRun {s : Text} {c : Char} (h : c ∈ valueRun s) :
    Text.isBlank c = false := by
  induction s with
  | nil => cases h
  | cons d s ih =>
    rw [valueRun] at h
    split at h
    · cases h
    · next hgo =>
      rw [Bool.or_eq_true, not_or] at hgo
      rcases List.mem_cons.1 h with rfl | h
      · exact Bool.eq_false_iff.2 hgo.1
      · exact ih h

theorem value?_seam {w : Text} (h : value? (x ++ '\n' :: v) = some (w, r)) :
    ∃ y, r = y ++ '\n' :: v := by
  obtain ⟨hs, -, hw, -⟩ := value?_eq_some_iff.1 h
  rw [dropWhile_append_cons (by decide)] at hs
  refine exists_rest hs fun hmem => ?_
  rw [hw] at hmem
  exact absurd (isBlank_of_mem_valueRun hmem) (by decide)

theorem endOfComment?_seam (h : endOfComment? (x ++ '\n' :: '<' :: v) = some r) :
    ∃ y, r = y ++ '\n' :: '<' :: v :=
  exists_rest_of_trimmed (endOfComment?_eq_some_iff.1 h) (by decide) (by decide) (by decide)

theorem tail?_seam {w : Option Text} (h : tail? (x ++ '\n' :: '<' :: v) = some (w, r)) :
    ∃ y, r = y ++ '\n' :: '<' :: v := by
  rcases tail?_eq_some_iff.1 h with ⟨w, t, hvalue, hend, -⟩ | ⟨-, hend, -⟩
  · obtain ⟨y, rfl⟩ := value?_seam hvalue
    exact endOfComment?_seam hend
  · exact endOfComment?_seam hend

theorem arguments?_seam {pv : Option Text × Option Text}
    (h : arguments? (x ++ '\n' :: '<' :: v) = some (pv, r)) : ∃ y, r = y ++ '\n' :: '<' :: v := by
  rcases arguments?_eq_some_iff.1 h with ⟨q, t, hparams, htail, -⟩ | ⟨-, htail, -⟩
  · obtain ⟨y, rfl⟩ := params?_seam hparams
    exact tail?_seam htail
  · exact tail?_seam htail

/-! ## Whole markers -/

theorem newline_notMem_of_blankless (h : ∀ c ∈ word, Text.isBlank c = false) : '\n' ∉ word :=
  fun hmem => absurd (h _ hmem) (by decide)

theorem dropWhile_of_blankless (h : ∀ c ∈ word, Text.isBlank c = false) :
    word.dropWhile Text.isBlank = word := by
  cases word with
  | nil => rfl
  | cons c w =>
    rw [List.dropWhile_cons_of_neg]
    simp [h c List.mem_cons_self]

/-- A word without blanks is what follows the blanks. -/
theorem word?_of_blankless (h : ∀ c ∈ word, Text.isBlank c = false) {s : Text}
    (hs : word? word s = some r) : s.dropWhile Text.isBlank = word ++ r := by
  rw [dropWhile_of_word? hs, dropWhile_of_blankless h]

/-- **No opening marker reaches across a seam.** -/
theorem opening?_seam (hword : ∀ c ∈ word, Text.isBlank c = false) (hhead : word.head? ≠ some '<')
    {o : Opening} (h : opening? word (x ++ '\n' :: '<' :: v) = some (o, r)) :
    ∃ y, r = y ++ '\n' :: '<' :: v := by
  obtain ⟨s₁, s₂, s₃, s₄, s₅, h₁, h₂, h₃, h₄, h₅, h₆, -⟩ := opening?_eq_some_iff.1 h
  obtain ⟨y₁, rfl⟩ := dropPrefix?_seam (by decide) h₁
  -- the word may be empty, but the colon after it is not
  obtain ⟨y₃, rfl⟩ : ∃ y, s₃ = y ++ '\n' :: '<' :: v := by
    have hs := word?_of_blankless hword h₂
    rw [dropPrefix?_eq_some_iff.1 h₃, ← List.append_assoc] at hs
    refine exists_rest_of_trimmed hs ?_ (by simp) ?_
    · simpa using newline_notMem_of_blankless hword
    · cases word with
      | nil => decide
      | cons c w => exact hhead
  obtain ⟨y₄, rfl⟩ := kind?_seam h₄
  obtain ⟨y₅, rfl⟩ := targets?_seam h₅
  exact arguments?_seam h₆

/-- **No closing marker reaches across a seam.** -/
theorem closing?_seam (hword : ∀ c ∈ word, Text.isBlank c = false) {t : Text}
    (h : closing? word (x ++ '\n' :: '<' :: v) = some (t, r)) :
    ∃ y, r = y ++ '\n' :: '<' :: v := by
  obtain ⟨s₁, s₂, s₃, h₁, h₂, h₃, h₄, -⟩ := closing?_eq_some_iff.1 h
  obtain ⟨y₁, rfl⟩ := dropPrefix?_seam (by decide) h₁
  obtain ⟨y₂, rfl⟩ : ∃ y, s₂ = y ++ '\n' :: '<' :: v := by
    rcases closer?_eq_some_iff.1 h₂ with hslash | hend
    · exact exists_rest_of_trimmed (p := ['/']) hslash (by decide) (by decide) (by decide)
    · exact exists_rest_of_trimmed hend (by decide) (by decide) (by decide)
  obtain ⟨y₃, rfl⟩ := dropPrefix?_seam (newline_notMem_of_blankless hword) h₃
  exact endOfComment?_seam h₄

end Marker

namespace Lexeme

variable {word : Text}

/-- The first lexeme of a text is the one that it has with more text behind it, if no marker at its
start reaches into that text. -/
theorem first_append_of_rest {c : Char} {cs b : Text}
    (hopening : ∀ o r, Marker.opening? word (c :: cs ++ b) = some (o, r) → ∃ y, r = y ++ b)
    (hclosing : ∀ t r, Marker.closing? word (c :: cs ++ b) = some (t, r) → ∃ y, r = y ++ b) :
    first word c (cs ++ b) = ((first word c cs).1, (first word c cs).2 ++ b) := by
  unfold first
  rw [← List.cons_append]
  cases hopen : Marker.opening? word (c :: cs ++ b) with
  | some os =>
    obtain ⟨o, s⟩ := os
    obtain ⟨y, rfl⟩ := hopening o s hopen
    rw [Marker.opening?_of_append hopen]
  | none =>
    have hnone : Marker.opening? word (c :: cs) = none := by
      by_contra hsome
      obtain ⟨⟨o, s⟩, ho⟩ := Option.ne_none_iff_exists'.1 hsome
      exact Marker.opening?_append_ne_none ho hopen
    rw [hnone]
    cases hclose : Marker.closing? word (c :: cs ++ b) with
    | some ts =>
      obtain ⟨t, s⟩ := ts
      obtain ⟨y, rfl⟩ := hclosing t s hclose
      rw [Marker.closing?_append_iff.1 hclose]
    | none =>
      have hnone : Marker.closing? word (c :: cs) = none := by
        by_contra hsome
        obtain ⟨⟨t, s⟩, ht⟩ := Option.ne_none_iff_exists'.1 hsome
        rw [Marker.closing?_append_iff.2 ht] at hclose
        cases hclose
      rw [hnone]

/-- The first lexeme of a text before a seam is the first one of the text alone. -/
theorem first_append_seam (hword : ∀ c ∈ word, Text.isBlank c = false)
    (hhead : word.head? ≠ some '<') (c : Char) (cs v : Text) :
    first word c (cs ++ '\n' :: '<' :: v) =
      ((first word c cs).1, (first word c cs).2 ++ '\n' :: '<' :: v) :=
  first_append_of_rest (fun _ _ => Marker.opening?_seam hword hhead)
    fun _ _ => Marker.closing?_seam hword

/-- **A text before a seam is read as it is alone.** -/
theorem lex_append_seam (hword : ∀ c ∈ word, Text.isBlank c = false)
    (hhead : word.head? ≠ some '<') (a v : Text) :
    lex word (a ++ '\n' :: '<' :: v) = lex word a ++ lex word ('\n' :: '<' :: v) := by
  fun_induction lex word a with
  | case1 => rfl
  | case2 c cs ih =>
    rw [List.cons_append, lex, first_append_seam hword hhead]
    exact congrArg (_ :: ·) ih

/-- Where no comment starts, a character is read. -/
theorem first_eq_char {c : Char} {cs : Text} (h : ¬ Marker.commentStart <+: c :: cs) :
    first word c cs = (.char c, cs) := by
  have hstart : Text.dropPrefix? Marker.commentStart (c :: cs) = none := by
    by_contra hsome
    obtain ⟨r, hr⟩ := Option.ne_none_iff_exists'.1 hsome
    exact h ⟨r, (Marker.dropPrefix?_eq_some_iff.1 hr).symm⟩
  simp [first, Marker.opening?, Marker.closing?, hstart]

/-- A text in which no comment starts is read as characters. -/
theorem lex_of_uncommented {t : Text} (h : ¬ Marker.commentStart <:+: t) :
    lex word t = t.map .char := by
  induction t with
  | nil => rw [lex, List.map_nil]
  | cons c t ih =>
    have hfirst : first word c t = (.char c, t) := first_eq_char fun hstart => h hstart.isInfix
    rw [lex, hfirst]
    exact congrArg (.char c :: ·) (ih fun hlater => h (hlater.trans (List.suffix_cons c t).isInfix))

/-- A text without `<` is read as characters, whatever follows it. -/
theorem lex_append_of_tagless {t : Text} (h : '<' ∉ t) (b : Text) :
    lex word (t ++ b) = t.map .char ++ lex word b := by
  induction t with
  | nil => rfl
  | cons c t ih =>
    rw [List.mem_cons, not_or] at h
    have hfirst : first word c (t ++ b) = (.char c, t ++ b) := by
      refine first_eq_char fun hstart => h.1 ?_
      exact (List.cons_prefix_cons.1 hstart).1
    rw [List.cons_append, lex, hfirst]
    exact congrArg (_ :: ·) (ih h.2)

/-- **A line that starts with a tag is read as characters**, whatever follows it. -/
theorem lex_tag {t : Text} (hne : t ≠ []) (htag : '<' ∉ t) (hhead : t.head? ≠ some '!') (b : Text) :
    lex word ('\n' :: '<' :: t ++ b) = ('\n' :: '<' :: t).map .char ++ lex word b := by
  obtain ⟨c, u, rfl⟩ := List.exists_cons_of_ne_nil hne
  have hnewline : first word '\n' ('<' :: (c :: u ++ b)) = (.char '\n', '<' :: (c :: u ++ b)) :=
    first_eq_char fun hstart => absurd (List.cons_prefix_cons.1 hstart).1 (by decide)
  have htagStart : first word '<' (c :: u ++ b) = (.char '<', c :: u ++ b) := by
    refine first_eq_char fun hstart => hhead ?_
    have hrest := (List.cons_prefix_cons.1 hstart).2
    rw [List.cons_append] at hrest
    exact congrArg some (List.cons_prefix_cons.1 hrest).1.symm
  rw [List.cons_append, List.cons_append, lex, hnewline]
  dsimp only
  rw [lex, htagStart]
  dsimp only
  rw [lex_append_of_tagless htag]
  rfl

end Lexeme
end BuildBlocks
