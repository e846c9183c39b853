import BuildBlocks.Block.Lexeme
import Mathlib.Data.List.Basic

/-!
# Markers are read locally

Whether a marker stands at some place of a text, and which one, depends on the marker alone: what
follows it may be cut off, and what does not hold a marker yet may be cut anywhere without making
one.

A text is always cut as `a ++ b`. The statements compare a reader on the whole text with the same
reader on `a`, for a rest `r ++ b` that begins inside `a`.

## The architecture

* **`dropWhile_append_iff`**: a run of characters that stops inside `a` stops there without `b`.
* **one lemma for each part of a marker** (`run?_append_iff`, `value?_append_iff`, and so on): the
  part is read from `a` as it is from `a ++ b`. A name or a value may end before the two dashes of
  `-->`, so these lemmas ask for three characters of `a` that are left over. In a marker there are
  always that many, because the end of the comment is still to come.
* **`opening?_of_append`, `closing?_of_append`**: a marker that lies in `a` is read from `a`.
* **`opening?_append_ne_none`, `closing?_append_ne_none`**: where `a` holds a marker, so does
  `a ++ b`. It need not be the same one: a parameter that `a` cuts off may reach into `b`.
-/

namespace BuildBlocks
namespace Marker

/-! ## Texts that are cut

A rest that is at least as long as `b` is something of `a` followed by `b`. -/

/-- An end of `a ++ b` that holds all of `b` begins inside `a`. -/
theorem exists_append_of_suffix {a b s : Text} (h : s <:+ a ++ b) (hlen : b.length ≤ s.length) :
    ∃ t, s = t ++ b ∧ t <:+ a := by
  obtain ⟨t, rfl⟩ := List.suffix_of_suffix_length_le (List.suffix_append a b) h hlen
  exact ⟨t, rfl, List.suffix_append_self_iff.1 h⟩

/-- Characters are dropped from `a ++ b` up to a place inside `a` if they are so from `a`. -/
theorem dropWhile_append_iff {p : Char → Bool} {a b r : Text} (hr : r ≠ []) :
    (a ++ b).dropWhile p = r ++ b ↔ a.dropWhile p = r := by
  rw [List.dropWhile_append]
  split
  · next hnil =>
    -- all of `a` is dropped, so what is left is no longer than `b`
    rw [List.isEmpty_iff] at hnil
    have hlen : (b.dropWhile p).length ≤ b.length := (List.dropWhile_suffix p).length_le
    have hpos : 0 < r.length := List.length_pos_iff.2 hr
    constructor
    · intro h
      rw [h, List.length_append] at hlen
      omega
    · intro h
      exact absurd (h.symm.trans hnil) hr
  · exact List.append_left_inj b

/-- A run that stops inside `a` is the same without `b`. -/
theorem takeWhile_append_of_dropWhile {p : Char → Bool} {a b : Text} (h : a.dropWhile p ≠ []) :
    (a ++ b).takeWhile p = a.takeWhile p := by
  have hdrop : (a ++ b).dropWhile p = a.dropWhile p ++ b := (dropWhile_append_iff h).2 rfl
  have hwhole := List.takeWhile_append_dropWhile (p := p) (l := a ++ b)
  have hpart := List.takeWhile_append_dropWhile (p := p) (l := a)
  rw [hdrop] at hwhole
  rw [← List.append_left_inj (a.dropWhile p ++ b), hwhole, ← List.append_assoc, hpart]

/-- What is left when a beginning is taken off. -/
theorem dropPrefix?_eq_some_iff {p s r : Text} : Text.dropPrefix? p s = some r ↔ s = p ++ r := by
  refine ⟨suffix_of_dropPrefix?, ?_⟩
  rintro rfl
  induction p with
  | nil => rfl
  | cons c p ih => simpa [Text.dropPrefix?] using ih

theorem dropPrefix?_append_iff {p a b r : Text} :
    Text.dropPrefix? p (a ++ b) = some (r ++ b) ↔ Text.dropPrefix? p a = some r := by
  rw [dropPrefix?_eq_some_iff, dropPrefix?_eq_some_iff, ← List.append_assoc, List.append_left_inj]

theorem startsWith_eq_true_iff {p s : Text} : Text.startsWith s p = true ↔ p <+: s := by
  rw [Text.startsWith, Option.isSome_iff_exists]
  simp only [dropPrefix?_eq_some_iff]
  constructor
  · intro h
    obtain ⟨t, ht⟩ := h
    exact ⟨t, ht.symm⟩
  · intro h
    obtain ⟨t, ht⟩ := h
    exact ⟨t, ht.symm⟩

theorem endsWith_eq_true_iff {p s : Text} : Text.endsWith s p = true ↔ p <:+ s := by
  rw [Text.endsWith, startsWith_eq_true_iff, List.reverse_prefix]

/-- A text long enough begins with `p` if what it is the beginning of does. -/
theorem startsWith_append {p a b : Text} (h : p.length ≤ a.length) :
    Text.startsWith (a ++ b) p = Text.startsWith a p := by
  unfold Text.startsWith
  induction p generalizing a with
  | nil => rfl
  | cons c p ih =>
    cases a with
    | nil => simp at h
    | cons d a =>
      simp only [List.length_cons, Nat.add_le_add_iff_right] at h
      simp only [List.cons_append, Text.dropPrefix?]
      split
      · exact ih h
      · rfl

/-! ## Names and targets -/

/-- The length of a run does not depend on what follows three characters after it. -/
theorem runLength_append {p : Char → Bool} {a b : Text}
    (h : runLength p a + 3 ≤ a.length ∨ runLength p (a ++ b) + 3 ≤ a.length) :
    runLength p (a ++ b) = runLength p a := by
  by_cases hnil : a.dropWhile p = []
  · -- the run takes all of `a`, and gives back two characters at most
    have hall : a.takeWhile p = a := by
      have := List.takeWhile_append_dropWhile (p := p) (l := a)
      rwa [hnil, List.append_nil] at this
    have htake : (a ++ b).takeWhile p = a ++ b.takeWhile p := by
      rw [List.takeWhile_append, hall, if_pos rfl]
    have hpart : runLength p a = a.length := by simp [runLength, hnil, hall]
    have hwhole : a.length ≤ runLength p (a ++ b) + 2 := by
      simp only [runLength, htake, List.length_append]
      split <;> omega
    omega
  · have hdrop : (a ++ b).dropWhile p = a.dropWhile p ++ b := (dropWhile_append_iff hnil).2 rfl
    have hhead : (a.dropWhile p ++ b).head? = (a.dropWhile p).head? := by
      cases hd : a.dropWhile p with
      | nil => exact absurd hd hnil
      | cons c cs => rfl
    simp only [runLength, takeWhile_append_of_dropWhile hnil, hdrop, hhead]

theorem run?_eq_some_iff {p : Char → Bool} {s x r : Text} :
    run? p s = some (x, r) ↔ s = x ++ r ∧ x ≠ [] ∧ x.length = runLength p s := by
  -- the text is long enough, so what is taken from it is as long as the run
  have hle : runLength p s ≤ s.length := by
    have := (List.takeWhile_prefix p (l := s)).length_le
    simp only [runLength]
    split <;> omega
  unfold run?
  split
  · next hz =>
    simp only [reduceCtorEq, hz, List.length_eq_zero_iff, false_iff, not_and]
    exact fun _ h => h
  · next n hn =>
    simp only [Option.some.injEq, Prod.mk.injEq]
    constructor
    · rintro ⟨rfl, rfl⟩
      refine ⟨(List.take_append_drop _ _).symm, ?_, ?_⟩
      · rw [← List.length_pos_iff, List.length_take]
        omega
      · rw [List.length_take]
        omega
    · rintro ⟨rfl, -, hlen⟩
      have hx : x.length = n + 1 := hlen.trans hn
      rw [← hx]
      simp

theorem run?_append_iff {p : Char → Bool} {a b x r : Text} (hr : 3 ≤ r.length) :
    run? p (a ++ b) = some (x, r ++ b) ↔ run? p a = some (x, r) := by
  rw [run?_eq_some_iff, run?_eq_some_iff, ← List.append_assoc, List.append_left_inj]
  constructor
  · rintro ⟨rfl, hx, hlen⟩
    refine ⟨rfl, hx, ?_⟩
    rw [hlen]
    exact runLength_append (Or.inr (by rw [← hlen, List.length_append]; omega))
  · rintro ⟨rfl, hx, hlen⟩
    refine ⟨rfl, hx, ?_⟩
    rw [hlen]
    exact (runLength_append (Or.inl (by rw [← hlen, List.length_append]; omega))).symm

/-- An end of `b` is no longer than `b`. -/
theorem not_suffix_of_length_pos {b r : Text} (hr : 0 < r.length) : ¬ r ++ b <:+ b := by
  intro h
  have hlen := h.length_le
  rw [List.length_append] at hlen
  omega

/-- A name in brackets. -/
theorem kind?_bracket_eq_some_iff {s k r : Text} :
    kind? ('[' :: s) = some (k, r) ↔
      s.takeWhile isNameChar ≠ [] ∧ s.dropWhile isNameChar = ']' :: r ∧
        k = '[' :: s.takeWhile isNameChar ++ [']'] := by
  unfold kind?
  split
  · next s' heq =>
    cases heq
    split
    · next c cs rest htake hdrop =>
      simp only [htake, hdrop, Option.some.injEq, Prod.mk.injEq, ne_eq, reduceCtorEq,
        not_false_eq_true, List.cons.injEq, true_and]
      exact ⟨fun ⟨hk, hr⟩ => ⟨hr, hk.symm⟩, fun ⟨hr, hk⟩ => ⟨hk.symm, hr⟩⟩
    · next hno =>
      simp only [reduceCtorEq, false_iff, not_and]
      intro hne hdrop _
      obtain ⟨c, cs, htake⟩ := List.exists_cons_of_ne_nil hne
      exact hno c cs r htake hdrop
  · next hno => exact absurd rfl (hno s)

theorem kind?_append_iff {a b k r : Text} (hr : 3 ≤ r.length) :
    kind? (a ++ b) = some (k, r ++ b) ↔ kind? a = some (k, r) := by
  have hpos : 0 < r.length := by omega
  cases a with
  | nil =>
    -- nothing of the rest can come from an empty text
    constructor
    · intro h
      exact absurd (suffix_of_kind? h) (not_suffix_of_length_pos hpos)
    · intro h
      exact absurd (suffix_of_kind? h) (by simpa using not_suffix_of_length_pos (b := []) hpos)
  | cons c a =>
    by_cases hc : c = '['
    · subst hc
      rw [List.cons_append, kind?_bracket_eq_some_iff, kind?_bracket_eq_some_iff,
        ← List.cons_append, dropWhile_append_iff (List.cons_ne_nil _ _)]
      constructor <;> rintro ⟨hne, hdrop, hk⟩
      · rw [takeWhile_append_of_dropWhile (by simp [hdrop])] at hne hk
        exact ⟨hne, hdrop, hk⟩
      · rw [takeWhile_append_of_dropWhile (by simp [hdrop])]
        exact ⟨hne, hdrop, hk⟩
    · have hrun (t : Text) : kind? (c :: t) = run? isNameChar (c :: t) := by
        unfold kind?
        split
        · next heq =>
          cases heq
          exact absurd rfl hc
        · rfl
      rw [List.cons_append, hrun, hrun, ← List.cons_append]
      exact run?_append_iff hr

theorem targets?_append_iff {a b r : Text} {t : Option Text} (hr : 3 ≤ r.length) :
    targets? (a ++ b) = some (t, r ++ b) ↔ targets? a = some (t, r) := by
  have hpos : 0 < r.length := by omega
  cases a with
  | nil =>
    constructor
    · intro h
      exact absurd (suffix_of_targets? h) (not_suffix_of_length_pos hpos)
    · intro h
      exact absurd (suffix_of_targets? h) (by simpa using not_suffix_of_length_pos (b := []) hpos)
  | cons c a =>
    -- without a colon no targets are read, whatever follows
    by_cases hc : c = ':'
    · subst hc
      simp only [List.cons_append, targets?, Option.map_eq_some_iff, Prod.mk.injEq, Prod.exists]
      constructor
      · rintro ⟨x, r', h, rfl, rfl⟩
        exact ⟨x, r, (run?_append_iff hr).1 h, rfl, rfl⟩
      · rintro ⟨x, r', h, rfl, rfl⟩
        exact ⟨x, r' ++ b, (run?_append_iff hr).2 h, rfl, rfl⟩
    · have hnone (s : Text) : targets? (c :: s) = some (none, c :: s) := by
        unfold targets?
        split
        · next heq =>
          cases heq
          exact absurd rfl hc
        · rfl
      rw [List.cons_append, hnone, hnone, ← List.cons_append]
      simp only [Option.some.injEq, Prod.mk.injEq, List.append_left_inj]

/-! ## Parameters, values and the end of the comment -/

theorem notMem_commentEnd_of_isBlank {c : Char} (h : Text.isBlank c = true) : c ∉ commentEnd := by
  intro hmem
  have hall : ∀ c ∈ commentEnd, Text.isBlank c = false := by simp [commentEnd, Text.isBlank]
  rw [hall c hmem] at h
  cases h

theorem endOfComment?_eq_some_iff {s r : Text} :
    endOfComment? s = some r ↔ s.dropWhile Text.isBlank = commentEnd ++ r :=
  dropPrefix?_eq_some_iff

theorem endOfComment?_append_iff {a b r : Text} :
    endOfComment? (a ++ b) = some (r ++ b) ↔ endOfComment? a = some r := by
  rw [endOfComment?_eq_some_iff, endOfComment?_eq_some_iff, ← List.append_assoc]
  exact dropWhile_append_iff (by simp [commentEnd])

/-- The end of a comment takes three characters at least. -/
theorem length_of_endOfComment? {s r : Text} (h : endOfComment? s = some r) :
    r.length + 3 ≤ s.length := by
  have hle := (List.dropWhile_suffix Text.isBlank (l := s)).length_le
  rw [endOfComment?_eq_some_iff.1 h, List.length_append] at hle
  simp only [commentEnd, List.length_cons, List.length_nil] at hle
  omega

/-- A parameter: the text in the parentheses, which stand after spaces. -/
theorem params?_eq_some_iff {s p r : Text} :
    params? s = some (p, r) ↔ ∃ t, s.dropWhile isSpace = '(' :: t ∧
      t.dropWhile (fun c => c != ')' && c != '\n') = ')' :: r ∧
        p = t.takeWhile fun c => c != ')' && c != '\n' := by
  unfold params?
  split
  · next t ht =>
    split
    · next rest hd =>
      simp only [Option.some.injEq, Prod.mk.injEq, ht, List.cons.injEq, true_and]
      constructor
      · rintro ⟨rfl, rfl⟩
        exact ⟨t, rfl, hd, rfl⟩
      · rintro ⟨t', rfl, hd', rfl⟩
        rw [hd, List.cons.injEq] at hd'
        exact ⟨rfl, hd'.2⟩
    · next hno =>
      simp only [reduceCtorEq, ht, List.cons.injEq, true_and, false_iff, not_exists, not_and]
      rintro t' rfl hd
      exact absurd hd (hno r)
  · next hno =>
    simp only [reduceCtorEq, false_iff, not_exists, not_and]
    exact fun t ht => absurd ht (hno t)

theorem params?_append_iff {a b p r : Text} :
    params? (a ++ b) = some (p, r ++ b) ↔ params? a = some (p, r) := by
  rw [params?_eq_some_iff, params?_eq_some_iff]
  constructor
  · rintro ⟨t, hopen, hclose, rfl⟩
    have hlen := (List.dropWhile_suffix (l := t) fun c => c != ')' && c != '\n').length_le
    rw [hclose, List.length_cons, List.length_append] at hlen
    -- the text after the parenthesis reaches into `a`
    obtain ⟨t, rfl, -⟩ : ∃ t', t = t' ++ b ∧ t' <:+ a := by
      refine exists_append_of_suffix ?_ (by omega)
      exact (List.suffix_cons '(' t).trans (hopen ▸ List.dropWhile_suffix isSpace)
    rw [← List.cons_append, dropWhile_append_iff (List.cons_ne_nil _ _)] at hopen hclose
    refine ⟨t, hopen, hclose, takeWhile_append_of_dropWhile ?_⟩
    simp [hclose]
  · rintro ⟨t, hopen, hclose, rfl⟩
    refine ⟨t ++ b, ?_, ?_, (takeWhile_append_of_dropWhile ?_).symm⟩
    · rw [← List.cons_append, dropWhile_append_iff (List.cons_ne_nil _ _)]
      exact hopen
    · rw [← List.cons_append, dropWhile_append_iff (List.cons_ne_nil _ _)]
      exact hclose
    · simp [hclose]

/-- A value does not depend on what follows three characters after it. -/
theorem valueRun_append {a b : Text}
    (h : (valueRun a).length + 3 ≤ a.length ∨ (valueRun (a ++ b)).length + 3 ≤ a.length) :
    valueRun (a ++ b) = valueRun a := by
  induction a with
  | nil => simp at h
  | cons c a ih =>
    have hlen : commentEnd.length ≤ (c :: a).length := by
      simp only [commentEnd, List.length_cons, List.length_nil] at h ⊢
      omega
    simp only [List.cons_append, valueRun] at h ⊢
    rw [← List.cons_append, startsWith_append hlen] at h ⊢
    split
    · rfl
    · next hgo =>
      simp only [hgo, Bool.false_eq_true, if_false, List.length_cons] at h
      rw [ih (by omega)]

/-- A value is the beginning of the text it is read from. -/
theorem valueRun_prefix (s : Text) : valueRun s <+: s := by
  induction s with
  | nil => exact List.prefix_refl _
  | cons c s ih =>
    unfold valueRun
    split
    · exact List.nil_prefix
    · exact (List.prefix_cons_inj c).2 ih

theorem value?_eq_some_iff {s v r : Text} :
    value? s = some (v, r) ↔ s.dropWhile isSpace = v ++ r ∧ v ≠ [] ∧
      v = valueRun (s.dropWhile isSpace) ∧ (s.dropWhile isSpace).length ≠ s.length := by
  obtain ⟨w, hw⟩ := valueRun_prefix (s.dropWhile isSpace)
  unfold value?
  dsimp only
  split
  · next hlen => simp [hlen]
  · next hlen =>
    split
    · next hnil =>
      simp only [reduceCtorEq, hnil, false_iff, not_and]
      exact fun _ hne h => absurd h hne
    · next v' hv =>
      simp only [Option.some.injEq, Prod.mk.injEq]
      constructor
      · rintro ⟨hvr, rfl⟩
        subst hvr
        refine ⟨?_, hv, rfl, hlen⟩
        conv => rhs; rhs; rhs; rw [← hw]
        rw [List.drop_left, hw]
      · rintro ⟨hs, -, hvr, -⟩
        refine ⟨hvr.symm, ?_⟩
        rw [← hvr, hs, List.drop_left]

/-- A value that ends three characters before the end of `a` is read from `a`. -/
theorem value?_append_iff {a b v r : Text} (hr : 3 ≤ r.length) :
    value? (a ++ b) = some (v, r ++ b) ↔ value? a = some (v, r) := by
  rw [value?_eq_some_iff, value?_eq_some_iff, ← List.append_assoc]
  constructor
  · rintro ⟨hdrop, hne, hv, hlen⟩
    rw [dropWhile_append_iff (by simp [hne])] at hdrop
    have hwhole : (a ++ b).dropWhile isSpace = a.dropWhile isSpace ++ b :=
      (dropWhile_append_iff (by simp [hdrop, hne])).2 rfl
    rw [hwhole] at hv hlen
    refine ⟨hdrop, hne, ?_, ?_⟩
    · rw [hv]
      refine valueRun_append (Or.inr ?_)
      rw [← hv, hdrop, List.length_append]
      omega
    · simp only [List.length_append] at hlen
      omega
  · rintro ⟨hdrop, hne, hv, hlen⟩
    have hwhole : (a ++ b).dropWhile isSpace = a.dropWhile isSpace ++ b :=
      (dropWhile_append_iff (by simp [hdrop, hne])).2 rfl
    rw [hwhole]
    refine ⟨by rw [hdrop], hne, ?_, ?_⟩
    · rw [valueRun_append (Or.inl ?_), ← hv]
      rw [← hv, hdrop, List.length_append]
      omega
    · simp only [List.length_append]
      omega

theorem isBlank_of_isSpace {c : Char} (h : isSpace c = true) : Text.isBlank c = true := by
  simp only [isSpace, Bool.or_eq_true, decide_eq_true_eq] at h
  rcases h with rfl | rfl <;> rfl

/-- Spaces are blanks, so dropping them first changes nothing for blanks. -/
theorem dropWhile_isBlank_dropWhile_isSpace (s : Text) :
    (s.dropWhile isSpace).dropWhile Text.isBlank = s.dropWhile Text.isBlank := by
  induction s with
  | nil => rfl
  | cons c s ih =>
    by_cases hc : isSpace c = true
    · rw [List.dropWhile_cons_of_pos hc, ih, List.dropWhile_cons_of_pos (isBlank_of_isSpace hc)]
    · rw [List.dropWhile_cons_of_neg hc]

/-- Where the comment ends there is no value. -/
theorem value?_eq_none_of_endOfComment? {s r : Text} (h : endOfComment? s = some r) :
    value? s = none := by
  rw [endOfComment?_eq_some_iff, ← dropWhile_isBlank_dropWhile_isSpace] at h
  by_contra hsome
  obtain ⟨⟨v, rest⟩, hv⟩ := Option.ne_none_iff_exists'.1 hsome
  obtain ⟨-, hne, hrun, -⟩ := value?_eq_some_iff.1 hv
  cases hbody : s.dropWhile isSpace with
  | nil => simp [hbody, commentEnd] at h
  | cons c cs =>
    rw [hbody] at h hrun
    unfold valueRun at hrun
    split at hrun
    · exact hne hrun
    · next hgo =>
      -- the first character is no blank, so it is the first of `-->`
      simp only [Bool.or_eq_true, not_or] at hgo
      rw [List.dropWhile_cons_of_neg hgo.1] at h
      refine hgo.2 ?_
      rw [h, Text.startsWith, dropPrefix?_eq_some_iff.2 rfl]
      rfl

/-- A value and the end of the comment, or the end alone where there is no value. -/
theorem tail?_eq_some_iff {s r : Text} {v : Option Text} :
    tail? s = some (v, r) ↔
      (∃ w t, value? s = some (w, t) ∧ endOfComment? t = some r ∧ v = some w) ∨
        (value? s = none ∧ endOfComment? s = some r ∧ v = none) := by
  unfold tail?
  split
  · next w t hw =>
    simp only [hw, Option.map_eq_some_iff, Option.some.injEq, Prod.mk.injEq, reduceCtorEq,
      false_and, or_false]
    constructor
    · rintro ⟨r', hr, rfl, rfl⟩
      exact ⟨w, t, ⟨rfl, rfl⟩, hr, rfl⟩
    · rintro ⟨w', t', ⟨rfl, rfl⟩, hr, rfl⟩
      exact ⟨r, hr, rfl, rfl⟩
  · next hnone =>
    simp only [hnone, Option.map_eq_some_iff, Prod.mk.injEq, reduceCtorEq, false_and,
      exists_const, true_and, false_or]
    constructor
    · rintro ⟨r', hr, rfl, rfl⟩
      exact ⟨hr, rfl⟩
    · rintro ⟨hr, rfl⟩
      exact ⟨r, hr, rfl, rfl⟩

theorem tail?_append_iff {a b r : Text} {v : Option Text} :
    tail? (a ++ b) = some (v, r ++ b) ↔ tail? a = some (v, r) := by
  rw [tail?_eq_some_iff, tail?_eq_some_iff]
  constructor
  · rintro (⟨w, t, hw, hend, rfl⟩ | ⟨-, hend, rfl⟩)
    · left
      have hlen := length_of_endOfComment? hend
      rw [List.length_append] at hlen
      obtain ⟨t, rfl, -⟩ := exists_append_of_suffix (suffix_of_value? hw) (by omega)
      rw [List.length_append] at hlen
      exact ⟨w, t, (value?_append_iff (by omega)).1 hw, endOfComment?_append_iff.1 hend, rfl⟩
    · right
      have hend := endOfComment?_append_iff.1 hend
      exact ⟨value?_eq_none_of_endOfComment? hend, hend, rfl⟩
  · rintro (⟨w, t, hw, hend, rfl⟩ | ⟨-, hend, rfl⟩)
    · left
      have hlen := length_of_endOfComment? hend
      exact ⟨w, t ++ b, (value?_append_iff (by omega)).2 hw, endOfComment?_append_iff.2 hend, rfl⟩
    · right
      have hend := endOfComment?_append_iff (b := b) |>.2 hend
      exact ⟨value?_eq_none_of_endOfComment? hend, hend, rfl⟩

/-- What is left after the value and the end of the comment is shorter by three characters. -/
theorem length_of_tail? {s r : Text} {v : Option Text} (h : tail? s = some (v, r)) :
    r.length + 3 ≤ s.length := by
  rcases tail?_eq_some_iff.1 h with ⟨w, t, hw, hend, -⟩ | ⟨-, hend, -⟩
  · have h₁ := length_of_endOfComment? hend
    have h₂ := (suffix_of_value? hw).length_le
    omega
  · exact length_of_endOfComment? hend

/-- Parameter and value are read one after the other, and without the parameter only if that fails.
-/
theorem arguments?_eq_some_iff {s r : Text} {p v : Option Text} :
    arguments? s = some ((p, v), r) ↔
      (∃ q t, params? s = some (q, t) ∧ tail? t = some (v, r) ∧ p = some q) ∨
        ((∀ q t, params? s = some (q, t) → tail? t = none) ∧ tail? s = some (v, r) ∧
          p = none) := by
  -- without a parameter that leads to the end, the value is read from the start again
  have hplain : ((tail? s).map fun x => (((none : Option Text), x.1), x.2)) = some ((p, v), r) ↔
      tail? s = some (v, r) ∧ p = none := by
    simp only [Option.map_eq_some_iff, Prod.exists, Prod.mk.injEq]
    constructor
    · rintro ⟨w, u, hw, ⟨rfl, rfl⟩, rfl⟩
      exact ⟨hw, rfl⟩
    · rintro ⟨hw, rfl⟩
      exact ⟨v, r, hw, ⟨rfl, rfl⟩, rfl⟩
  unfold arguments?
  cases hp : params? s with
  | none => simpa using hplain
  | some qt =>
    obtain ⟨q, t⟩ := qt
    cases ht : tail? t with
    | none => simpa [ht] using hplain
    | some wu =>
      obtain ⟨w, u⟩ := wu
      simp only [ht, Option.map_some, Option.some.injEq, Prod.mk.injEq]
      constructor
      · rintro ⟨⟨rfl, rfl⟩, rfl⟩
        exact Or.inl ⟨q, t, ⟨rfl, rfl⟩, ht, rfl⟩
      · rintro (⟨q', t', ⟨rfl, rfl⟩, ht', rfl⟩ | ⟨hno, -, -⟩)
        · rw [ht] at ht'
          cases ht'
          exact ⟨⟨rfl, rfl⟩, rfl⟩
        · exact absurd (hno q t ⟨rfl, rfl⟩) (by simp [ht])

theorem length_of_arguments? {s r : Text} {pv : Option Text × Option Text}
    (h : arguments? s = some (pv, r)) : r.length + 3 ≤ s.length := by
  rcases arguments?_eq_some_iff.1 h with ⟨q, t, hq, ht, -⟩ | ⟨-, ht, -⟩
  · have h₁ := (suffix_of_params? hq).length_le
    have h₂ := length_of_tail? ht
    omega
  · exact length_of_tail? ht

/-- Arguments that end inside `a` are read from `a`. -/
theorem arguments?_of_append {a b r : Text} {p v : Option Text}
    (h : arguments? (a ++ b) = some ((p, v), r ++ b)) : arguments? a = some ((p, v), r) := by
  rw [arguments?_eq_some_iff] at h ⊢
  rcases h with ⟨q, t, hq, ht, rfl⟩ | ⟨hno, ht, rfl⟩
  · left
    have hlen := length_of_tail? ht
    rw [List.length_append] at hlen
    obtain ⟨t, rfl, -⟩ := exists_append_of_suffix (suffix_of_params? hq) (by omega)
    exact ⟨q, t, params?_append_iff.1 hq, tail?_append_iff.1 ht, rfl⟩
  · right
    refine ⟨fun q t hq => ?_, tail?_append_iff.1 ht, rfl⟩
    -- a parameter in `a` is one in `a ++ b`, and no end follows it there
    have hwhole := hno q (t ++ b) (params?_append_iff.2 hq)
    by_contra hsome
    obtain ⟨⟨w, u⟩, hu⟩ := Option.ne_none_iff_exists'.1 hsome
    rw [tail?_append_iff.2 hu] at hwhole
    cases hwhole

/-- Where `a` holds arguments, so does `a ++ b`: the parameter may only become longer. -/
theorem arguments?_append_ne_none {a b r : Text} {pv : Option Text × Option Text}
    (h : arguments? a = some (pv, r)) : arguments? (a ++ b) ≠ none := by
  obtain ⟨p, v⟩ := pv
  rcases arguments?_eq_some_iff.1 h with ⟨q, t, hq, ht, rfl⟩ | ⟨-, ht, rfl⟩
  · have hwhole : arguments? (a ++ b) = some ((some q, v), r ++ b) :=
      arguments?_eq_some_iff.2 (Or.inl
        ⟨q, t ++ b, params?_append_iff.2 hq, tail?_append_iff.2 ht, rfl⟩)
    simp [hwhole]
  · have ht := tail?_append_iff (b := b) |>.2 ht
    by_cases hno : ∀ q t, params? (a ++ b) = some (q, t) → tail? t = none
    · have hwhole := arguments?_eq_some_iff.2 (Or.inr ⟨hno, ht, rfl⟩)
      simp [hwhole]
    · push Not at hno
      obtain ⟨q, t, hq, hsome⟩ := hno
      obtain ⟨⟨w, u⟩, hu⟩ := Option.ne_none_iff_exists'.1 hsome
      have hwhole := arguments?_eq_some_iff.2 (Or.inl ⟨q, t, hq, hu, rfl⟩)
      simp [hwhole]

/-! ## Whole markers -/

/-- What follows the word, after the blanks before it. -/
theorem dropWhile_of_word? {word s r : Text} (h : word? word s = some r) :
    s.dropWhile Text.isBlank = word.dropWhile Text.isBlank ++ r := by
  unfold word? at h
  split at h
  · exact dropPrefix?_eq_some_iff.1 h
  · cases h

theorem word?_append_iff {word a b r : Text} (hr : r ≠ []) :
    word? word (a ++ b) = some (r ++ b) ↔ word? word a = some r := by
  -- the marker word leaves something, so the blanks before it stop inside `a`
  constructor
  · intro h
    have hs := dropWhile_of_word? h
    rw [← List.append_assoc, dropWhile_append_iff (by simp [hr])] at hs
    have hne : a.dropWhile Text.isBlank ≠ [] := by simp [hs, hr]
    unfold word? at h ⊢
    rw [takeWhile_append_of_dropWhile hne, (dropWhile_append_iff hne).2 rfl] at h
    split at h
    · next hends =>
      rw [if_pos hends]
      exact dropPrefix?_append_iff.1 h
    · cases h
  · intro h
    have hne : a.dropWhile Text.isBlank ≠ [] := by simp [dropWhile_of_word? h, hr]
    unfold word? at h ⊢
    rw [takeWhile_append_of_dropWhile hne, (dropWhile_append_iff hne).2 rfl]
    split at h
    · next hends =>
      rw [if_pos hends]
      exact dropPrefix?_append_iff.2 h
    · cases h

/-- The parts of an opening marker, and the texts between them. -/
theorem opening?_eq_some_iff {word s r : Text} {o : Opening} :
    opening? word s = some (o, r) ↔ ∃ s₁ s₂ s₃ s₄ s₅,
      Text.dropPrefix? commentStart s = some s₁ ∧ word? word s₁ = some s₂ ∧
        Text.dropPrefix? [':'] s₂ = some s₃ ∧ kind? s₃ = some (o.kind, s₄) ∧
          targets? s₄ = some (o.targets, s₅) ∧
            arguments? s₅ = some ((o.params, o.value), r) ∧
              o.text = s.take (s.length - r.length) := by
  simp only [opening?, Option.bind_eq_bind, Option.bind_eq_some_iff, Option.some.injEq,
    Prod.mk.injEq]
  constructor
  · rintro ⟨s₁, h₁, s₂, h₂, s₃, h₃, ⟨kind, s₄⟩, h₄, ⟨targets, s₅⟩, h₅, ⟨⟨params, value⟩, r⟩, h₆,
      rfl, rfl⟩
    exact ⟨s₁, s₂, s₃, s₄, s₅, h₁, h₂, h₃, h₄, h₅, h₆, rfl⟩
  · rintro ⟨s₁, s₂, s₃, s₄, s₅, h₁, h₂, h₃, h₄, h₅, h₆, htext⟩
    refine ⟨s₁, h₁, s₂, h₂, s₃, h₃, (o.kind, s₄), h₄, (o.targets, s₅), h₅,
      ((o.params, o.value), r), h₆, ?_, rfl⟩
    rw [← htext]

/-- The text of a marker is the same with and without what follows. -/
theorem take_append_of_length_le {a b r : Text} (h : r.length ≤ a.length) :
    (a ++ b).take ((a ++ b).length - (r ++ b).length) = a.take (a.length - r.length) := by
  rw [List.length_append, List.length_append, Nat.add_sub_add_right,
    List.take_append_of_le_length (by omega)]

/-- The texts after the word, the colon, the name and the targets of an opening marker become
shorter and all hold the end of the comment. -/
theorem length_of_parts {s₂ s₃ s₄ s₅ r k : Text} {t : Option Text}
    {pv : Option Text × Option Text} (h₃ : Text.dropPrefix? [':'] s₂ = some s₃)
    (h₄ : kind? s₃ = some (k, s₄)) (h₅ : targets? s₄ = some (t, s₅))
    (h₆ : arguments? s₅ = some (pv, r)) :
    r.length + 3 ≤ s₅.length ∧ s₅.length ≤ s₄.length ∧ s₄.length ≤ s₃.length ∧
      s₃.length < s₂.length := by
  refine ⟨length_of_arguments? h₆, (suffix_of_targets? h₅).length_le,
    (suffix_of_kind? h₄).length_le, ?_⟩
  rw [suffix_of_dropPrefix? h₃]
  simp

/-- **An opening marker that lies in `a` is read from `a`.** -/
theorem opening?_of_append {word a b r : Text} {o : Opening}
    (h : opening? word (a ++ b) = some (o, r ++ b)) : opening? word a = some (o, r) := by
  rw [opening?_eq_some_iff] at h ⊢
  obtain ⟨s₁, s₂, s₃, s₄, s₅, h₁, h₂, h₃, h₄, h₅, h₆, htext⟩ := h
  -- every text between the parts still holds the end of the comment, so it begins inside `a`
  obtain ⟨hlen₅, hlen₄, hlen₃, hlen₂⟩ := length_of_parts h₃ h₄ h₅ h₆
  have hlen₁ := (suffix_of_word? h₂).length_le
  rw [List.length_append] at hlen₅
  have hs₁ : s₁ <:+ a ++ b := suffix_of_dropPrefix? h₁ ▸ List.suffix_append _ _
  obtain ⟨s₁, rfl, ha₁⟩ := exists_append_of_suffix hs₁ (by omega)
  obtain ⟨s₂, rfl, ha₂⟩ := exists_append_of_suffix (suffix_of_word? h₂) (by omega)
  obtain ⟨s₃, rfl, ha₃⟩ := exists_append_of_suffix
    (suffix_of_dropPrefix? h₃ ▸ List.suffix_append _ s₃) (by omega)
  obtain ⟨s₄, rfl, ha₄⟩ := exists_append_of_suffix (suffix_of_kind? h₄) (by omega)
  obtain ⟨s₅, rfl, ha₅⟩ := exists_append_of_suffix (suffix_of_targets? h₅) (by omega)
  simp only [List.length_append] at hlen₁ hlen₂ hlen₃ hlen₄ hlen₅
  have hne₂ : s₂ ≠ [] := by
    rw [← List.length_pos_iff]
    omega
  refine ⟨s₁, s₂, s₃, s₄, s₅, dropPrefix?_append_iff.1 h₁, (word?_append_iff hne₂).1 h₂,
    dropPrefix?_append_iff.1 h₃, (kind?_append_iff (by omega)).1 h₄,
    (targets?_append_iff (by omega)).1 h₅, arguments?_of_append h₆, ?_⟩
  rw [htext]
  refine take_append_of_length_le ?_
  have := ha₁.length_le
  omega

/-- **Where `a` holds an opening marker, so does `a ++ b`.** -/
theorem opening?_append_ne_none {word a b r : Text} {o : Opening}
    (h : opening? word a = some (o, r)) : opening? word (a ++ b) ≠ none := by
  obtain ⟨s₁, s₂, s₃, s₄, s₅, h₁, h₂, h₃, h₄, h₅, h₆, -⟩ := opening?_eq_some_iff.1 h
  obtain ⟨hlen₅, hlen₄, hlen₃, hlen₂⟩ := length_of_parts h₃ h₄ h₅ h₆
  have hne₂ : s₂ ≠ [] := by
    rw [← List.length_pos_iff]
    omega
  obtain ⟨⟨pv, t⟩, hargs⟩ := Option.ne_none_iff_exists'.1 (arguments?_append_ne_none (b := b) h₆)
  have hwhole : opening? word (a ++ b) =
      some (⟨(a ++ b).take ((a ++ b).length - t.length), o.kind, o.targets, pv.1, pv.2⟩, t) :=
    opening?_eq_some_iff.2 ⟨s₁ ++ b, s₂ ++ b, s₃ ++ b, s₄ ++ b, s₅ ++ b,
      dropPrefix?_append_iff.2 h₁, (word?_append_iff hne₂).2 h₂, dropPrefix?_append_iff.2 h₃,
      (kind?_append_iff (by omega)).2 h₄, (targets?_append_iff (by omega)).2 h₅, hargs, rfl⟩
  simp [hwhole]

theorem closer?_eq_some_iff {s r : Text} :
    closer? s = some r ↔ s = '/' :: r ∨ s = ['e', 'n', 'd'] ++ r := by
  unfold closer?
  constructor
  · intro h
    cases hs : Text.dropPrefix? ['/'] s with
    | some r' =>
      rw [hs] at h
      cases h
      exact Or.inl (dropPrefix?_eq_some_iff.1 hs)
    | none =>
      rw [hs] at h
      exact Or.inr (dropPrefix?_eq_some_iff.1 h)
  · rintro (rfl | rfl)
    · rfl
    · simp [Text.dropPrefix?]

/-- The parts of a closing marker, and the texts between them. -/
theorem closing?_eq_some_iff {word s t r : Text} :
    closing? word s = some (t, r) ↔ ∃ s₁ s₂ s₃,
      Text.dropPrefix? commentStart s = some s₁ ∧ closer? (Text.trimStart s₁) = some s₂ ∧
        Text.dropPrefix? word s₂ = some s₃ ∧ endOfComment? s₃ = some r ∧
          t = s.take (s.length - r.length) := by
  simp only [closing?, Option.bind_eq_bind, Option.bind_eq_some_iff, Option.some.injEq,
    Prod.mk.injEq]
  constructor
  · rintro ⟨s₁, h₁, s₂, h₂, s₃, h₃, r, h₄, rfl, rfl⟩
    exact ⟨s₁, s₂, s₃, h₁, h₂, h₃, h₄, rfl⟩
  · rintro ⟨s₁, s₂, s₃, h₁, h₂, h₃, h₄, rfl⟩
    exact ⟨s₁, h₁, s₂, h₂, s₃, h₃, r, h₄, rfl, rfl⟩

/-- **A closing marker is read from `a` as it is from `a ++ b`.** -/
theorem closing?_append_iff {word a b t r : Text} :
    closing? word (a ++ b) = some (t, r ++ b) ↔ closing? word a = some (t, r) := by
  -- blanks stop before the slash or the `end`, which reach into `a`
  have hcloser {s₁ s₂ : Text} : closer? (Text.trimStart (s₁ ++ b)) = some (s₂ ++ b) ↔
      closer? (Text.trimStart s₁) = some s₂ := by
    simp only [closer?_eq_some_iff, Text.trimStart, ← List.cons_append, ← List.append_assoc]
    rw [dropWhile_append_iff (List.cons_ne_nil _ _), dropWhile_append_iff (by simp)]
  rw [closing?_eq_some_iff, closing?_eq_some_iff]
  constructor
  · rintro ⟨s₁, s₂, s₃, h₁, h₂, h₃, h₄, rfl⟩
    have hlen₃ := length_of_endOfComment? h₄
    rw [List.length_append] at hlen₃
    have hlen₂ := congrArg List.length (suffix_of_dropPrefix? h₃)
    rw [List.length_append] at hlen₂
    have hs₂ : s₂ <:+ s₁ := (suffix_of_closer? h₂).trans (List.dropWhile_suffix _)
    have hlen₁ := hs₂.length_le
    have hs₁ : s₁ <:+ a ++ b := suffix_of_dropPrefix? h₁ ▸ List.suffix_append _ _
    obtain ⟨s₁, rfl, ha₁⟩ := exists_append_of_suffix hs₁ (by omega)
    obtain ⟨s₂, rfl, ha₂⟩ := exists_append_of_suffix hs₂ (by omega)
    obtain ⟨s₃, rfl, ha₃⟩ := exists_append_of_suffix
      (suffix_of_dropPrefix? h₃ ▸ List.suffix_append _ s₃) (by omega)
    have hle := ((ha₃.trans ha₂).trans ha₁).length_le
    rw [List.length_append] at hlen₃
    exact ⟨s₁, s₂, s₃, dropPrefix?_append_iff.1 h₁, hcloser.1 h₂, dropPrefix?_append_iff.1 h₃,
      endOfComment?_append_iff.1 h₄, take_append_of_length_le (by omega)⟩
  · rintro ⟨s₁, s₂, s₃, h₁, h₂, h₃, h₄, rfl⟩
    have hlen₃ := length_of_endOfComment? h₄
    have hle : s₃.length ≤ a.length :=
      ((suffix_of_dropPrefix? h₃ ▸ List.suffix_append _ s₃ : s₃ <:+ s₂).trans
        ((suffix_of_closer? h₂).trans ((List.dropWhile_suffix _).trans
          (suffix_of_dropPrefix? h₁ ▸ List.suffix_append _ s₁)))).length_le
    exact ⟨s₁ ++ b, s₂ ++ b, s₃ ++ b, dropPrefix?_append_iff.2 h₁, hcloser.2 h₂,
      dropPrefix?_append_iff.2 h₃, endOfComment?_append_iff.2 h₄,
      (take_append_of_length_le (by omega)).symm⟩

end Marker

end BuildBlocks
