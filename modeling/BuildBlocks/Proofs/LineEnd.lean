import BuildBlocks.Proofs.Seam
import BuildBlocks.Proofs.Nesting

/-!
# Line ends behind opening markers

No marker reaches across a line end that stands right behind an opening marker. Markers run over the
ends of lines only where blanks are skipped, and blanks are skipped before the word and before the
end of the comment. Before such a line end stands the end of a comment, and neither part of a marker
that blanks may follow ends in this way: what an opening marker says does not hold the end of a
comment behind a blank, and a closing marker is too short to hold an opening one.

So the body of a block may be replaced by any text that starts with a line end and in which no
comment starts: the lexemes around it stay as they are (`Lexeme.lex_replace_body`). That holds for
marker words without blanks.

## The architecture

* **`getLast?_of_suffix`**: what is left of a text keeps its last character, the `>` of the end of a
  comment, until all of it is read.
* **one lemma for each part of a marker** that says what the part does not end with, up to
  `opening?_lineEnd` and `closing?_lineEnd`.
* **`Lexeme.lex_append_lineEnd`**: a text that ends with an opening marker is read before a line end
  as it is read alone.
-/

namespace BuildBlocks
namespace Marker

variable {word x y r v : Text}

/-! ## The last character -/

/-- What is left of a text ends as the text does. -/
theorem getLast?_of_suffix (h : y <:+ x) (hne : y ≠ []) : y.getLast? = x.getLast? := by
  obtain ⟨p, rfl⟩ := h
  rw [List.getLast?_append_of_ne_nil p hne]

/-- What is left of a text ends with `c` as the text does, if what was read does not. -/
theorem getLast?_of_append {p : Text} {c : Char} (h : (p ++ y).getLast? = some c)
    (hp : p.getLast? ≠ some c) : y.getLast? = some c := by
  rw [List.getLast?_append] at h
  cases hy : y.getLast? with
  | none =>
    rw [hy, Option.none_or] at h
    exact absurd h hp
  | some d =>
    rw [hy] at h
    exact h

theorem getLast?_ne_of_notMem {p : Text} {c : Char} (h : c ∉ p) : p.getLast? ≠ some c :=
  fun hlast => h (List.mem_of_getLast? hlast)

theorem dropWhile_isBlank_ne_nil (h : y.getLast? = some '>') : y.dropWhile Text.isBlank ≠ [] := by
  rw [Ne, List.dropWhile_eq_nil_iff]
  intro hall
  exact absurd (hall '>' (List.mem_of_getLast? h)) (by decide)

/-- Blanks at the start of a text that ends with `>` stop in it. -/
theorem dropWhile_isBlank_append (h : y.getLast? = some '>') :
    (y ++ v).dropWhile Text.isBlank = y.dropWhile Text.isBlank ++ v := by
  rw [List.dropWhile_append, if_neg (by simpa using dropWhile_isBlank_ne_nil h)]

theorem getLast?_dropWhile_isBlank (h : y.getLast? = some '>') :
    (y.dropWhile Text.isBlank).getLast? = some '>' :=
  (getLast?_of_suffix (List.dropWhile_suffix _) (dropWhile_isBlank_ne_nil h)).trans h

/-- Blanks at the start of a text stop before an end of the text that starts with something else. -/
theorem suffix_dropWhile_isBlank {c : Char} (h : c :: y <:+ x) (hc : Text.isBlank c = false) :
    c :: y <:+ x.dropWhile Text.isBlank := by
  obtain ⟨p, rfl⟩ := h
  rw [List.dropWhile_append]
  split
  · exact ⟨[], (List.dropWhile_cons_of_neg (by simp [hc])).symm⟩
  · exact List.suffix_append _ _

/-! ## What the parts of an opening marker end with -/

theorem exists_append_of_kind? {s k : Text} (h : kind? s = some (k, r)) :
    ∃ p, s = p ++ r ∧ '>' ∉ p := by
  have hname : isNameChar '>' = false := by decide
  have hrun {s : Text} (h : run? isNameChar s = some (k, r)) : ∃ p, s = p ++ r ∧ '>' ∉ p :=
    ⟨k, (run?_eq_some_iff.1 h).1, notMem_of_run? hname h⟩
  cases s with
  | nil => exact hrun h
  | cons c s =>
    by_cases hc : c = '['
    · subst hc
      obtain ⟨-, hclose, -⟩ := kind?_bracket_eq_some_iff.1 h
      have hs := List.takeWhile_append_dropWhile (p := isNameChar) (l := s)
      rw [hclose] at hs
      refine ⟨'[' :: s.takeWhile isNameChar ++ [']'], ?_, ?_⟩
      · rw [List.append_assoc, List.cons_append, List.singleton_append, hs]
      · simpa using notMem_takeWhile hname s
    · refine hrun ?_
      rw [← h, kind?]
      intro s hs
      exact hc (List.cons.inj hs).1

theorem exists_append_of_targets? {s : Text} {t : Option Text} (h : targets? s = some (t, r)) :
    ∃ p, s = p ++ r ∧ '>' ∉ p := by
  unfold targets? at h
  split at h
  · obtain ⟨⟨run, r'⟩, hrun, heq⟩ := Option.map_eq_some_iff.1 h
    cases heq
    refine ⟨':' :: run, by rw [(run?_eq_some_iff.1 hrun).1]; rfl, ?_⟩
    rw [List.mem_cons, not_or]
    exact ⟨by decide, notMem_of_run? (by decide) hrun⟩
  · cases h
    exact ⟨[], rfl, by simp⟩

theorem exists_append_of_params? {s q : Text} (h : params? s = some (q, r)) :
    ∃ p, s = p ++ '(' :: (q ++ ')' :: r) ∧ ∀ c ∈ p, isSpace c = true := by
  obtain ⟨t, hopen, hclose, rfl⟩ := params?_eq_some_iff.1 h
  have hs := List.takeWhile_append_dropWhile (p := isSpace) (l := s)
  have ht := List.takeWhile_append_dropWhile (p := fun c => c != ')' && c != '\n') (l := t)
  rw [hclose] at ht
  rw [hopen] at hs
  refine ⟨s.takeWhile isSpace, ?_, fun c hc => List.mem_takeWhile_imp hc⟩
  rw [ht, hs]

/-- The type of a block does not end with `>`. -/
theorem kind?_getLast? {s k : Text} (h : kind? s = some (k, r)) :
    ∃ p, s = p ++ r ∧ p.getLast? ≠ some '>' := by
  obtain ⟨p, hs, hp⟩ := exists_append_of_kind? h
  exact ⟨p, hs, getLast?_ne_of_notMem hp⟩

/-- Targets do not end with `>`. -/
theorem targets?_getLast? {s : Text} {t : Option Text} (h : targets? s = some (t, r)) :
    ∃ p, s = p ++ r ∧ p.getLast? ≠ some '>' := by
  obtain ⟨p, hs, hp⟩ := exists_append_of_targets? h
  exact ⟨p, hs, getLast?_ne_of_notMem hp⟩

/-- A parameter in parentheses does not end with `>`. -/
theorem params?_getLast? {s q : Text} (h : params? s = some (q, r)) :
    ∃ p, s = p ++ r ∧ p.getLast? ≠ some '>' := by
  obtain ⟨p, rfl, -⟩ := exists_append_of_params? h
  refine ⟨p ++ '(' :: q ++ [')'], by simp, ?_⟩
  rw [List.getLast?_concat]
  decide

/-- A bare value stops at the end of a comment. -/
theorem valueRun_commentEnd_prefix (z w : Text) : valueRun (z ++ commentEnd ++ w) <+: z := by
  induction z with
  | nil =>
    have hstart : Text.startsWith (commentEnd ++ w) commentEnd = true := rfl
    have hnil : valueRun ([] ++ commentEnd ++ w) = [] := by
      show valueRun ('-' :: '-' :: '>' :: w) = []
      rw [valueRun, if_pos]
      rw [Bool.or_eq_true]
      exact .inr hstart
    exact hnil ▸ List.nil_prefix
  | cons c z ih =>
    rw [List.cons_append, List.cons_append, valueRun]
    split
    · exact List.nil_prefix
    · exact List.cons_prefix_cons.2 ⟨rfl, ih⟩

/-- A bare value that starts before a line end behind the end of a comment stops before that end. -/
theorem value?_lineEnd {w : Text} (hend : commentEnd <:+ x) (hy : y <:+ x) (hne : y ≠ [])
    (h : value? (y ++ '\n' :: v) = some (w, r)) :
    ∃ z, r = z ++ '\n' :: v ∧ z.getLast? = some '>' := by
  obtain ⟨hs, -, hw, hlen⟩ := value?_eq_some_iff.1 h
  rw [dropWhile_append_cons (by decide)] at hs hw hlen
  -- spaces stand before the value, so it does not start in the end of the comment
  have hcomment : commentEnd <:+ y := by
    rcases List.suffix_or_suffix_of_suffix hend hy with hcomment | hinside
    · exact hcomment
    · exfalso
      refine hlen (congrArg (fun s => (s ++ '\n' :: v).length) ?_)
      obtain ⟨c, y, rfl⟩ := List.exists_cons_of_ne_nil hne
      refine List.dropWhile_cons_of_neg ?_
      have hc : ∀ c ∈ commentEnd, ¬ isSpace c = true := by simp [commentEnd, isSpace]
      exact hc c (hinside.mem List.mem_cons_self)
  obtain ⟨z, rfl⟩ := hcomment
  have hspaces : (z ++ commentEnd).dropWhile isSpace = z.dropWhile isSpace ++ commentEnd := by
    rw [List.dropWhile_append]
    split
    · next hnil =>
      rw [List.isEmpty_iff.1 hnil]
      rfl
    · rfl
  rw [hspaces] at hs hw
  obtain ⟨u, hu⟩ := hw ▸ valueRun_commentEnd_prefix (z.dropWhile isSpace) ('\n' :: v)
  refine ⟨u ++ commentEnd, ?_, by simp [commentEnd]⟩
  rw [← hu, List.append_assoc, List.append_assoc, List.append_cancel_left_eq] at hs
  rw [← hs, List.append_assoc]

/-! ## Whole markers -/

theorem endOfComment?_lineEnd (hy : y.getLast? = some '>')
    (h : endOfComment? (y ++ '\n' :: v) = some r) : ∃ z, r = z ++ '\n' :: v := by
  have hs := endOfComment?_eq_some_iff.1 h
  rw [dropWhile_isBlank_append hy] at hs
  exact exists_rest hs (by decide)

theorem tail?_lineEnd {w : Option Text} (hend : commentEnd <:+ x) (hsuffix : y <:+ x)
    (hy : y.getLast? = some '>') (h : tail? (y ++ '\n' :: v) = some (w, r)) :
    ∃ z, r = z ++ '\n' :: v := by
  rcases tail?_eq_some_iff.1 h with ⟨w, t, hvalue, hclose, -⟩ | ⟨-, hclose, -⟩
  · have hne : y ≠ [] := fun hnil => by simp [hnil] at hy
    obtain ⟨z, rfl, hz⟩ := value?_lineEnd hend hsuffix hne hvalue
    exact endOfComment?_lineEnd hz hclose
  · exact endOfComment?_lineEnd hy hclose

/-- A part of a marker that stops before a line end leaves a text that ends as the one before. -/
theorem exists_rest_getLast? (hy : y.getLast? = some '>') (hrest : ∃ z, r = z ++ v)
    (hread : ∃ p, y ++ v = p ++ r ∧ p.getLast? ≠ some '>') :
    ∃ z, r = z ++ v ∧ z <:+ y ∧ z.getLast? = some '>' := by
  obtain ⟨z, rfl⟩ := hrest
  obtain ⟨p, hp, hlast⟩ := hread
  rw [← List.append_assoc, List.append_left_inj] at hp
  subst hp
  exact ⟨z, rfl, List.suffix_append p z, getLast?_of_append hy hlast⟩

/-- **No opening marker reaches across a line end behind the end of a comment.** -/
theorem opening?_lineEnd (hword : ∀ c ∈ word, Text.isBlank c = false) (hend : commentEnd <:+ x)
    {o : Opening} (h : opening? word (x ++ '\n' :: v) = some (o, r)) :
    ∃ z, r = z ++ '\n' :: v := by
  obtain ⟨s₁, s₂, s₃, s₄, s₅, h₁, h₂, h₃, h₄, h₅, h₆, -⟩ := opening?_eq_some_iff.1 h
  have hx : x.getLast? = some '>' := (getLast?_of_suffix hend (by decide)).symm
  obtain ⟨y₁, rfl, hsuffix₁, hy₁⟩ := exists_rest_getLast? hx (dropPrefix?_seam (by decide) h₁)
    ⟨commentStart, dropPrefix?_eq_some_iff.1 h₁, by decide⟩
  -- the blanks before the word stop before the line end, and the word and the colon hold none
  have hword₂ := word?_of_blankless hword h₂
  rw [dropPrefix?_eq_some_iff.1 h₃, ← List.append_assoc, dropWhile_isBlank_append hy₁] at hword₂
  have hblanks : y₁.dropWhile Text.isBlank <:+ y₁ := List.dropWhile_suffix _
  obtain ⟨y₃, rfl, hsuffix₃, hy₃⟩ := exists_rest_getLast? (getLast?_dropWhile_isBlank hy₁)
    (exists_rest hword₂ (by simpa using newline_notMem_of_blankless hword))
    ⟨word ++ [':'], hword₂, by rw [List.getLast?_concat]; decide⟩
  obtain ⟨y₄, rfl, hsuffix₄, hy₄⟩ := exists_rest_getLast? hy₃ (kind?_seam h₄) (kind?_getLast? h₄)
  obtain ⟨y₅, rfl, hsuffix₅, hy₅⟩ :=
    exists_rest_getLast? hy₄ (targets?_seam h₅) (targets?_getLast? h₅)
  have hsuffix : y₅ <:+ x :=
    hsuffix₅.trans (hsuffix₄.trans (hsuffix₃.trans (hblanks.trans hsuffix₁)))
  rcases arguments?_eq_some_iff.1 h₆ with ⟨q, t, hparams, htail, -⟩ | ⟨-, htail, -⟩
  · obtain ⟨y₆, rfl, hsuffix₆, hy₆⟩ :=
      exists_rest_getLast? hy₅ (params?_seam hparams) (params?_getLast? hparams)
    exact tail?_lineEnd hend (hsuffix₆.trans hsuffix) hy₆ htail
  · exact tail?_lineEnd hend hsuffix hy₅ htail

/-- An opening marker ends with the end of a comment. -/
theorem commentEnd_suffix_of_opening? {s : Text} {o : Opening} (h : opening? word s = some (o, r)) :
    commentEnd ++ r <:+ s := by
  obtain ⟨s₁, s₂, s₃, s₄, s₅, h₁, h₂, h₃, h₄, h₅, h₆, -⟩ := opening?_eq_some_iff.1 h
  have hclose {s : Text} (h : endOfComment? s = some r) : commentEnd ++ r <:+ s :=
    endOfComment?_eq_some_iff.1 h ▸ List.dropWhile_suffix _
  have htail {s : Text} {w : Option Text} (h : tail? s = some (w, r)) : commentEnd ++ r <:+ s := by
    rcases tail?_eq_some_iff.1 h with ⟨w, t, hvalue, hend, -⟩ | ⟨-, hend, -⟩
    · exact (hclose hend).trans (suffix_of_value? hvalue)
    · exact hclose hend
  have hargs : commentEnd ++ r <:+ s₅ := by
    rcases arguments?_eq_some_iff.1 h₆ with ⟨q, t, hparams, h, -⟩ | ⟨-, h, -⟩
    · exact (htail h).trans (suffix_of_params? hparams)
    · exact htail h
  refine hargs.trans ((suffix_of_targets? h₅).trans ((suffix_of_kind? h₄).trans ?_))
  refine (dropPrefix?_eq_some_iff.1 h₃ ▸ List.suffix_append _ _ : s₃ <:+ s₂).trans ?_
  exact (suffix_of_word? h₂).trans (dropPrefix?_eq_some_iff.1 h₁ ▸ List.suffix_append _ _)

/-- What an opening marker holds: its word and a colon, and at least three characters after them. -/
theorem exists_core_of_opening? (hword : ∀ c ∈ word, Text.isBlank c = false) {m : Text} {o : Opening}
    (h : opening? word m = some (o, r)) :
    ∃ m₁ m₃, m = commentStart ++ m₁ ∧ 3 ≤ m₃.length ∧ word ++ ':' :: m₃ <:+ m₁ := by
  obtain ⟨m₁, m₂, m₃, m₄, m₅, h₁, h₂, h₃, h₄, h₅, h₆, -⟩ := opening?_eq_some_iff.1 h
  have hlen : 3 ≤ m₃.length := by
    obtain ⟨hlen₅, hlen₄, hlen₃, -⟩ := length_of_parts h₃ h₄ h₅ h₆
    omega
  refine ⟨m₁, m₃, dropPrefix?_eq_some_iff.1 h₁, hlen, ?_⟩
  have hcolon : m₂ = ':' :: m₃ := dropPrefix?_eq_some_iff.1 h₃
  rw [← hcolon, ← word?_of_blankless hword h₂]
  exact List.dropWhile_suffix _

/-- Blanks at the start of a text stop before a word without blanks and its colon. -/
theorem suffix_dropWhile_of_word (hword : ∀ c ∈ word, Text.isBlank c = false)
    (h : word ++ ':' :: y <:+ x) : word ++ ':' :: y <:+ x.dropWhile Text.isBlank := by
  cases word with
  | nil => exact suffix_dropWhile_isBlank h (by decide)
  | cons c word => exact suffix_dropWhile_isBlank h (hword c List.mem_cons_self)

/-- What closes a block is short. -/
theorem exists_append_of_closer? {s : Text} (h : closer? s = some r) :
    ∃ p, s = p ++ r ∧ p.length ≤ 3 ∧ '\n' ∉ p := by
  rcases closer?_eq_some_iff.1 h with hslash | hend
  · exact ⟨['/'], hslash, by decide, by decide⟩
  · exact ⟨_, hend, by decide, by decide⟩

/-- **No closing marker that starts at an opening marker or before it reaches across a line end
behind the opening marker.** A closing marker is too short for that. -/
theorem closing?_lineEnd (hword : ∀ c ∈ word, Text.isBlank c = false) {a m t : Text} {o : Opening}
    (hm : opening? word m = some (o, [])) (h : closing? word (a ++ m ++ '\n' :: v) = some (t, r)) :
    ∃ z, r = z ++ '\n' :: v := by
  have hend : commentEnd <:+ m := commentEnd_suffix_of_opening? hm
  have hx : (a ++ m).getLast? = some '>' :=
    (getLast?_of_suffix (hend.trans (List.suffix_append a m)) (by decide)).symm
  obtain ⟨m₁, m₃, hstart, hlen, hcore⟩ := exists_core_of_opening? hword hm
  obtain ⟨s₁, s₂, s₃, h₁, h₂, h₃, h₄, -⟩ := closing?_eq_some_iff.1 h
  obtain ⟨y₁, rfl, hsuffix₁, hy₁⟩ := exists_rest_getLast? hx (dropPrefix?_seam (by decide) h₁)
    ⟨commentStart, dropPrefix?_eq_some_iff.1 h₁, by decide⟩
  -- the closing marker does not start later, so all that stands before the line end and after its
  -- start is too long for what it reads there
  have hcore₁ : word ++ ':' :: m₃ <:+ y₁ := by
    have hlength := congrArg List.length (dropPrefix?_eq_some_iff.1 h₁)
    have hlength' := congrArg List.length hstart
    have hmsuffix : m₁ <:+ a ++ m :=
      (hstart ▸ List.suffix_append commentStart m₁ : m₁ <:+ m).trans (List.suffix_append a m)
    refine hcore.trans (List.suffix_of_suffix_length_le hmsuffix hsuffix₁ ?_)
    simp only [List.length_append, List.length_cons] at hlength hlength'
    omega
  have hcore₂ := suffix_dropWhile_of_word hword hcore₁
  rw [Text.trimStart, dropWhile_isBlank_append hy₁] at h₂
  obtain ⟨p, hp, hplen, hpline⟩ := exists_append_of_closer? h₂
  obtain ⟨y₂, rfl⟩ := exists_rest hp hpline
  obtain ⟨y₃, rfl⟩ := dropPrefix?_seam (newline_notMem_of_blankless hword) h₃
  rw [← List.append_assoc, List.append_left_inj] at hp
  have hs₃ := dropPrefix?_eq_some_iff.1 h₃
  rw [← List.append_assoc, List.append_left_inj] at hs₃
  have hy₃ : y₃ ≠ [] := by
    rintro rfl
    have hlength := hcore₂.length_le
    rw [hp, hs₃] at hlength
    simp only [List.length_append, List.length_cons, List.length_nil] at hlength
    omega
  have hsuffix : y₃ <:+ y₁.dropWhile Text.isBlank := by
    rw [hp, hs₃]
    exact (List.suffix_append word y₃).trans (List.suffix_append p _)
  refine endOfComment?_lineEnd ?_ h₄
  rw [getLast?_of_suffix hsuffix hy₃]
  exact getLast?_dropWhile_isBlank hy₁

end Marker

/-! ## Lexemes before a line end -/

namespace Lexeme

variable {word page : Text}

/-- **A text that ends with an opening marker is read before a line end as it is read alone.** -/
theorem lex_append_lineEnd (hword : ∀ c ∈ word, Text.isBlank c = false) {s : Text}
    {ls : List Lexeme} {o : Opening} (h : lex word s = ls ++ [.opening o]) (v : Text) :
    lex word (s ++ '\n' :: v) = ls ++ .opening o :: lex word ('\n' :: v) := by
  fun_induction lex word s generalizing ls with
  | case1 => simp at h
  | case2 c cs ih =>
    -- the opening marker stands at the end of the text
    have hm : Marker.opening? word o.text = some (o, []) := by
      have hlex : lex word (c :: cs) = ls ++ [.opening o] := by rw [lex, h]
      have hmarker := opening?_of_lex_eq hlex
      rw [(lex_drop_of_lex_eq hlex).1] at hmarker
      simpa [texts, text] using hmarker
    have htext : c :: cs = texts ls ++ o.text := by
      rw [← texts_lex word (c :: cs), lex, h, Span.texts_append]
      simp [texts, text]
    have hend : Marker.commentEnd <:+ c :: cs := by
      rw [htext]
      exact (Marker.commentEnd_suffix_of_opening? hm).trans (List.suffix_append _ _)
    have hfirst : first word c (cs ++ '\n' :: v) =
        ((first word c cs).1, (first word c cs).2 ++ '\n' :: v) :=
      first_append_of_rest (fun _ _ => Marker.opening?_lineEnd hword hend) fun t r hclosing => by
        rw [htext] at hclosing
        exact Marker.closing?_lineEnd hword hm hclosing
    rw [List.cons_append, lex, hfirst]
    cases ls with
    | nil =>
      obtain ⟨hopening, hrest⟩ := List.cons.inj h
      have hnil : (first word c cs).2 = [] := by
        rw [← texts_lex word (first word c cs).2, hrest]
        rfl
      rw [hopening, hnil]
      rfl
    | cons l ls =>
      obtain ⟨hl, hrest⟩ := List.cons.inj h
      rw [hl]
      exact congrArg (l :: ·) (ih hrest)

/-- A text in which no comment starts is read as characters before a tag. -/
theorem lex_append_of_uncommented {t : Text} (h : ¬ Marker.commentStart <:+: t) (w : Text) :
    lex word (t ++ '<' :: w) = t.map .char ++ lex word ('<' :: w) := by
  induction t with
  | nil => rfl
  | cons c t ih =>
    have hfirst : first word c (t ++ '<' :: w) = (.char c, t ++ '<' :: w) := by
      refine first_eq_char fun hstart => ?_
      rcases List.prefix_or_prefix_of_prefix hstart (List.prefix_append (c :: t) ('<' :: w)) with
        hinside | ⟨q, hq⟩
      · exact h hinside.isInfix
      · -- the tag would be a later character of the start of a comment
        rw [← hq, ← List.cons_append, List.prefix_append_right_inj] at hstart
        cases q with
        | nil =>
          rw [List.append_nil] at hq
          exact h (hq ▸ List.infix_rfl)
        | cons d q =>
          obtain ⟨rfl, -⟩ := List.cons_prefix_cons.1 hstart
          have hrest : t ++ '<' :: q = ['!', '-', '-'] := (List.cons.inj hq).2
          have hmem : '<' ∈ t ++ '<' :: q := List.mem_append_right t List.mem_cons_self
          rw [hrest] at hmem
          exact absurd hmem (by decide)
    rw [List.cons_append, lex, hfirst]
    exact congrArg (.char c :: ·) (ih fun hlater => h (hlater.trans (List.suffix_cons c t).isInfix))

/-- A closing marker starts with a tag. -/
theorem exists_tag_of_closing {s : Text} {ls : List Lexeme}
    (h : lex word page = .closing s :: ls) : ∃ w, page = '<' :: w := by
  cases page with
  | nil => simp [lex] at h
  | cons c cs =>
    rw [lex, List.cons.injEq] at h
    obtain ⟨hfirst, -⟩ := h
    unfold first at hfirst
    split at hfirst
    · cases hfirst
    · split at hfirst
      · next hclosing =>
        obtain ⟨s₁, -, -, h₁, -⟩ := Marker.closing?_eq_some_iff.1 hclosing
        exact ⟨_, Marker.dropPrefix?_eq_some_iff.1 h₁⟩
      · cases hfirst

/-- **Replacing the body of a block** by a text that starts with a line end, and in which no comment
starts, leaves the lexemes around the body as they are. -/
theorem lex_replace_body (hword : ∀ c ∈ word, Text.isBlank c = false)
    {before body after : List Lexeme} {o : Opening} {s t : Text}
    (h : lex word page = before ++ .opening o :: (body ++ .closing s :: after))
    (ht : ¬ Marker.commentStart <:+: '\n' :: t) :
    lex word (texts (before ++ [.opening o]) ++ '\n' :: t ++ texts (.closing s :: after)) =
      before ++ .opening o :: (('\n' :: t).map .char ++ .closing s :: after) := by
  have hopening : lex word page = before ++ [.opening o] ++ (body ++ .closing s :: after) := by
    rw [h]
    simp
  have hclosing : lex word page = before ++ .opening o :: body ++ .closing s :: after := by
    rw [h]
    simp
  have hfront : lex word (texts (before ++ [.opening o])) = before ++ [.opening o] :=
    lex_texts_of_lex_eq_append hopening
  have hback : lex word (texts (.closing s :: after)) = .closing s :: after :=
    lex_texts_of_append_eq_lex hclosing
  obtain ⟨w, hw⟩ := exists_tag_of_closing hback
  rw [List.append_assoc, List.cons_append, lex_append_lineEnd hword hfront, hw, ← List.cons_append,
    lex_append_of_uncommented ht, ← hw, hback]

end Lexeme
end BuildBlocks
