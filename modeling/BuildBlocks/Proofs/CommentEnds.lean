import BuildBlocks.Proofs.BodyLocality
import BuildBlocks.Proofs.LineEnd
import BuildBlocks.Proofs.Margins

/-!
# Ends of comments in opening markers

An opening marker ends with the end of a comment. It has one before only if its parameter holds one,
or if its word makes one with the dashes that start the comment (`Span.Nested.endsInside_iff`): a
bare value stops at the end of a comment, while parentheses run to the first closing one on the
line. So an opening marker whose parenthesis is not closed can reach over the end of its comment,
and over other comments behind it (`Span.exists_marker_over_comments`).

That holds for marker words in which no comment ends.

## The architecture

* **`Text.infix_append_cons_iff`**: a character that the end of a comment does not hold parts the
  places where one can be.
* **`tail?_commentEnds`**, **`arguments?_commentEnds`**: where a comment ends in what stands behind
  the targets.
* **`opening?_commentEnds`**: where a comment ends in a marker.
-/

namespace BuildBlocks

namespace Text

/-! ## Where a text can occur -/

section Occurrences

variable {p x y : Text} {b : Char}

theorem not_infix_of_forall_notMem (hne : p ≠ []) (hx : ∀ c ∈ x, c ∉ p) : ¬ p <:+: x := by
  intro h
  obtain ⟨c, hc⟩ := List.exists_mem_of_ne_nil p hne
  exact hx c (h.subset hc) hc

theorem infix_cons_iff_of_notMem (hne : p ≠ []) (hb : b ∉ p) : p <:+: b :: y ↔ p <:+: y := by
  rw [List.infix_cons_iff]
  refine or_iff_right fun hbegins => hne ?_
  exact List.prefix_nil.1 (Marker.prefix_of_prefix_append_cons (x := []) hb hbegins)

/-- **A character that does not belong to `p` parts the places where `p` occurs.** -/
theorem infix_append_cons_iff (hne : p ≠ []) (hb : b ∉ p) :
    p <:+: x ++ b :: y ↔ p <:+: x ∨ p <:+: y := by
  constructor
  · intro h
    induction x with
    | nil => exact .inr ((infix_cons_iff_of_notMem hne hb).1 h)
    | cons c x ih =>
      rw [List.cons_append] at h
      rcases List.infix_cons_iff.1 h with hbegins | hoccurs
      · exact .inl (Marker.prefix_of_prefix_append_cons (x := c :: x) hb hbegins).isInfix
      · rcases ih hoccurs with hleft | hright
        · exact .inl (hleft.trans (List.suffix_cons c x).isInfix)
        · exact .inr hright
  · intro h
    rcases h with hleft | hright
    · exact hleft.trans (List.prefix_append x (b :: y)).isInfix
    · exact hright.trans ((List.suffix_cons b y).trans (List.suffix_append x (b :: y))).isInfix

/-- Characters that do not belong to `p` may be put before a text. -/
theorem infix_append_left_iff (hne : p ≠ []) (hx : ∀ c ∈ x, c ∉ p) : p <:+: x ++ y ↔ p <:+: y := by
  induction x with
  | nil => rfl
  | cons c x ih =>
    rw [List.forall_mem_cons] at hx
    rw [List.cons_append, infix_cons_iff_of_notMem hne hx.1, ih hx.2]

/-- Characters that do not belong to `p` may be put behind a text. -/
theorem infix_append_right_iff (hne : p ≠ []) (hy : ∀ c ∈ y, c ∉ p) : p <:+: x ++ y ↔ p <:+: x := by
  cases y with
  | nil => rw [List.append_nil]
  | cons c y =>
    rw [List.forall_mem_cons] at hy
    rw [infix_append_cons_iff hne hy.1]
    exact or_iff_left (not_infix_of_forall_notMem hne hy.2)

end Occurrences

end Text

namespace Marker

variable {word r s t x z : Text}

/-! ## Ends of comments -/

/-- Whether the end of a comment stands in `t` before its end. -/
def EndsInside (t : Text) : Prop := ∃ x y, t = x ++ commentEnd ++ y ∧ y ≠ []

theorem commentEnd_ne_nil : commentEnd ≠ [] := by decide

/-- An end of a comment before another one does not take dashes from it. -/
theorem endsInside_append_iff : EndsInside (z ++ commentEnd) ↔ commentEnd <:+: z := by
  constructor
  · intro h
    obtain ⟨x, y, heq, hy⟩ := h
    obtain rfl | ⟨y, c, rfl⟩ := List.eq_nil_or_concat y
    · exact absurd rfl hy
    · have hlast : z ++ ['-', '-'] ++ ['>'] = x ++ ['-', '-'] ++ '>' :: y ++ [c] := by
        simpa [commentEnd] using heq
      have hdashes : z ++ ['-', '-'] = x ++ ['-', '-'] ++ '>' :: y :=
        (List.append_inj' hlast rfl).1
      -- the `>` that was found stands in the last dashes or before them
      rcases List.append_eq_append_iff.1 hdashes with ⟨q, -, hq⟩ | ⟨q, rfl, hq⟩
      · have hmem : '>' ∈ ['-', '-'] := by
          rw [hq]
          simp
        exact absurd hmem (by decide)
      · rcases List.cons_eq_append_iff.1 hq with ⟨-, hfirst⟩ | ⟨q, rfl, -⟩
        · cases hfirst
        · exact ⟨x, q, by simp [commentEnd]⟩
  · intro h
    obtain ⟨x, y, hz⟩ := h
    exact ⟨x, y ++ commentEnd, by rw [← hz]; simp, by simp [commentEnd]⟩

/-- Behind the start of a comment its dashes can belong to the end of one. -/
theorem infix_commentStart_append_iff :
    commentEnd <:+: commentStart ++ x ↔
      ['>'] <+: x ∨ ['-', '>'] <+: x ∨ commentEnd <:+: x := by
  simp [commentStart, commentEnd, List.infix_cons_iff]

/-- No comment ends in a bare value. -/
theorem not_infix_valueRun (s : Text) : ¬ commentEnd <:+: valueRun s := by
  induction s with
  | nil => decide
  | cons c s ih =>
    rw [valueRun]
    split
    · decide
    · next hgo =>
      intro h
      rcases List.infix_cons_iff.1 h with hbegins | hlater
      · have hstart : commentEnd <+: c :: s :=
          hbegins.trans (List.cons_prefix_cons.2 ⟨rfl, valueRun_prefix s⟩)
        refine hgo ?_
        rw [Bool.or_eq_true, startsWith_eq_true_iff]
        exact .inr hstart
      · exact ih hlater

/-- Blanks at the ends of a text are no part of the end of a comment. -/
theorem infix_trim_iff : commentEnd <:+: Text.trim s ↔ commentEnd <:+: s := by
  have hapart {t : Text} (h : ∀ c ∈ t, Text.isBlank c = true) : ∀ c ∈ t, c ∉ commentEnd :=
    fun c hc => notMem_commentEnd_of_isBlank (h c hc)
  obtain ⟨before, after, hs, hbefore, hafter⟩ := Text.exists_margins s
  conv => rhs; rw [hs]
  rw [Text.infix_append_right_iff commentEnd_ne_nil (hapart hafter),
    Text.infix_append_left_iff commentEnd_ne_nil (hapart hbefore)]

/-! ## Where comments end in a marker -/

/-- What may stand before the end of the comment does not take dashes from what is before it. -/
def StartsApart (t : Text) : Prop := ∀ c ∈ t.head?, c ∉ commentEnd

theorem infix_append_apart_iff {k a : Text} (hk : '>' ∉ k) (ha : StartsApart a) :
    commentEnd <:+: k ++ a ↔ commentEnd <:+: a := by
  have hnot : ¬ commentEnd <:+: k := fun h => hk (h.subset (by decide))
  cases a with
  | nil =>
    have hnil : ¬ commentEnd <:+: [] := by decide
    rw [List.append_nil]
    exact iff_of_false hnot hnil
  | cons c a =>
    have hc : c ∉ commentEnd := ha c rfl
    rw [Text.infix_append_cons_iff commentEnd_ne_nil hc,
      Text.infix_cons_iff_of_notMem commentEnd_ne_nil hc]
    exact or_iff_right hnot

/-- What stands behind the targets: blanks, and a bare value, in which no comment ends. -/
theorem tail?_commentEnds {v : Option Text} (h : tail? s = some (v, r)) :
    ∃ a, s = a ++ commentEnd ++ r ∧ StartsApart a ∧ ¬ commentEnd <:+: a ∧
      ∀ w ∈ v, ¬ commentEnd <:+: w := by
  have hblank {t : Text} : ∀ c ∈ t.takeWhile Text.isBlank, c ∉ commentEnd := fun c hc =>
    notMem_commentEnd_of_isBlank (List.mem_takeWhile_imp hc)
  have hspace : ∀ c ∈ s.takeWhile isSpace, c ∉ commentEnd := fun c hc =>
    notMem_commentEnd_of_isBlank (isBlank_of_isSpace (List.mem_takeWhile_imp hc))
  rcases tail?_eq_some_iff.1 h with ⟨w, t, hvalue, hend, rfl⟩ | ⟨-, hend, rfl⟩
  · obtain ⟨hs, -, hw, hlen⟩ := value?_eq_some_iff.1 hvalue
    have ht := endOfComment?_eq_some_iff.1 hend
    have hnot : ¬ commentEnd <:+: w := by
      rw [hw]
      exact not_infix_valueRun _
    refine ⟨s.takeWhile isSpace ++ (w ++ t.takeWhile Text.isBlank), ?_, ?_, ?_, ?_⟩
    · conv => lhs; rw [← List.takeWhile_append_dropWhile (p := isSpace) (l := s), hs,
        ← List.takeWhile_append_dropWhile (p := Text.isBlank) (l := t), ht]
      simp
    · -- a value stands after spaces
      have hne : s.takeWhile isSpace ≠ [] := by
        intro hnil
        have hwhole := List.takeWhile_append_dropWhile (p := isSpace) (l := s)
        rw [hnil, List.nil_append] at hwhole
        exact hlen (congrArg List.length hwhole)
      intro c hc
      rw [List.head?_append_of_ne_nil _ hne] at hc
      exact hspace c (List.mem_of_mem_head? hc)
    · rw [Text.infix_append_left_iff commentEnd_ne_nil hspace,
        Text.infix_append_right_iff commentEnd_ne_nil hblank]
      exact hnot
    · intro w' hw'
      cases hw'
      exact hnot
  · have hs := endOfComment?_eq_some_iff.1 hend
    refine ⟨s.takeWhile Text.isBlank, ?_, ?_, ?_, ?_⟩
    · conv => lhs; rw [← List.takeWhile_append_dropWhile (p := Text.isBlank) (l := s), hs]
      simp
    · intro c hc
      exact hblank c (List.mem_of_mem_head? hc)
    · exact Text.not_infix_of_forall_notMem commentEnd_ne_nil hblank
    · intro w hw
      cases hw

/-- What stands behind the targets holds the end of a comment if the parameter does. -/
theorem arguments?_commentEnds {p v : Option Text} (h : arguments? s = some ((p, v), r)) :
    ∃ a, s = a ++ commentEnd ++ r ∧ StartsApart a ∧
      (commentEnd <:+: a ↔ commentEnd <:+: (p.orElse fun _ => v).getD []) := by
  have hnil : ¬ commentEnd <:+: [] := by decide
  rcases arguments?_eq_some_iff.1 h with ⟨q, t, hparams, htail, rfl⟩ | ⟨-, htail, rfl⟩
  · obtain ⟨b, hs, hb⟩ := exists_append_of_params? hparams
    obtain ⟨a, ht, -, hnot, -⟩ := tail?_commentEnds htail
    have hspace : ∀ c ∈ b, c ∉ commentEnd := fun c hc =>
      notMem_commentEnd_of_isBlank (isBlank_of_isSpace (hb c hc))
    refine ⟨b ++ '(' :: (q ++ ')' :: a), ?_, ?_, ?_⟩
    · rw [hs, ht]
      simp
    · intro c hc
      cases b with
      | nil =>
        cases hc
        decide
      | cons d b => exact hspace c (List.mem_of_mem_head? hc)
    · -- the parentheses cut the text into parts, and no end of a comment goes across them
      have hopen : '(' ∉ commentEnd := by decide
      have hclose : ')' ∉ commentEnd := by decide
      have hb : ¬ commentEnd <:+: b := Text.not_infix_of_forall_notMem commentEnd_ne_nil hspace
      rw [Text.infix_append_cons_iff commentEnd_ne_nil hopen,
        Text.infix_append_cons_iff commentEnd_ne_nil hclose]
      simp [hb, hnot]
  · obtain ⟨a, hs, hapart, hnot, hvalue⟩ := tail?_commentEnds htail
    refine ⟨a, hs, hapart, iff_of_false hnot ?_⟩
    cases v with
    | none => exact hnil
    | some w => exact hvalue w rfl

/-- **Where a comment ends in an opening marker**: in its parameter, and at its start if the word
completes the dashes there. -/
theorem opening?_commentEnds (hword : ¬ commentEnd <:+: word) {o : Opening}
    (h : opening? word s = some (o, r)) :
    ∃ z, o.text = z ++ commentEnd ∧
      (commentEnd <:+: z ↔ commentEnd <:+: Directive.paramsOf o ∨
        commentStart ++ ['>'] <+: o.text ∨ commentStart ++ ['-', '>'] <+: o.text) := by
  obtain ⟨s₁, s₂, s₃, s₄, s₅, h₁, h₂, h₃, h₄, h₅, h₆, -⟩ := opening?_eq_some_iff.1 h
  obtain ⟨k, hs₃, hk⟩ := exists_append_of_kind? h₄
  obtain ⟨g, hs₄, hg⟩ := exists_append_of_targets? h₅
  obtain ⟨a, hs₅, hapart, ha⟩ := arguments?_commentEnds h₆
  let blanks := s₁.takeWhile Text.isBlank
  let core := word.dropWhile Text.isBlank
  let back := k ++ g ++ a
  have hs : s = commentStart ++ (blanks ++ (core ++ ':' :: back)) ++ commentEnd ++ r := by
    have hcore := dropWhile_of_word? h₂
    rw [dropPrefix?_eq_some_iff.1 h₃, hs₃, hs₄, hs₅] at hcore
    rw [dropPrefix?_eq_some_iff.1 h₁,
      ← List.takeWhile_append_dropWhile (p := Text.isBlank) (l := s₁), hcore]
    simp [blanks, core, back]
  have htext : o.text = commentStart ++ (blanks ++ (core ++ ':' :: back)) ++ commentEnd := by
    have hwhole := (opening?_append h).1
    rw [hs] at hwhole
    exact List.append_cancel_right hwhole
  -- a short beginning stops at the colon
  have hstart {p : Text} (hp : ':' ∉ p) :
      commentStart ++ p <+: o.text ↔ p <+: blanks ++ (core ++ ':' :: back) := by
    rw [htext, List.append_assoc, List.prefix_append_right_inj]
    constructor
    · intro hbegins
      have hcolon : p <+: blanks ++ core ++ ':' :: (back ++ commentEnd) := by
        simpa using hbegins
      have hinside := prefix_of_prefix_append_cons hp hcolon
      exact hinside.trans ⟨':' :: back, by simp⟩
    · intro hbegins
      exact hbegins.trans (List.prefix_append _ _)
  have hblanks : ∀ c ∈ blanks, c ∉ commentEnd := fun c hc =>
    notMem_commentEnd_of_isBlank (List.mem_takeWhile_imp hc)
  have hcore : ¬ commentEnd <:+: core := fun hoccurs =>
    hword (hoccurs.trans (List.dropWhile_suffix Text.isBlank).isInfix)
  have hback : commentEnd <:+: back ↔ commentEnd <:+: Directive.paramsOf o := by
    rw [Directive.paramsOf, infix_trim_iff, ← ha]
    refine infix_append_apart_iff ?_ hapart
    rw [List.mem_append, not_or]
    exact ⟨hk, hg⟩
  refine ⟨_, htext, ?_⟩
  rw [hstart (by decide), hstart (by decide), infix_commentStart_append_iff,
    Text.infix_append_left_iff commentEnd_ne_nil hblanks,
    Text.infix_append_cons_iff commentEnd_ne_nil (by decide), hback]
  rw [or_iff_right hcore, ← or_assoc, or_comm]

end Marker

/-! ## Blocks at any depth -/

namespace Span

open Marker

variable {word : Text} {gated : Text → Bool} {file : Option Text} {offset : Int} {page : Text}

/-- The opening marker of a block is read from the text that is scanned. -/
theorem exists_opening_of_mem_scan {spans : List Span} {d : Directive} {start stop : Nat}
    (h : (scan word gated file offset page).result = .ok spans)
    (hd : Span.block d start stop ∈ spans) :
    ∃ s o r, opening? word s = some (o, r) ∧ d.openMarker = o.text ∧
      d.params = Directive.paramsOf o := by
  obtain ⟨before, o, body, t, after, hlex, -, -, rfl, -, -⟩ := exists_lexemes_of_mem_ofPieces h hd
  exact ⟨_, o, _, Lexeme.opening?_of_lex_eq hlex, rfl, rfl⟩

/-- **An opening marker ends with its comment**, and another comment ends in it just if one ends in
its parameter, or if the word completes the dashes that start the comment. -/
theorem Nested.endsInside_iff (hword : ¬ commentEnd <:+: word) {d : Directive} {left right : Nat}
    (h : Nested word gated file offset page d left right) :
    commentEnd <:+ d.openMarker ∧ (EndsInside d.openMarker ↔ commentEnd <:+: d.params ∨
      commentStart ++ ['>'] <+: d.openMarker ∨ commentStart ++ ['-', '>'] <+: d.openMarker) := by
  have hopening : ∃ s o r, opening? word s = some (o, r) ∧ d.openMarker = o.text ∧
      d.params = Directive.paramsOf o := by
    cases h with
    | block h hd => exact exists_opening_of_mem_scan h hd
    | inner _ h hd => exact exists_opening_of_mem_scan h hd
  obtain ⟨s, o, r, ho, htext, hparams⟩ := hopening
  obtain ⟨z, hz, hends⟩ := opening?_commentEnds hword ho
  rw [htext, hparams, ← hends, hz]
  exact ⟨List.suffix_append z commentEnd, endsInside_append_iff⟩

/-- A block in a block, whose parameter holds the end of a comment. -/
theorem Nested.endsInside_iff_of_block_in_block :
    ¬ commentEnd <:+: "m".toList ∧ ∃ d left right,
      Nested "m".toList (fun _ => false) none 0
        "<!--m:a--><!--m:b(x-->y)--><!--/m--><!--/m-->".toList d left right ∧
      d.openMarker = "<!--m:b(x-->y)-->".toList ∧ EndsInside d.openMarker := by
  have hword : ¬ commentEnd <:+: "m".toList := by decide
  have houter : (scan "m".toList (fun _ => false) none 0
      "<!--m:a--><!--m:b(x-->y)--><!--/m--><!--/m-->".toList).result = .ok [.block
        ⟨"a".toList, [], [], ["<!--m:b(x-->y)--><!--/m-->".toList], 1, 1, "<!--m:a-->".toList,
          "<!--/m-->".toList⟩ 0 45] := by
    decide +kernel
  have hinner : (scan "m".toList (fun _ => false) none 0
      "<!--m:b(x-->y)--><!--/m-->".toList).result = .ok [.block
        ⟨"b".toList, [], "x-->y".toList, [], 1, 1, "<!--m:b(x-->y)-->".toList,
          "<!--/m-->".toList⟩ 0 26] := by
    decide +kernel
  have hnested := Nested.inner (.block houter List.mem_cons_self) hinner List.mem_cons_self
  refine ⟨hword, _, _, _, hnested, rfl, ?_⟩
  exact (hnested.endsInside_iff hword).2.2 (.inl (by decide))

/-- **An opening marker can reach over comments.** Its parenthesis is closed in the marker behind
it, and both comments become one marker. -/
theorem exists_marker_over_comments :
    ¬ commentEnd <:+: "build".toList ∧ ∃ d left right,
      Nested "build".toList (fun _ => false) none 0
        "<!-- build:js(a --> <!-- build:css(b) -->x<!-- /build -->".toList d left right ∧
      d.openMarker = "<!-- build:js(a --> <!-- build:css(b) -->".toList ∧
        EndsInside d.openMarker := by
  have hscan : (scan "build".toList (fun _ => false) none 0
      "<!-- build:js(a --> <!-- build:css(b) -->x<!-- /build -->".toList).result = .ok [.block
        ⟨"js".toList, [], "a --> <!-- build:css(b".toList, ["x".toList], 1, 1,
          "<!-- build:js(a --> <!-- build:css(b) -->".toList, "<!-- /build -->".toList⟩ 0 57] := by
    decide +kernel
  refine ⟨by decide, _, _, _, .block hscan List.mem_cons_self, rfl, ?_⟩
  exact ⟨"<!-- build:js(a ".toList, " <!-- build:css(b) -->".toList, rfl, by decide⟩

end Span
end BuildBlocks
