import BuildBlocks.Proofs.BodyLocality
import BuildBlocks.Proofs.ClosedLexemes
import BuildBlocks.Proofs.SpanTiling

/-!
# Markers pair like brackets

What a scan gives, said by the markers of the page alone. The markers are read from left to right
where they do not overlap (`Token.Leftmost`), and a closing marker pairs with the nearest opening
marker before it that no earlier closing marker pairs with (`Token.Pairs`). A page has an opening
marker without a partner just if its scan fails, and then the fault names the leftmost one;
otherwise the blocks of the page are the pairs that lie in no other pair.

The search for the closing marker of a block counts depths and never builds these pairs.

## The architecture

* **`Token.mem_ofLexemes_iff`**, **`Token.prefix_of_position_lt`**: a marker is a place among the
  lexemes, and the order of places is the order of lexemes.
* **`Token.pairs_iff`**: two markers pair just if the lexemes between them are balanced.
* **`Token.outermost_iff`**, **`Token.exists_unpaired_iff`**: closed lexemes before a pair are what
  keeps it out of other pairs, and lexemes that are not closed have an opening marker without a
  partner.
* **`Span.scan_eq_pairs`** puts these together with what a scan gives.
-/

namespace BuildBlocks

/-! ## Reading markers from left to right -/

/-- The marker at the start of a text. An opening marker is tried first. -/
def Lexeme.markerAt? (word s : Text) : Option Lexeme :=
  match Marker.opening? word s with
  | some (o, _) => some (.opening o)
  | none => (Marker.closing? word s).map fun (t, _) => .closing t

namespace Token

/-- The leftmost markers of a page from a place on that do not overlap: each one stands at the first
place behind the one before it where a marker can be read. -/
inductive Leftmost (word : Text) (offset : Int) (page : Text) : Nat → List Token → Prop where
  | nil {start : Nat} (hnone : ∀ n, start ≤ n → Lexeme.markerAt? word (page.drop n) = none) :
      Leftmost word offset page start []
  | cons {start : Nat} {t : Token} {ts : List Token} (hstart : start ≤ t.position)
      (hnone : ∀ n, start ≤ n → n < t.position → Lexeme.markerAt? word (page.drop n) = none)
      (hmarker : Lexeme.markerAt? word (page.drop t.position) = some t.marker)
      (hline : t.line = offset + 1 + Text.newlines (page.take t.position))
      (hrest : Leftmost word offset page t.stop ts) : Leftmost word offset page start (t :: ts)

/-- A place where no marker can be read is passed over. -/
theorem Leftmost.of_markerAt?_eq_none {word page : Text} {offset : Int} {start : Nat}
    {ts : List Token} (hhere : Lexeme.markerAt? word (page.drop start) = none)
    (h : Leftmost word offset page (start + 1) ts) : Leftmost word offset page start ts := by
  cases h with
  | nil hnone =>
    refine .nil fun n hn => ?_
    rcases Nat.eq_or_lt_of_le hn with rfl | hlt
    · exact hhere
    · exact hnone n hlt
  | cons hstart hnone hmarker hline hrest =>
    refine .cons (by omega) (fun n hn hlt => ?_) hmarker hline hrest
    rcases Nat.eq_or_lt_of_le hn with rfl | hn
    · exact hhere
    · exact hnone n hn hlt

/-- The first lexeme of a text is the marker at its start, if there is one. -/
theorem first_of_markerAt? (word : Text) (c : Char) (cs : Text) :
    (Lexeme.markerAt? word (c :: cs) = none ∧ Lexeme.first word c cs = (.char c, cs)) ∨
      Lexeme.markerAt? word (c :: cs) = some (Lexeme.first word c cs).1 ∧
        (Lexeme.first word c cs).1.isMarker = true := by
  unfold Lexeme.markerAt? Lexeme.first
  cases Marker.opening? word (c :: cs) with
  | some _ => exact .inr ⟨rfl, rfl⟩
  | none =>
    cases Marker.closing? word (c :: cs) with
    | some _ => exact .inr ⟨rfl, rfl⟩
    | none => exact .inl ⟨rfl, rfl⟩

theorem markerAt?_nil (word : Text) : Lexeme.markerAt? word [] = none := rfl

/-- The first lexeme of the rest of a page is cut off it. -/
theorem cut_first (word : Text) {page cs : Text} {c : Char} {start : Nat}
    (hrest : page.drop start = c :: cs) :
    page.take (start + (Lexeme.first word c cs).1.text.length) =
        page.take start ++ (Lexeme.first word c cs).1.text ∧
      page.drop (start + (Lexeme.first word c cs).1.text.length) = (Lexeme.first word c cs).2 := by
  obtain ⟨hspell, -⟩ := Lexeme.first_append word c cs
  constructor
  · rw [List.take_add, hrest]
    conv_lhs => rw [← hspell, List.take_left]
  · rw [← List.drop_drop, hrest]
    conv_lhs => rw [← hspell, List.drop_left]

/-- The markers among the lexemes of the rest of a page are the leftmost ones from there on. -/
theorem leftmost_ofLexemes {word page rest : Text} {offset : Int} {start : Nat}
    (hrest : page.drop start = rest) :
    Leftmost word offset page start
      (ofLexemes start (offset + 1 + Text.newlines (page.take start)) (Lexeme.lex word rest)) := by
  -- the place and the line go along with the lexemes that are read
  fun_induction Lexeme.lex word rest generalizing start with
  | case1 =>
    refine .nil fun n hn => ?_
    have hempty : page.drop n = [] := by
      rw [List.drop_eq_nil_iff] at hrest ⊢
      omega
    rw [hempty, markerAt?_nil]
  | case2 c cs ih =>
    obtain ⟨htake, hdrop⟩ := cut_first word hrest
    have hline : offset + 1 + Text.newlines (page.take start) +
        Text.newlines (Lexeme.first word c cs).1.text = offset + 1 +
          Text.newlines (page.take (start + (Lexeme.first word c cs).1.text.length)) := by
      rw [htake, Text.newlines_append]
      omega
    have ih := ih hdrop
    rw [ofLexemes, hline]
    rcases first_of_markerAt? word c cs with ⟨hnone, hfirst⟩ | ⟨hmarker, hisMarker⟩
    · rw [hfirst] at ih ⊢
      exact ih.of_markerAt?_eq_none (by rw [hrest, hnone])
    · rw [if_pos hisMarker]
      refine .cons (Nat.le_refl _) (fun n hn hlt => absurd hlt (Nat.not_lt.2 hn)) ?_ rfl ih
      rw [hrest, hmarker]

/-- **The markers of a page are the leftmost ones that do not overlap.** -/
theorem leftmost_ofPage (word : Text) (offset : Int) (page : Text) :
    Leftmost word offset page 0 (ofPage word offset page) := by
  have hfrom : Leftmost word offset page 0
      (ofLexemes 0 (offset + 1 + Text.newlines (page.take 0)) (Lexeme.lex word page)) :=
    leftmost_ofLexemes rfl
  rw [ofPage]
  simpa [Text.newlines] using hfrom

/-! ## Pairs -/

/-- A marker that opens a block. -/
def IsOpening (t : Token) : Prop := ∃ o, t.marker = .opening o

/-- A marker that closes a block. -/
def IsClosing (t : Token) : Prop := ∃ s, t.marker = .closing s

/-- Two markers among `ts` that pair: `b` closes, and `a` is the nearest opening marker before it
that no closing marker before `b` pairs with. -/
def Pairs (ts : List Token) (a b : Token) : Prop :=
  a ∈ ts ∧ b ∈ ts ∧ a.IsOpening ∧ b.IsClosing ∧ a.position < b.position ∧
    (∀ t, t.position < b.position → ¬ Pairs ts a t) ∧
      ∀ u ∈ ts, u.IsOpening → a.position < u.position → u.position < b.position →
        ∃ t, ∃ _ : t.position < b.position, Pairs ts u t
termination_by b.position

/-- An opening marker that no closing marker pairs with. -/
def Unpaired (ts : List Token) (t : Token) : Prop := t ∈ ts ∧ t.IsOpening ∧ ∀ b, ¬ Pairs ts t b

/-- Two markers that pair and lie between no two other markers that pair. -/
def Outermost (ts : List Token) (a b : Token) : Prop :=
  Pairs ts a b ∧ ∀ c d, Pairs ts c d → ¬ (c.position < a.position ∧ b.position < d.position)

/-- The block between an opening and a closing marker of a page. -/
def block? (gated : Text → Bool) (page : Text) (a b : Token) : Option Span :=
  match a.marker, b.marker with
  | .opening o, .closing s =>
    let body := (page.drop a.stop).take (b.position - a.stop)
    some (.block (.ofParts (gated o.kind) a.line o body s) a.position b.stop)
  | _, _ => none

/-! ## Markers as places among lexemes -/

/-- The marker that stands after some lexemes. -/
def behind (position : Nat) (line : Int) (before : List Lexeme) (marker : Lexeme) : Token :=
  ⟨position + (Lexeme.texts before).length, line + Text.newlines (Lexeme.texts before), marker⟩

theorem isMarker_of_mem_ofLexemes {position : Nat} {line : Int} {ls : List Lexeme} {t : Token}
    (h : t ∈ ofLexemes position line ls) : t.marker.isMarker = true := by
  induction ls generalizing position line with
  | nil => cases h
  | cons l ls ih =>
    rw [ofLexemes] at h
    split at h
    · next hl =>
      rcases List.mem_cons.1 h with rfl | h
      · exact hl
      · exact ih h
    · exact ih h

section

variable {position : Nat} {line : Int} {ls : List Lexeme}

theorem mem_ofLexemes_iff {t : Token} :
    t ∈ ofLexemes position line ls ↔ ∃ before l after, ls = before ++ l :: after ∧
      l.isMarker = true ∧ t = behind position line before l := by
  constructor
  · intro h
    obtain ⟨before, after, hls, hposition, hline⟩ := exists_lexemes_of_mem_ofLexemes h
    refine ⟨before, t.marker, after, hls, isMarker_of_mem_ofLexemes h, ?_⟩
    rw [behind, ← hposition, ← hline]
  · rintro ⟨before, l, after, rfl, hl, rfl⟩
    rw [ofLexemes_append, ofLexemes, if_pos hl]
    exact List.mem_append_right _ List.mem_cons_self

theorem opening_mem_ofLexemes_iff {t : Token} :
    t ∈ ofLexemes position line ls ∧ t.IsOpening ↔ ∃ before o after,
      ls = before ++ .opening o :: after ∧ t = behind position line before (.opening o) := by
  constructor
  · rintro ⟨h, o, ho⟩
    obtain ⟨before, l, after, hls, -, rfl⟩ := mem_ofLexemes_iff.1 h
    cases (show l = .opening o from ho)
    exact ⟨before, o, after, hls, rfl⟩
  · rintro ⟨before, o, after, hls, rfl⟩
    exact ⟨mem_ofLexemes_iff.2 ⟨before, _, after, hls, rfl, rfl⟩, o, rfl⟩

theorem closing_mem_ofLexemes_iff {t : Token} :
    t ∈ ofLexemes position line ls ∧ t.IsClosing ↔ ∃ before s after,
      ls = before ++ .closing s :: after ∧ t = behind position line before (.closing s) := by
  constructor
  · rintro ⟨h, s, hs⟩
    obtain ⟨before, l, after, hls, -, rfl⟩ := mem_ofLexemes_iff.1 h
    cases (show l = .closing s from hs)
    exact ⟨before, s, after, hls, rfl⟩
  · rintro ⟨before, s, after, hls, rfl⟩
    exact ⟨mem_ofLexemes_iff.2 ⟨before, _, after, hls, rfl, rfl⟩, s, rfl⟩

theorem position_behind_append (position : Nat) (line : Int) (before mid : List Lexeme)
    (l l' : Lexeme) :
    (behind position line (before ++ l :: mid) l').position =
      (behind position line before l).position + l.text.length + (Lexeme.texts mid).length := by
  simp only [behind, Span.texts_append, Span.texts_cons, List.length_append]
  omega

/-- A marker at a later place has the earlier one and what stands between them before it. -/
theorem prefix_of_position_lt {before before' after after' : List Lexeme} {l l' : Lexeme}
    (h : before ++ l :: after = before' ++ l' :: after')
    (hlt : (behind position line before l).position < (behind position line before' l').position) :
    ∃ mid, before' = before ++ l :: mid ∧ after = mid ++ l' :: after' := by
  simp only [behind] at hlt
  rcases List.append_eq_append_iff.1 h with ⟨mid, rfl, hmid⟩ | ⟨mid, rfl, -⟩
  · rcases List.cons_eq_append_iff.1 hmid with ⟨rfl, -⟩ | ⟨mid, rfl, hafter⟩
    · rw [List.append_nil] at hlt
      exact absurd hlt (Nat.lt_irrefl _)
    · exact ⟨mid, rfl, hafter⟩
  · rw [Span.texts_append, List.length_append] at hlt
    omega

/-- Two markers at the same place are the same. -/
theorem eq_of_position_eq {before before' after after' : List Lexeme} {l l' : Lexeme}
    (hpos : ∀ l'' ∈ before ++ l :: after, 0 < l''.text.length)
    (h : before ++ l :: after = before' ++ l' :: after')
    (heq : (behind position line before l).position = (behind position line before' l').position) :
    before = before' ∧ l = l' ∧ after = after' := by
  simp only [behind] at heq
  rcases List.append_eq_append_iff.1 h with ⟨mid, rfl, hmid⟩ | ⟨mid, rfl, hmid⟩
  · rcases List.cons_eq_append_iff.1 hmid with ⟨rfl, hfirst⟩ | ⟨mid, rfl, -⟩
    · cases hfirst
      exact ⟨(List.append_nil before).symm, rfl, rfl⟩
    · have := hpos l (by simp)
      simp only [Span.texts_append, Span.texts_cons, List.length_append] at heq
      omega
  · rcases List.cons_eq_append_iff.1 hmid with ⟨rfl, hfirst⟩ | ⟨mid, rfl, -⟩
    · cases hfirst
      exact ⟨List.append_nil before', rfl, rfl⟩
    · have := hpos l' (by simp)
      simp only [Span.texts_append, Span.texts_cons, List.length_append] at heq
      omega

end

/-! ## Pairs are the markers of balanced parts -/

/-- The two markers of a block with a balanced body among some lexemes. -/
def Brackets (position : Nat) (line : Int) (ls : List Lexeme) (a b : Token) : Prop :=
  ∃ before o body s after, ls = before ++ .opening o :: (body ++ .closing s :: after) ∧
    Lexeme.Balanced body ∧ a = behind position line before (.opening o) ∧
      b = behind position line (before ++ .opening o :: body) (.closing s)

section

variable {position : Nat} {line : Int} {ls : List Lexeme}

theorem Brackets.left_mem {a b : Token} (h : Brackets position line ls a b) :
    a ∈ ofLexemes position line ls ∧ a.IsOpening := by
  obtain ⟨before, o, body, s, after, rfl, -, rfl, -⟩ := h
  exact opening_mem_ofLexemes_iff.2 ⟨before, o, _, rfl, rfl⟩

theorem Brackets.right_mem {a b : Token} (h : Brackets position line ls a b) :
    b ∈ ofLexemes position line ls ∧ b.IsClosing := by
  obtain ⟨before, o, body, s, after, rfl, -, -, rfl⟩ := h
  exact closing_mem_ofLexemes_iff.2 ⟨before ++ .opening o :: body, s, after, by simp, rfl⟩

/-- The opening marker of a block stands before its closing marker. -/
theorem Brackets.position_lt (hpos : ∀ l ∈ ls, 0 < l.text.length) {a b : Token}
    (h : Brackets position line ls a b) : a.position < b.position := by
  obtain ⟨before, o, body, s, after, rfl, -, rfl, rfl⟩ := h
  rw [position_behind_append]
  have := hpos (.opening o) (by simp)
  omega

/-- A block has one closing marker. -/
theorem Brackets.right_unique (hpos : ∀ l ∈ ls, 0 < l.text.length) {a b t : Token}
    (h : Brackets position line ls a b) (ht : Brackets position line ls a t) : t = b := by
  obtain ⟨before, o, body, s, after, rfl, hbody, rfl, rfl⟩ := h
  obtain ⟨before', o', body', s', after', heq, hbody', ha, rfl⟩ := ht
  obtain ⟨rfl, ho, hrest⟩ := eq_of_position_eq hpos heq (congrArg Token.position ha)
  cases ho
  obtain ⟨rfl, rfl, -⟩ := hbody.eq_of_append_eq hbody' hrest
  rfl

/-- **An opening marker is closed before some place** just if a balanced part and a closing marker
follow it before that place. -/
theorem exists_brackets_iff (hpos : ∀ l ∈ ls, 0 < l.text.length) (before right rest : List Lexeme)
    (o : Opening) (hls : ls = before ++ .opening o :: (right ++ rest)) :
    (∃ t, Brackets position line ls (behind position line before (.opening o)) t ∧
        t.position < position + (Lexeme.texts (before ++ .opening o :: right)).length) ↔
      ∃ inner s mid, right = inner ++ .closing s :: mid ∧ Lexeme.Balanced inner := by
  subst hls
  constructor
  · rintro ⟨_, ⟨before', o', inner, s, after, heq, hinner, hstart, rfl⟩, hlt⟩
    obtain ⟨rfl, ho, hrest⟩ := eq_of_position_eq hpos heq (congrArg Token.position hstart)
    cases ho
    simp only [behind, Span.texts_append, Span.texts_cons, List.length_append] at hlt
    rcases List.append_eq_append_iff.1 hrest with ⟨mid, rfl, -⟩ | ⟨mid, rfl, hmid⟩
    · rw [Span.texts_append, List.length_append] at hlt
      omega
    · rcases List.cons_eq_append_iff.1 hmid with ⟨rfl, -⟩ | ⟨mid, rfl, -⟩
      · rw [List.append_nil] at hlt
        exact absurd hlt (Nat.lt_irrefl _)
      · exact ⟨inner, s, mid, rfl, hinner⟩
  · rintro ⟨inner, s, mid, rfl, hinner⟩
    refine ⟨behind position line (before ++ .opening o :: inner) (.closing s),
      ⟨before, o, inner, s, mid ++ rest, by simp, hinner, rfl, rfl⟩, ?_⟩
    have hlen := hpos (.closing s) (by simp)
    simp only [behind, Span.texts_append, Span.texts_cons, List.length_append]
    omega

/-- An opening marker between the markers of a block is closed between them. -/
theorem Brackets.exists_inner (hpos : ∀ l ∈ ls, 0 < l.text.length) {a b u : Token}
    (h : Brackets position line ls a b) (hu : u ∈ ofLexemes position line ls ∧ u.IsOpening)
    (hleft : a.position < u.position) (hright : u.position < b.position) :
    ∃ t, t.position < b.position ∧ Brackets position line ls u t := by
  obtain ⟨before, o, body, s, after, rfl, hbody, rfl, rfl⟩ := h
  obtain ⟨_, o', after', heq, rfl⟩ := opening_mem_ofLexemes_iff.1 hu
  obtain ⟨left, rfl, -⟩ := prefix_of_position_lt heq hleft
  have heq' : before ++ .opening o :: left ++ .opening o' :: after' =
      before ++ .opening o :: body ++ .closing s :: after := by
    rw [← heq]
    simp
  obtain ⟨right, hbodyEq, rfl⟩ := prefix_of_position_lt heq' hright
  -- the marker stands in the body, which is balanced
  have hbodyEq : body = left ++ .opening o' :: right := by simpa using hbodyEq
  obtain ⟨inner, s', rest, rfl, hinner⟩ := hbody.exists_partner hbodyEq
  obtain ⟨t, ht, hlt⟩ := (exists_brackets_iff hpos (before ++ .opening o :: left)
    (inner ++ .closing s' :: rest) (.closing s :: after) o' (by simp [hbodyEq])).2
      ⟨inner, s', rest, rfl, hinner⟩
  refine ⟨t, ?_, ht⟩
  rwa [List.append_assoc, List.cons_append, ← hbodyEq] at hlt

/-- An opening marker and a later closing marker are those of a block, if the opening one is not
closed before, and every opening marker between them is. -/
theorem brackets_of_between (hpos : ∀ l ∈ ls, 0 < l.text.length) {a b : Token}
    (ha : a ∈ ofLexemes position line ls ∧ a.IsOpening)
    (hb : b ∈ ofLexemes position line ls ∧ b.IsClosing) (hlt : a.position < b.position)
    (hfree : ∀ t, t.position < b.position → ¬ Brackets position line ls a t)
    (htaken : ∀ u, u ∈ ofLexemes position line ls ∧ u.IsOpening → a.position < u.position →
      u.position < b.position → ∃ t, t.position < b.position ∧ Brackets position line ls u t) :
    Brackets position line ls a b := by
  obtain ⟨before, o, rest, rfl, rfl⟩ := opening_mem_ofLexemes_iff.1 ha
  obtain ⟨_, s, after, heq, rfl⟩ := closing_mem_ofLexemes_iff.1 hb
  obtain ⟨body, rfl, rfl⟩ := prefix_of_position_lt heq hlt
  refine ⟨before, o, body, s, after, rfl, ?_, rfl, rfl⟩
  rcases Lexeme.balanced_or_unbalanced body with
    hbody | ⟨left, s', right, rfl, hbalanced⟩ | ⟨left, o', right, rfl, hnone⟩
  · exact hbody
  · -- otherwise the opening marker is closed before
    obtain ⟨t, hclosed, ht⟩ := (exists_brackets_iff hpos before (left ++ .closing s' :: right)
      (.closing s :: after) o rfl).2 ⟨left, s', right, rfl, hbalanced⟩
    exact absurd hclosed (hfree t ht)
  · -- or an opening marker between the two is not closed between them
    exfalso
    have hstart := position_behind_append position line before left (.opening o) (.opening o')
    have hstop := position_behind_append position line (before ++ .opening o :: left) right
      (.opening o') (.closing s)
    rw [List.append_assoc, List.cons_append] at hstop
    have hlen := hpos (.opening o) (by simp)
    have hlen' := hpos (.opening o') (by simp)
    obtain ⟨t, ht, hinner⟩ := htaken (behind position line (before ++ .opening o :: left) (.opening o'))
      (opening_mem_ofLexemes_iff.2 ⟨_, o', right ++ .closing s :: after, by simp, rfl⟩)
      (by omega) (by omega)
    obtain ⟨inner, s', mid, rfl, hbalanced⟩ := (exists_brackets_iff hpos
      (before ++ .opening o :: left) right (.closing s :: after) o' (by simp)).1
        ⟨t, hinner, by rwa [List.append_assoc, List.cons_append]⟩
    rw [hbalanced.matching_append] at hnone
    cases hnone

/-- **Two markers pair just if the lexemes between them are balanced.** Induction on the place of
the closing marker. -/
theorem pairs_iff (hpos : ∀ l ∈ ls, 0 < l.text.length) {a b : Token} :
    Pairs (ofLexemes position line ls) a b ↔ Brackets position line ls a b := by
  -- `Pairs` at `b` only looks at pairs that close before `b`
  induction hn : b.position using Nat.strongRecOn generalizing a b with
  | ind n ih =>
    subst hn
    have ih {c t : Token} (ht : t.position < b.position) :
        Pairs (ofLexemes position line ls) c t ↔ Brackets position line ls c t := ih _ ht rfl
    rw [Pairs]
    constructor
    · rintro ⟨ha, hb, hopening, hclosing, hlt, hfree, htaken⟩
      refine brackets_of_between hpos ⟨ha, hopening⟩ ⟨hb, hclosing⟩ hlt
        (fun t ht h => hfree t ht ((ih ht).2 h)) fun u hu hleft hright => ?_
      obtain ⟨t, ht, h⟩ := htaken u hu.1 hu.2 hleft hright
      exact ⟨t, ht, (ih ht).1 h⟩
    · intro h
      obtain ⟨ha, hopening⟩ := h.left_mem
      obtain ⟨hb, hclosing⟩ := h.right_mem
      refine ⟨ha, hb, hopening, hclosing, h.position_lt hpos, fun t ht hpair => ?_,
        fun u hu hopens hleft hright => ?_⟩
      · have heq := h.right_unique hpos ((ih ht).1 hpair)
        exact absurd (congrArg Token.position heq) (Nat.ne_of_lt ht)
      · obtain ⟨t, ht, hinner⟩ := h.exists_inner hpos ⟨hu, hopens⟩ hleft hright
        exact ⟨t, ht, (ih ht).2 hinner⟩

/-! ## Pairs of closed lexemes -/

/-- An opening marker among closed lexemes at the start is closed among them. -/
theorem exists_brackets_of_closed (position : Nat) (line : Int)
    (hpos : ∀ l ∈ ls, 0 < l.text.length) {front rest before after : List Lexeme} {o : Opening}
    (hfront : Lexeme.Closed front) (hls : ls = front ++ rest)
    (heq : front = before ++ .opening o :: after) :
    ∃ t, Brackets position line ls (behind position line before (.opening o)) t ∧
      t.position < position + (Lexeme.texts front).length := by
  obtain ⟨body, s, mid, rfl, hbody⟩ := hfront.exists_partner heq
  rw [heq]
  exact (exists_brackets_iff hpos before (body ++ .closing s :: mid) rest o
    (by rw [hls, heq]; simp)).2 ⟨body, s, mid, rfl, hbody⟩

/-- Closed lexemes stand before a block just if no other block has it in it. -/
theorem outermost_iff (hpos : ∀ l ∈ ls, 0 < l.text.length) (hclosed : Lexeme.Closed ls)
    {a b : Token} :
    Outermost (ofLexemes position line ls) a b ↔ ∃ before o body s after,
      ls = before ++ .opening o :: (body ++ .closing s :: after) ∧ Lexeme.Closed before ∧
        Lexeme.Balanced body ∧ a = behind position line before (.opening o) ∧
          b = behind position line (before ++ .opening o :: body) (.closing s) := by
  constructor
  · rintro ⟨hpair, houter⟩
    obtain ⟨before, o, body, s, after, rfl, hbody, rfl, rfl⟩ := (pairs_iff hpos).1 hpair
    refine ⟨before, o, body, s, after, rfl, ?_, hbody, rfl, rfl⟩
    rcases Lexeme.closed_or_unclosed before with hbefore | ⟨left, o', right, rfl, -, hnone⟩
    · exact hbefore
    · -- an opening marker that is open before the block is closed behind it
      rw [List.append_assoc, List.cons_append] at hclosed
      obtain ⟨mid, u, rest, rfl, houtside⟩ := hclosed.exists_outer hnone hbody
      refine absurd ?_ (houter (behind position line left (.opening o'))
        (behind position line (left ++ .opening o' :: (right ++ .opening o :: (body ++
          .closing s :: mid))) (.closing u)) ((pairs_iff hpos).2
            ⟨left, o', _, u, rest, by simp, houtside, rfl, rfl⟩))
      have hstart := position_behind_append position line left right
        (.opening o') (.opening o)
      have hstop := position_behind_append position line
        (left ++ .opening o' :: right ++ .opening o :: body) mid (.closing s) (.closing u)
      have hassoc : left ++ .opening o' :: (right ++ .opening o :: (body ++ .closing s :: mid)) =
          left ++ .opening o' :: right ++ .opening o :: body ++ .closing s :: mid := by simp
      have hlen := hpos (.opening o') (by simp)
      have hlen' := hpos (.closing s) (by simp)
      rw [hassoc]
      omega
  · rintro ⟨before, o, body, s, after, rfl, hbefore, hbody, rfl, rfl⟩
    have hpair : Brackets position line (before ++ .opening o :: (body ++ .closing s :: after))
        (behind position line before (.opening o))
        (behind position line (before ++ .opening o :: body) (.closing s)) :=
      ⟨before, o, body, s, after, rfl, hbody, rfl, rfl⟩
    refine ⟨(pairs_iff hpos).2 hpair, fun c d hcd ⟨hleft, hright⟩ => ?_⟩
    -- a block that begins before ends before
    have hcd := (pairs_iff hpos).1 hcd
    obtain ⟨before', o', after', heq, rfl⟩ := opening_mem_ofLexemes_iff.1 hcd.left_mem
    obtain ⟨mid, hbeforeEq, -⟩ := prefix_of_position_lt heq.symm hleft
    obtain ⟨d', hd', hlt⟩ := exists_brackets_of_closed position line hpos
      hbefore rfl hbeforeEq
    cases hcd.right_unique hpos hd'
    have hab := hpair.position_lt hpos
    simp only [behind] at hab hright hlt
    omega

/-- Every opening marker among closed lexemes has a partner. -/
theorem not_unpaired_of_closed (hpos : ∀ l ∈ ls, 0 < l.text.length) (h : Lexeme.Closed ls)
    (t : Token) : ¬ Unpaired (ofLexemes position line ls) t := by
  rintro ⟨ht, hopening, hnone⟩
  obtain ⟨before, o, after, heq, rfl⟩ := opening_mem_ofLexemes_iff.1 ⟨ht, hopening⟩
  obtain ⟨b, hb, -⟩ := exists_brackets_of_closed position line hpos h
    (List.append_nil ls).symm heq
  exact hnone b ((pairs_iff hpos).2 hb)

/-- Where lexemes are not closed, the first opening marker that nothing closes is the leftmost one
without a partner. -/
theorem unpaired_of_unclosed (position : Nat) (line : Int) {before after : List Lexeme}
    {o : Opening} (hpos : ∀ l ∈ before ++ .opening o :: after, 0 < l.text.length)
    (hbefore : Lexeme.Closed before) (hafter : Piece.matching 0 after = none) :
    Unpaired (ofLexemes position line (before ++ .opening o :: after))
        (behind position line before (.opening o)) ∧
      ∀ t, Unpaired (ofLexemes position line (before ++ .opening o :: after)) t →
        (behind position line before (.opening o)).position ≤ t.position := by
  obtain ⟨hmem, hopening⟩ : _ ∧ (behind position line before (.opening o)).IsOpening :=
    opening_mem_ofLexemes_iff.2 ⟨before, o, after, rfl, rfl⟩
  refine ⟨⟨hmem, hopening, fun b hb => ?_⟩, fun t ⟨ht, hopens, hnone⟩ => ?_⟩
  · obtain ⟨before', o', body, s, rest, heq, hbody, ha, -⟩ := (pairs_iff hpos).1 hb
    obtain ⟨-, -, rfl⟩ := eq_of_position_eq hpos heq (congrArg Token.position ha)
    rw [hbody.matching_append] at hafter
    cases hafter
  · -- the opening markers before it are closed
    obtain ⟨before', o', after', heq, rfl⟩ := opening_mem_ofLexemes_iff.1 ⟨ht, hopens⟩
    refine Nat.not_lt.1 fun hlt => ?_
    obtain ⟨mid, hbeforeEq, -⟩ := prefix_of_position_lt heq.symm hlt
    obtain ⟨b, hb, -⟩ := exists_brackets_of_closed position line hpos hbefore
      rfl hbeforeEq
    exact hnone b ((pairs_iff hpos).2 hb)

end

end Token

/-! ## What a scan gives -/

namespace Span

/-- The places where a block starts and stops. -/
def place? : Span → Option (Nat × Nat)
  | .text _ => none
  | .block _ start stop => some (start, stop)

/-- A block stops before or where all blocks after it start. -/
theorem Tiles.pairwise_places {position : Nat} {line : Int} {spans : List Span} {covered : Text}
    (h : Tiles position line spans covered) :
    (spans.filterMap place?).Pairwise fun p q => p.2 ≤ q.1 := by
  induction h with
  | nil => exact .nil
  | text => exact .nil
  | @block position line d spans covered _ _ _ hrest ih =>
    refine List.pairwise_cons.2 ⟨fun q hq => ?_, ih⟩
    obtain ⟨span, hspan, hplace⟩ := List.mem_filterMap.1 hq
    cases span with
    | text => cases hplace
    | block e start stop =>
      cases hplace
      obtain ⟨before, after, heq⟩ := List.append_of_mem hspan
      have := (hrest.place heq).1
      dsimp only
      omega
  | between _ _ ih => exact ih

variable {gated : Text → Bool} {file : Option Text}

/-- The block of a balanced part of a page is the one between its two markers. -/
theorem block?_behind {word page : Text} {offset : Int} {before body after : List Lexeme}
    {o : Opening} {s : Text}
    (hlex : Lexeme.lex word page = before ++ .opening o :: (body ++ .closing s :: after)) :
    Token.block? gated page (Token.behind 0 (offset + 1) before (.opening o))
        (Token.behind 0 (offset + 1) (before ++ .opening o :: body) (.closing s)) =
      let d := Directive.ofParts (gated o.kind)
        (offset + 1 + Text.newlines (Lexeme.texts before)) o (Lexeme.texts body) s
      some (.block d (0 + (Lexeme.texts before).length)
        (0 + (Lexeme.texts before).length + d.text.length)) := by
  have hassoc : before ++ .opening o :: (body ++ .closing s :: after) =
      before ++ [.opening o] ++ (body ++ .closing s :: after) := by simp
  obtain ⟨hdrop, -⟩ := Lexeme.lex_drop_of_lex_eq (hlex.trans hassoc)
  -- where the body starts, how long it is and where the block stops
  have hstop : (Token.behind 0 (offset + 1) before (.opening o)).stop =
      (Lexeme.texts (before ++ [.opening o])).length := by
    simp [Token.behind, Token.stop, texts_append, texts_cons, texts_nil]
  have hbody : (Token.behind 0 (offset + 1) (before ++ .opening o :: body) (.closing s)).position -
      (Token.behind 0 (offset + 1) before (.opening o)).stop = (Lexeme.texts body).length := by
    simp only [Token.behind, Token.stop, texts_append, texts_cons, List.length_append]
    omega
  have hend : (Token.behind 0 (offset + 1) (before ++ .opening o :: body) (.closing s)).stop =
      0 + (Lexeme.texts before).length +
        (o.text ++ Lexeme.texts body ++ s).length := by
    simp only [Token.behind, Token.stop, texts_append, texts_cons, List.length_append, Lexeme.text]
    omega
  have htake : (page.drop (Token.behind 0 (offset + 1) before (.opening o)).stop).take
      (Lexeme.texts body).length = Lexeme.texts body := by
    rw [hstop, hdrop, texts_append, List.take_left]
  simp only [Token.block?, hbody, htake, hend, Directive.text_ofParts]
  rfl

variable {word page : Text} {offset : Int} {spans : List Span}

/-- A scan succeeds on closed lexemes, and its blocks are what stands between the markers of the
outermost pairs. -/
theorem mem_scan_iff_of_closed (hclosed : Lexeme.Closed (Lexeme.lex word page))
    (h : (scan word gated file offset page).result = .ok spans) (d : Directive) (start stop : Nat) :
    .block d start stop ∈ spans ↔ ∃ a b, Token.Outermost (Token.ofPage word offset page) a b ∧
      Token.block? gated page a b = some (.block d start stop) := by
  have hpos : ∀ l ∈ Lexeme.lex word page, 0 < l.text.length := fun l => Lexeme.length_text_pos
  rw [mem_ofPieces_iff h, Token.ofPage]
  simp only [Token.outermost_iff hpos hclosed]
  constructor
  · rintro ⟨before, o, body, t, after, hlex, hbefore, hbody, rfl, rfl, rfl⟩
    rw [List.cons_append] at hlex
    exact ⟨_, _, ⟨before, o, body, t, after, hlex, hbefore, hbody, rfl, rfl⟩, block?_behind hlex⟩
  · rintro ⟨_, _, ⟨before, o, body, t, after, hlex, hbefore, hbody, rfl, rfl⟩, hblock⟩
    rw [block?_behind hlex] at hblock
    cases hblock
    exact ⟨before, o, body, t, after, hlex, hbefore, hbody, rfl, rfl, rfl⟩

/-- The blocks of a scan come in order. -/
theorem pairwise_places_of_scan (h : (scan word gated file offset page).result = .ok spans) :
    (spans.filterMap place?).Pairwise fun p q => p.2 ≤ q.1 :=
  (tiles_of_scan h).pairwise_places

/-- **A scan fails** at the leftmost opening marker without a partner, if there is one. -/
theorem exists_spans_or_unpaired (word : Text) (gated : Text → Bool) (file : Option Text)
    (offset : Int) (page : Text) :
    (∃ spans, (scan word gated file offset page).result = .ok spans ∧
        Lexeme.Closed (Lexeme.lex word page) ∧
          ∀ t, ¬ Token.Unpaired (Token.ofPage word offset page) t) ∨
      ∃ t o, Token.Unpaired (Token.ofPage word offset page) t ∧
        (∀ u, Token.Unpaired (Token.ofPage word offset page) u → t.position ≤ u.position) ∧
          t.marker = .opening o ∧ (scan word gated file offset page).result =
            .error (.fault (.unterminated o.kind ⟨file, some t.line, some o.text⟩)) := by
  have hpos : ∀ l ∈ Lexeme.lex word page, 0 < l.text.length := fun l => Lexeme.length_text_pos
  rcases Lexeme.closed_or_unclosed (Lexeme.lex word page) with
    hclosed | ⟨before, o, after, hlex, hbefore, hafter⟩
  · obtain ⟨spans, hspans⟩ : ∃ spans, (scan word gated file offset page).result = .ok spans :=
      result_ofPieces_of_closed hclosed 0 (offset + 1) []
    exact .inl ⟨spans, hspans, hclosed, Token.not_unpaired_of_closed hpos hclosed⟩
  · have hresult : (scan word gated file offset page).result = .error (.fault (.unterminated o.kind
        ⟨file, some (offset + 1 + Text.newlines (Lexeme.texts before)), some o.text⟩)) := by
      rw [scan, hlex]
      exact result_ofPieces_of_unclosed hbefore hafter 0 (offset + 1) []
    obtain ⟨hunpaired, hfirst⟩ := Token.unpaired_of_unclosed 0 (offset + 1)
      (hlex ▸ hpos) hbefore hafter
    rw [← hlex] at hunpaired hfirst
    exact .inr ⟨_, o, hunpaired, hfirst, rfl, hresult⟩

/-- **Pairing is bracket matching.** The markers of a page are the leftmost ones that do not
overlap. The scan of the page fails just if an opening marker has no partner, and the fault names
the leftmost such marker with its line. Otherwise the blocks of the page are, in order, what stands
between the two markers of each pair that lies in no other pair. -/
theorem scan_eq_pairs (word : Text) (gated : Text → Bool) (file : Option Text) (offset : Int)
    (page : Text) :
    let ts := Token.ofPage word offset page
    Token.Leftmost word offset page 0 ts ∧
      ((∃ e, (scan word gated file offset page).result = .error e) ↔ ∃ t, Token.Unpaired ts t) ∧
      (∀ e, (scan word gated file offset page).result = .error e →
        ∃ t o, Token.Unpaired ts t ∧ (∀ u, Token.Unpaired ts u → t.position ≤ u.position) ∧
          t.marker = .opening o ∧
            e = .fault (.unterminated o.kind ⟨file, some t.line, some o.text⟩)) ∧
      ∀ spans, (scan word gated file offset page).result = .ok spans →
        (∀ d start stop, .block d start stop ∈ spans ↔ ∃ a b, Token.Outermost ts a b ∧
          Token.block? gated page a b = some (.block d start stop)) ∧
        (spans.filterMap place?).Pairwise fun p q => p.2 ≤ q.1 := by
  refine ⟨Token.leftmost_ofPage word offset page, ?_⟩
  rcases exists_spans_or_unpaired word gated file offset page with
    ⟨spans, hspans, hclosed, hpaired⟩ | ⟨t, o, hunpaired, hfirst, hmarker, hfails⟩
  · refine ⟨⟨fun ⟨e, he⟩ => ?_, fun ⟨t, ht⟩ => absurd ht (hpaired t)⟩, fun e he => ?_,
      fun spans' hspans' => ⟨mem_scan_iff_of_closed hclosed hspans',
        pairwise_places_of_scan hspans'⟩⟩
    · rw [hspans] at he
      cases he
    · rw [hspans] at he
      cases he
  · refine ⟨⟨fun _ => ⟨t, hunpaired⟩, fun _ => ⟨_, hfails⟩⟩, fun e he => ?_, fun spans hspans => ?_⟩
    · rw [hfails] at he
      cases he
      exact ⟨t, o, hunpaired, hfirst, hmarker, rfl⟩
    · rw [hfails] at hspans
      cases hspans

end Span
end BuildBlocks
