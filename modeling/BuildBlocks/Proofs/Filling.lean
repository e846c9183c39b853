import BuildBlocks.Proofs.BracedPattern
import BuildBlocks.Proofs.Escapes
import BuildBlocks.Proofs.MatchBounds
import Mathlib.Data.List.Forall2
import Mathlib.Data.List.Induction

/-!
# Filling changes placeholders only

A template is worked through from left to right. At every position the match that starts first is
chosen, the next one is looked for behind it, and behind an empty match one character is passed
over. `Successive` tells this story about positions of the text alone, for delimiters that may find
their matches in any way, as long as these lie in the text (`Delimiter.InBounds`).

The story has exactly one course, which ends, and the filled template is the template with every
chosen match replaced (`interpolate_replaces_matches`): by the value that its expression leads to,
or by itself.
-/

namespace BuildBlocks

namespace Text

/-- The text from one position to another. -/
def slice (text : Text) (start stop : Nat) : Text := (text.drop start).take (stop - start)

variable {a b c : Nat} (text : Text)

theorem take_append_slice (hab : a ≤ b) : text.take a ++ slice text a b = text.take b := by
  rw [slice, ← List.take_add, Nat.add_sub_cancel' hab]

theorem slice_append_drop (hab : a ≤ b) : slice text a b ++ text.drop b = text.drop a := by
  have hsplit := List.take_append_drop (b - a) (text.drop a)
  rwa [List.drop_drop, Nat.add_sub_cancel' hab] at hsplit

theorem slice_append_slice (hab : a ≤ b) (hbc : b ≤ c) :
    slice text a b ++ slice text b c = slice text a c := by
  have hdrop : text.drop b = (text.drop a).drop (b - a) := by
    rw [List.drop_drop, Nat.add_sub_cancel' hab]
  rw [slice, slice, hdrop, ← List.take_add, show b - a + (c - b) = c - a by omega, slice]

variable {text} in
theorem slice_eq_nil_iff (hbound : b ≤ text.length) : slice text a b = [] ↔ b ≤ a := by
  rw [← List.length_eq_zero_iff, slice, List.length_take, List.length_drop]
  omega

/-- The character behind a position, and what follows it. -/
theorem of_drop_eq_cons {ch : Char} {rest : Text} (h : text.drop a = ch :: rest) :
    a < text.length ∧ slice text a (a + 1) = [ch] ∧ text.drop (a + 1) = rest := by
  refine ⟨?_, ?_, ?_⟩
  · rw [← Nat.not_le, ← List.drop_eq_nil_iff, h]
    exact List.cons_ne_nil ch rest
  · rw [slice, h, Nat.add_sub_cancel_left]
    rfl
  · rw [← List.drop_drop, h]
    rfl

theorem newlines_take_add_slice (hab : a ≤ b) :
    newlines (text.take a) + newlines (slice text a b) = newlines (text.take b) := by
  rw [← newlines_append, take_append_slice text hab]

theorem reverse_slice_append (hab : a ≤ b) :
    (slice text a b).reverse ++ (text.take a).reverse = (text.take b).reverse := by
  rw [← List.reverse_append, take_append_slice text hab]

end Text

/-! ## What a placeholder becomes -/

namespace Expression

/-- Whether an expression is a path that leads to `v` in the data. -/
def LeadsTo (data : Value) (expression : Text) (v : Value) : Prop :=
  ∃ keys, parse expression = .ok (some keys) ∧ data.lookup? keys = some v

/-- Whether an expression is no path, or one that leads nowhere in the data. -/
def LeadsNowhere (data : Value) (expression : Text) : Prop :=
  parse expression = .ok none ∨
    ∃ keys, parse expression = .ok (some keys) ∧ data.lookup? keys = none

/-- What becomes of a placeholder that is written as `written`: the text of the value that its
expression leads to, escaped for markup if it has to be, or itself if the expression leads
nowhere. -/
inductive Filled (data : Value) (escapes : Bool) (written expression : Text) : Text → Prop
  | value {v : Value} {s : Text} (hlead : LeadsTo data expression v)
    (hrender : v.render? = some s) :
    Filled data escapes written expression (if escapes then Text.escapeMarkup s else s)
  | verbatim (hlead : LeadsNowhere data expression) :
    Filled data escapes written expression written

variable {data : Value} {expression : Text}

theorem exists_keys_of_parse {keys : List Key} (h : parse expression = .ok (some keys)) :
    ∃ name rest, keys = .name name :: rest := by
  unfold parse at h
  split at h
  · cases h
  · next name rest hident =>
    cases hsegments : segments rest with
    | error e =>
      rw [hsegments] at h
      cases h
    | ok found =>
      rw [hsegments] at h
      cases found with
      | none => cases h
      | some rest =>
        cases h
        exact ⟨name, rest, rfl⟩

/-- Without data no path leads anywhere. -/
theorem not_leadsTo_empty {v : Value} : ¬ LeadsTo (.mapping []) expression v := by
  rintro ⟨keys, hparse, hlookup⟩
  obtain ⟨name, rest, rfl⟩ := exists_keys_of_parse hparse
  cases hlookup

theorem Filled.eq_written {escapes : Bool} {written r : Text}
    (h : Filled data escapes written expression r) (hlead : ∀ v, ¬ LeadsTo data expression v) :
    r = written := by
  cases h with
  | value hv _ => exact absurd hv (hlead _)
  | verbatim _ => rfl

end Expression

open Expression
open Pattern (inBraces)

variable {ds : List Delimiter} {file : Option Text} {data : Value} {text : Text}

namespace Placeholder

variable {p : Placeholder} {r : Text}

theorem resolve_eq_ok_none_iff : p.resolve data = .ok none ↔ LeadsNowhere data p.expression := by
  unfold resolve LeadsNowhere
  cases parse p.expression with
  | error e => simp
  | ok found =>
    cases found with
    | none => simp
    | some keys =>
      cases hlookup : data.lookup? keys with
      | none => simp [hlookup]
      | some v => cases hrender : v.render? <;> simp [hlookup, hrender]

theorem resolve_eq_ok_some_iff :
    p.resolve data = .ok (some r) ↔
      ∃ v s, LeadsTo data p.expression v ∧ v.render? = some s ∧
        r = if p.escapes then Text.escapeMarkup s else s := by
  unfold resolve LeadsTo
  cases parse p.expression with
  | error e => simp
  | ok found =>
    cases found with
    | none => simp
    | some keys =>
      cases hlookup : data.lookup? keys with
      | none => simp [hlookup]
      | some v =>
        cases hrender : v.render? with
        | none => simp [hlookup, hrender]
        | some s => simpa [hlookup, hrender] using eq_comm

/-- What a permissive run puts for a placeholder. -/
theorem result_fill_eq_ok_iff :
    (p.fill false file data).result = .ok r ↔ Filled data p.escapes p.text p.expression r := by
  rw [fill, Outcome.result_bind, Outcome.result_ofExcept, bind_eq_ok_iff]
  constructor
  · rintro ⟨found, hresolve, h⟩
    cases found with
    | some s =>
      cases h
      obtain ⟨v, s, hlead, hrender, rfl⟩ := resolve_eq_ok_some_iff.1 hresolve
      exact .value hlead hrender
    | none =>
      cases h
      exact .verbatim (resolve_eq_ok_none_iff.1 hresolve)
  · rintro (⟨hlead, hrender⟩ | hlead)
    · exact ⟨_, resolve_eq_ok_some_iff.2 ⟨_, _, hlead, hrender, rfl⟩, rfl⟩
    · exact ⟨_, resolve_eq_ok_none_iff.2 hlead, rfl⟩

end Placeholder

/-! ## The chosen match -/

/-- A match in a text: where it starts and where it stops, what its groups have matched, and whether
its value is escaped for markup. -/
structure Match where
  start : Nat
  stop : Nat
  captures : List (Nat × Text)
  escapes : Bool
  deriving DecidableEq, Repr

namespace Match

/-- The text that has been matched. -/
def textIn (m : Match) (text : Text) : Text := Text.slice text m.start m.stop

/-- The expression of a match: what its first group has matched, or all of it. -/
def expressionIn (m : Match) (text : Text) : Text := (m.captures.lookup 1).getD (m.textIn text)

/-- The match as a placeholder. -/
def placeholderIn (m : Match) (text : Text) : Placeholder where
  text := m.textIn text
  expression := m.expressionIn text
  line := 1 + Text.newlines (text.take m.start)
  escapes := m.escapes

/-- Where the next match is looked for: behind this one, and one character further on if this one is
empty. -/
def next (m : Match) : Nat := if m.start = m.stop then m.stop + 1 else m.stop

/-- What becomes of a match. -/
def Becomes (data : Value) (text : Text) (m : Match) (r : Text) : Prop :=
  Filled data m.escapes (m.textIn text) (m.expressionIn text) r

/-- The match that was found when looking from a position on. -/
def ofChoice (position : Nat) (c : Segment.Choice) : Match where
  start := position + c.1.skipped
  stop := position + c.1.skipped + c.1.length
  captures := c.1.captures
  escapes := c.2

end Match

namespace Delimiter

/-- The match that a delimiter finds first from a position on. -/
def matchFrom (d : Delimiter) (text : Text) (position : Nat) : Option Match :=
  (d.search (text.take position).reverse (text.drop position)).map fun hit =>
    .ofChoice position (hit, d.escapes)

/-- Whether a delimiter only finds what lies in the text. -/
def InBounds (d : Delimiter) : Prop :=
  ∀ {before after hit}, d.search before after = some hit → hit.skipped + hit.length ≤ after.length

end Delimiter

/-- The delimiters of a page are in bounds, whatever their patterns are. -/
theorem Delimiters.inBounds (ds : Delimiters) : ∀ d ∈ ds.toList, d.InBounds := by
  intro d hd
  rcases List.mem_append.1 hd with hescape | hinterpolate
  · obtain ⟨p, -, rfl⟩ := List.mem_map.1 hescape
    exact fun h => Pattern.add_length_le_of_search h
  · cases List.mem_singleton.1 hinterpolate
    exact fun h => Pattern.add_length_le_of_search h

/-- Whether `m` is the match that is chosen at a position: it is found from there on, no other one
starts before it, and none of a delimiter that is listed earlier starts together with it. -/
def IsChosen (ds : List Delimiter) (text : Text) (position : Nat) (m : Match) : Prop :=
  ∃ preferred d others, ds = preferred ++ d :: others ∧ d.matchFrom text position = some m ∧
    (∀ d' ∈ preferred, ∀ m', d'.matchFrom text position = some m' → m.start < m'.start) ∧
    ∀ d' ∈ others, ∀ m', d'.matchFrom text position = some m' → m.start ≤ m'.start

/-- The matches that are chosen from a position on. -/
inductive Successive (ds : List Delimiter) (text : Text) : Nat → List Match → Prop
  | past {position : Nat} (hposition : text.length < position) : Successive ds text position []
  | none {position : Nat} (hposition : position ≤ text.length)
      (hnone : ∀ d ∈ ds, d.matchFrom text position = none) : Successive ds text position []
  | next {position : Nat} {m : Match} {ms : List Match} (hposition : position ≤ text.length)
      (hchosen : IsChosen ds text position m) (hnext : Successive ds text m.next ms) :
    Successive ds text position (m :: ms)

/-- The match that the cutting chooses at a position. -/
def chosen? (ds : List Delimiter) (text : Text) (position : Nat) : Option Match :=
  (Segment.choose ds (text.take position).reverse (text.drop position)).map (.ofChoice position)

section Chosen

variable {position : Nat} {m : Match} {d : Delimiter}

theorem chosen?_append_singleton :
    chosen? (ds ++ [d]) text position =
      match chosen? ds text position, d.matchFrom text position with
      | .none, found => found
      | some m, .none => some m
      | some m, some m' => if m'.start < m.start then some m' else some m := by
  unfold chosen? Delimiter.matchFrom
  rw [Segment.choose, List.foldl_append, List.foldl_cons, List.foldl_nil]
  change (Segment.earlier (Segment.choose ds _ _) _).map _ = _
  cases Segment.choose ds (text.take position).reverse (text.drop position) with
  | none => cases d.search (text.take position).reverse (text.drop position) <;> rfl
  | some c =>
    cases d.search (text.take position).reverse (text.drop position) with
    | none => rfl
    | some hit =>
      simp only [Segment.earlier, Option.map_some, Match.ofChoice, Nat.add_lt_add_iff_left]
      split <;> rfl

theorem chosen?_eq_none_iff :
    chosen? ds text position = none ↔ ∀ d ∈ ds, d.matchFrom text position = none := by
  induction ds using List.reverseRecOn with
  | nil => simp [chosen?, Segment.choose]
  | append_singleton ds d ih =>
    rw [chosen?_append_singleton, List.forall_mem_append, ← ih]
    cases chosen? ds text position with
    | none => simp
    | some m =>
      cases d.matchFrom text position with
      | none => simp
      | some m' =>
        dsimp only
        split <;> simp

/-- A match stays chosen if a delimiter is listed last that finds nothing before it. -/
theorem IsChosen.append_singleton (h : IsChosen ds text position m)
    (hle : ∀ m', d.matchFrom text position = some m' → m.start ≤ m'.start) :
    IsChosen (ds ++ [d]) text position m := by
  obtain ⟨preferred, d₁, others, rfl, hfound, hpreferred, hothers⟩ := h
  refine ⟨preferred, d₁, others ++ [d], by simp, hfound, hpreferred, ?_⟩
  rw [List.forall_mem_append]
  refine ⟨hothers, ?_⟩
  rintro _ hd
  cases List.mem_singleton.1 hd
  exact hle

/-- The match of the delimiter that is listed last is chosen if it starts before the match that is
chosen otherwise. -/
theorem IsChosen.of_last {m' : Match} (h : IsChosen ds text position m)
    (hlast : d.matchFrom text position = some m') (hlt : m'.start < m.start) :
    IsChosen (ds ++ [d]) text position m' := by
  obtain ⟨preferred, d₁, others, rfl, hfound, hpreferred, hothers⟩ := h
  refine ⟨preferred ++ d₁ :: others, d, [], rfl, hlast, ?_, by simp⟩
  intro d' hd' m'' hm''
  rcases List.mem_append.1 hd' with hmem | hmem
  · exact hlt.trans (hpreferred d' hmem m'' hm'')
  · rcases List.mem_cons.1 hmem with rfl | hmem
    · cases hfound.symm.trans hm''
      exact hlt
    · exact hlt.trans_le (hothers d' hmem m'' hm'')

theorem isChosen_of_chosen? (h : chosen? ds text position = some m) :
    IsChosen ds text position m := by
  -- on the delimiters from the last one: it wins only if it matches strictly before the others
  induction ds using List.reverseRecOn generalizing m with
  | nil => cases h
  | append_singleton ds d ih =>
    rw [chosen?_append_singleton] at h
    cases hchosen : chosen? ds text position with
    | none =>
      rw [hchosen] at h
      refine ⟨ds, d, [], rfl, h, fun d' hd' m' hm' => ?_, by simp⟩
      rw [chosen?_eq_none_iff.1 hchosen d' hd'] at hm'
      cases hm'
    | some m₁ =>
      rw [hchosen] at h
      cases hlast : d.matchFrom text position with
      | none =>
        rw [hlast] at h
        cases h
        exact (ih hchosen).append_singleton fun m' hm' => absurd hm' (by simp [hlast])
      | some m₂ =>
        rw [hlast] at h
        dsimp only at h
        split at h
        · next hlt =>
          cases h
          exact (ih hchosen).of_last hlast hlt
        · next hle =>
          cases h
          refine (ih hchosen).append_singleton fun m' hm' => ?_
          cases hlast.symm.trans hm'
          exact Nat.not_lt.1 hle

/-- No two matches are chosen at one position. -/
theorem IsChosen.unique {m' : Match} (h : IsChosen ds text position m)
    (h' : IsChosen ds text position m') : m = m' := by
  obtain ⟨preferred, d, others, hds, hfound, hpreferred, hothers⟩ := h
  obtain ⟨preferred', d', others', hds', hfound', hpreferred', hothers'⟩ := h'
  rcases List.append_eq_append_iff.1 (hds.symm.trans hds') with
    ⟨between, hbetween, htail⟩ | ⟨between, hbetween, htail⟩
  · cases between with
    | nil =>
      cases htail
      exact Option.some.inj (hfound.symm.trans hfound')
    | cons d₁ between =>
      -- the first delimiter is listed before the second one
      obtain ⟨rfl, rfl⟩ := List.cons_eq_cons.1 htail
      have hlt := hpreferred' d (by simp [hbetween]) m hfound
      have hle := hothers d' (by simp) m' hfound'
      omega
  · cases between with
    | nil =>
      cases htail
      exact Option.some.inj (hfound.symm.trans hfound')
    | cons d₁ between =>
      obtain ⟨rfl, rfl⟩ := List.cons_eq_cons.1 htail
      have hlt := hpreferred d' (by simp [hbetween]) m' hfound'
      have hle := hothers' d (by simp) m hfound
      omega

theorem isChosen_iff : IsChosen ds text position m ↔ chosen? ds text position = some m := by
  refine ⟨fun h => ?_, isChosen_of_chosen?⟩
  cases hchosen : chosen? ds text position with
  | none =>
    obtain ⟨preferred, d, others, rfl, hfound, -⟩ := h
    rw [chosen?_eq_none_iff.1 hchosen d (by simp)] at hfound
    cases hfound
  | some m' => rw [h.unique (isChosen_of_chosen? hchosen)]

end Chosen

/-! ## One course -/

section Course

variable {position : Nat} {m : Match} {ms ms' : List Match}

/-- A chosen match lies in the text behind the position. -/
theorem IsChosen.bounds (hds : ∀ d ∈ ds, d.InBounds) (hposition : position ≤ text.length)
    (h : IsChosen ds text position m) :
    position ≤ m.start ∧ m.start ≤ m.stop ∧ m.stop ≤ text.length := by
  obtain ⟨preferred, d, others, rfl, hfound, -⟩ := h
  obtain ⟨hit, hsearch, rfl⟩ := Option.map_eq_some_iff.1 hfound
  have hbound := hds d (by simp) hsearch
  rw [List.length_drop] at hbound
  simp only [Match.ofChoice]
  omega

theorem IsChosen.next_bounds (hds : ∀ d ∈ ds, d.InBounds) (hposition : position ≤ text.length)
    (h : IsChosen ds text position m) : position < m.next ∧ m.stop ≤ m.next := by
  have hbounds := h.bounds hds hposition
  unfold Match.next
  split <;> omega

/-- Looking for matches comes to an end. -/
theorem exists_successive (hds : ∀ d ∈ ds, d.InBounds) (position : Nat) :
    ∃ ms, Successive ds text position ms := by
  induction hleft : text.length + 1 - position using Nat.strong_induction_on
    generalizing position with
  | _ left ih =>
    rcases Nat.lt_or_ge text.length position with hpast | hposition
    · exact ⟨[], .past hpast⟩
    · cases hchosen : chosen? ds text position with
      | none => exact ⟨[], .none hposition (chosen?_eq_none_iff.1 hchosen)⟩
      | some m =>
        have hm := isChosen_of_chosen? hchosen
        have hnext := (hm.next_bounds hds hposition).1
        obtain ⟨ms, hms⟩ := ih (text.length + 1 - m.next) (by omega) m.next rfl
        exact ⟨m :: ms, .next hposition hm hms⟩

/-- Nothing about the matches is left open. -/
theorem Successive.unique (h : Successive ds text position ms)
    (h' : Successive ds text position ms') : ms = ms' := by
  induction h generalizing ms' with
  | past hpast =>
    cases h' with
    | past | none => rfl
    | next hposition => omega
  | none hposition hnone =>
    cases h' with
    | past | none => rfl
    | next _ hchosen =>
      rw [isChosen_iff, chosen?_eq_none_iff.2 hnone] at hchosen
      cases hchosen
  | next hposition hchosen _ ih =>
    cases h' with
    | past hpast => omega
    | none _ hnone =>
      rw [isChosen_iff, chosen?_eq_none_iff.2 hnone] at hchosen
      cases hchosen
    | next _ hchosen' hnext' =>
      cases hchosen.unique hchosen'
      rw [ih hnext']

end Course

/-! ## Between the matches -/

/-- The text from a position to the first match, between the matches, and behind the last one. -/
def gaps (text : Text) : (position : Nat) → List Match → List Text
  | position, [] => [text.drop position]
  | position, m :: ms => Text.slice text position m.start :: gaps text m.stop ms

/-- Texts by turns, first one of the first list. -/
def weave : List Text → List Text → Text
  | g :: gs, m :: ms => g ++ m ++ weave gs ms
  | gs, _ => gs.flatten

/-- What stands before the first gap stands before the whole. -/
theorem weave_append_cons (a g : Text) (gs rs : List Text) :
    weave ((a ++ g) :: gs) rs = a ++ weave (g :: gs) rs := by
  cases rs <;> simp [weave]

section Gaps

variable {position earlier : Nat} {ms : List Match}

/-- The first gap may start before the place where the first match is looked for. -/
theorem weave_gaps_of_le (hds : ∀ d ∈ ds, d.InBounds) (h : Successive ds text position ms)
    (hle : earlier ≤ position) (rs : List Text) :
    weave (gaps text earlier ms) rs =
      Text.slice text earlier position ++ weave (gaps text position ms) rs := by
  cases h with
  | past | none => rw [gaps, gaps, ← weave_append_cons, Text.slice_append_drop _ hle]
  | next hposition hchosen _ =>
    rw [gaps, gaps, ← weave_append_cons,
      Text.slice_append_slice _ hle (hchosen.bounds hds hposition).1]

/-- The gaps and the matches are the text. -/
theorem weave_gaps_texts (hds : ∀ d ∈ ds, d.InBounds) (h : Successive ds text position ms)
    (hle : earlier ≤ position) :
    weave (gaps text earlier ms) (ms.map (·.textIn text)) = text.drop earlier := by
  induction h generalizing earlier with
  | past | none => simp [gaps, weave]
  | next hposition hchosen _ ih =>
    obtain ⟨hstart, hstop, -⟩ := hchosen.bounds hds hposition
    rw [List.map_cons, gaps, weave, ih (hchosen.next_bounds hds hposition).2, List.append_assoc,
      Match.textIn, Text.slice_append_drop _ hstop, Text.slice_append_drop _ (hle.trans hstart)]

end Gaps

/-! ## The segments of a template -/

/-- The segments from a position of a text on. -/
def cutAt (ds : List Delimiter) (text : Text) (position : Nat) : List Segment :=
  Segment.cutFrom ds (1 + Text.newlines (text.take position)) (text.take position).reverse
    (text.drop position)

section Cut

variable {position : Nat} {m : Match}

theorem cutAt_of_none (h : chosen? ds text position = none) :
    cutAt ds text position = [.text (text.drop position)] := by
  rw [cutAt, Segment.cutFrom, Option.map_eq_none_iff.1 h]

/-- The segments behind a chosen match. -/
def cutBehind (ds : List Delimiter) (text : Text) (m : Match) : List Segment :=
  if m.start < m.stop then cutAt ds text m.stop
  else if m.stop < text.length then
    .text (Text.slice text m.stop m.next) :: cutAt ds text m.next
  else []

theorem cutAt_of_chosen (h : chosen? ds text position = some m) (hle : m.stop ≤ text.length) :
    cutAt ds text position =
      .text (Text.slice text position m.start) :: .placeholder (m.placeholderIn text) ::
        cutBehind ds text m := by
  obtain ⟨choice, hchoose, hm⟩ := Option.map_eq_some_iff.1 h
  have hstart : position + choice.1.skipped = m.start := by simp [← hm, Match.ofChoice]
  have hstop : m.start + choice.1.length = m.stop := by simp [← hm, Match.ofChoice]
  have hgap : (text.drop position).take choice.1.skipped = Text.slice text position m.start := by
    rw [Text.slice, ← hstart, Nat.add_sub_cancel_left]
  have hmatched : (text.drop m.start).take choice.1.length = m.textIn text := by
    rw [Match.textIn, Text.slice, ← hstop, Nat.add_sub_cancel_left]
  have hline := Text.newlines_take_add_slice text (by omega : position ≤ m.start)
  have hfound : Segment.toPlaceholder choice (1 + Text.newlines (text.take m.start))
      (m.textIn text) = m.placeholderIn text := by
    rw [← hm]
    rfl
  rw [cutAt, Segment.cutFrom, hchoose]
  dsimp only
  rw [hgap, List.drop_drop, hstart, hmatched, Nat.add_assoc 1, hline, hfound,
    Text.reverse_slice_append text (by omega)]
  unfold cutBehind
  split
  · -- an empty match is passed with the character behind it, if there is one
    next hempty =>
    have hlast := (Text.slice_eq_nil_iff hle).1 hempty
    have heq : m.start = m.stop := by omega
    rw [if_neg (by omega)]
    split
    · next hnil =>
      have hend := List.drop_eq_nil_iff.1 hnil
      rw [if_neg (by omega)]
    · next c rest hcons =>
      have hnext : m.next = m.start + 1 := by rw [Match.next, if_pos heq, heq]
      obtain ⟨hlength, hpassed, hrest⟩ := Text.of_drop_eq_cons text hcons
      rw [← hnext] at hpassed hrest
      have hbefore : c :: (text.take m.start).reverse = (text.take m.next).reverse := by
        rw [← Text.reverse_slice_append text (by omega : m.start ≤ m.next), hpassed]
        rfl
      rw [if_pos (by omega), ← heq, ← hpassed, hbefore, ← hrest, Nat.add_assoc 1,
        Text.newlines_take_add_slice text (by omega), cutAt]
  · next hmatch =>
    have hlt := mt (Text.slice_eq_nil_iff hle).2 hmatch
    rw [if_pos (by omega), List.drop_drop, hstop, Match.textIn, Nat.add_assoc 1,
      Text.newlines_take_add_slice text (by omega), Text.reverse_slice_append text (by omega),
      cutAt]

end Cut

/-! ## Filling -/

section Fill

variable {position : Nat} {m : Match} {ms : List Match} {out : Text}

theorem result_fillAll_cons_eq_ok_iff {s : Segment} {ss : List Segment} :
    (Segment.fillAll false file data (s :: ss)).result = .ok out ↔
      ∃ first rest, (s.fill false file data).result = .ok first ∧
        (Segment.fillAll false file data ss).result = .ok rest ∧ first ++ rest = out := by
  rw [Segment.result_fillAll_cons, bind_eq_ok_iff]
  cases (Segment.fillAll false file data ss).result <;> simp [Except.map]

theorem result_fillAll_text_eq_ok_iff {s : Text} {ss : List Segment} :
    (Segment.fillAll false file data (.text s :: ss)).result = .ok out ↔
      ∃ rest, (Segment.fillAll false file data ss).result = .ok rest ∧ s ++ rest = out := by
  rw [result_fillAll_cons_eq_ok_iff]
  constructor
  · rintro ⟨first, rest, hfirst, hrest, rfl⟩
    cases hfirst
    exact ⟨rest, hrest, rfl⟩
  · rintro ⟨rest, hrest, rfl⟩
    exact ⟨s, rest, rfl, hrest, rfl⟩

/-- What the segments behind a chosen match become, from what those become that are cut where the
next match is looked for. -/
theorem result_fillAll_cutBehind_eq_ok_iff (hds : ∀ d ∈ ds, d.InBounds)
    (hstart : m.start ≤ m.stop) (hstop : m.stop ≤ text.length)
    (hnext : Successive ds text m.next ms)
    (ih : m.next ≤ text.length → ∀ out,
      (Segment.fillAll false file data (cutAt ds text m.next)).result = .ok out ↔
        ∃ rs, List.Forall₂ (Match.Becomes data text) ms rs ∧ weave (gaps text m.next ms) rs = out) :
    (Segment.fillAll false file data (cutBehind ds text m)).result = .ok out ↔
      ∃ rs, List.Forall₂ (Match.Becomes data text) ms rs ∧
        weave (gaps text m.stop ms) rs = out := by
  unfold cutBehind
  split
  · next hlt =>
    have hbehind : m.next = m.stop := if_neg hlt.ne
    exact hbehind ▸ ih (hbehind ▸ hstop) out
  · next hempty =>
    have hbehind : m.next = m.stop + 1 := if_pos (by omega)
    split
    · next hinside =>
      -- the character that is passed over belongs to the gap behind the match
      simp only [result_fillAll_text_eq_ok_iff, ih (by omega : m.next ≤ text.length),
        weave_gaps_of_le hds hnext (by omega : m.stop ≤ m.next)]
      constructor
      · rintro ⟨_, ⟨rs, hrs, rfl⟩, rfl⟩
        exact ⟨rs, hrs, rfl⟩
      · rintro ⟨rs, hrs, rfl⟩
        exact ⟨_, ⟨rs, hrs, rfl⟩, rfl⟩
    · next hend =>
      have hnil : text.drop m.stop = [] := List.drop_eq_nil_iff.2 (by omega)
      cases hnext with
      | past => simp [Segment.fillAll, gaps, weave, hnil]
      | none hposition | next hposition => omega

/-- What the segments from a position on become: the text with the matches replaced. -/
theorem result_fillAll_cutAt_eq_ok_iff (hds : ∀ d ∈ ds, d.InBounds)
    (h : Successive ds text position ms) (hposition : position ≤ text.length) (out : Text) :
    (Segment.fillAll false file data (cutAt ds text position)).result = .ok out ↔
      ∃ rs, List.Forall₂ (Match.Becomes data text) ms rs ∧
        weave (gaps text position ms) rs = out := by
  induction h generalizing out with
  | past hpast => omega
  | none _ hnone =>
    rw [cutAt_of_none (chosen?_eq_none_iff.2 hnone), result_fillAll_text_eq_ok_iff]
    simp [Segment.fillAll, gaps, weave]
  | @next position m ms _ hchosen hnext ih =>
    obtain ⟨-, hstart, hstop⟩ := hchosen.bounds hds hposition
    rw [cutAt_of_chosen (isChosen_iff.1 hchosen) hstop, result_fillAll_text_eq_ok_iff]
    simp only [result_fillAll_cons_eq_ok_iff, List.forall₂_cons_left_iff,
      result_fillAll_cutBehind_eq_ok_iff hds hstart hstop hnext ih]
    constructor
    · rintro ⟨_, ⟨r, _, hr, ⟨rs, hrs, rfl⟩, rfl⟩, rfl⟩
      refine ⟨r :: rs, ⟨r, rs, Placeholder.result_fill_eq_ok_iff.1 hr, hrs, rfl⟩, ?_⟩
      rw [gaps, weave, List.append_assoc]
    · rintro ⟨_, ⟨r, rs, hr, hrs, rfl⟩, rfl⟩
      refine ⟨_, ⟨r, _, Placeholder.result_fill_eq_ok_iff.2 hr, ⟨rs, hrs, rfl⟩, rfl⟩, ?_⟩
      rw [gaps, weave, List.append_assoc]

/-- The filled template is the template with its matches replaced. -/
theorem result_interpolate_eq_ok_iff (hds : ∀ d ∈ ds, d.InBounds)
    (h : Successive ds text 0 ms) :
    (interpolate ds false file data text).result = .ok out ↔
      ∃ rs, List.Forall₂ (Match.Becomes data text) ms rs ∧ weave (gaps text 0 ms) rs = out :=
  result_fillAll_cutAt_eq_ok_iff hds h (Nat.zero_le _) out

/-- Where no match leads anywhere, the template stays as it is. -/
theorem forall₂_becomes_of_leadsNowhere
    (h : ∀ m ∈ ms, LeadsNowhere data (m.expressionIn text)) :
    List.Forall₂ (Match.Becomes data text) ms (ms.map (·.textIn text)) := by
  rw [List.forall₂_map_right_iff]
  exact List.forall₂_same.2 fun m hm => .verbatim (h m hm)

theorem eq_texts_of_not_leadsTo {rs : List Text}
    (h : ∀ m ∈ ms, ∀ v, ¬ LeadsTo data (m.expressionIn text) v)
    (hrs : List.Forall₂ (Match.Becomes data text) ms rs) : rs = ms.map (·.textIn text) := by
  induction hrs with
  | nil => rfl
  | cons hr _ ih =>
    obtain ⟨hfirst, hrest⟩ := List.forall_mem_cons.1 h
    rw [List.map_cons, hr.eq_written hfirst, ih hrest]

/-- Filling replaces the chosen matches and touches nothing else, whatever the delimiters are. Those of
a page are one that escapes, if it is given, and then the other one (`Delimiters.toList`). -/
theorem interpolate_replaces_matches (hds : ∀ d ∈ ds, d.InBounds) (file : Option Text)
    (data : Value) (text : Text) :
    ∃ ms, Successive ds text 0 ms ∧ (∀ ms', Successive ds text 0 ms' → ms' = ms) ∧
      weave (gaps text 0 ms) (ms.map (·.textIn text)) = text ∧
      (∀ out, (interpolate ds false file data text).result = .ok out ↔
        ∃ rs, List.Forall₂ (Match.Becomes data text) ms rs ∧ weave (gaps text 0 ms) rs = out) ∧
      ((∀ m ∈ ms, LeadsNowhere data (m.expressionIn text)) →
        (interpolate ds false file data text).result = .ok text) ∧
      ∀ out, (interpolate ds false file (.mapping []) text).result = .ok out → out = text := by
  obtain ⟨ms, hms⟩ : ∃ ms, Successive ds text 0 ms := exists_successive hds 0
  have htext : weave (gaps text 0 ms) (ms.map (·.textIn text)) = text :=
    weave_gaps_texts hds hms le_rfl
  refine ⟨ms, hms, fun ms' hms' => hms'.unique hms, htext,
    fun out => result_interpolate_eq_ok_iff hds hms, fun hnowhere => ?_, fun out hout => ?_⟩
  · exact (result_interpolate_eq_ok_iff hds hms).2
      ⟨_, forall₂_becomes_of_leadsNowhere hnowhere, htext⟩
  · obtain ⟨rs, hrs, rfl⟩ := (result_interpolate_eq_ok_iff hds hms).1 hout
    rw [eq_texts_of_not_leadsTo (fun m _ v => not_leadsTo_empty) hrs, htext]

/-- With the pattern of braces, `${a}` is filled and `${b}` stays. -/
theorem interpolate_replaces_matches_of_braced :
    ∃ ms rs,
      Successive (Delimiters.toList ⟨.braced, none⟩) (inBraces ['a'] ++ inBraces ['b']) 0 ms ∧
      List.Forall₂ (Match.Becomes (.mapping [(.text ['a'], .text ['1'])])
        (inBraces ['a'] ++ inBraces ['b'])) ms rs ∧
      weave (gaps (inBraces ['a'] ++ inBraces ['b']) 0 ms) rs = '1' :: inBraces ['b'] := by
  obtain ⟨ms, hms, -, -, hout, -⟩ := interpolate_replaces_matches
    (Delimiters.inBounds ⟨.braced, none⟩) none (.mapping [(.text ['a'], .text ['1'])])
    (inBraces ['a'] ++ inBraces ['b'])
  obtain ⟨rs, hrs, heq⟩ := (hout ('1' :: inBraces ['b'])).1 (by decide +kernel)
  exact ⟨ms, rs, hms, hrs, heq⟩

end Fill

end BuildBlocks
