import BuildBlocks.Proofs.Filling
import BuildBlocks.Proofs.IntegersInValues

/-!
# Templates with placeholders in braces

With the pattern that holds if nothing is set, a template is literals and expressions by turns, and
filling it puts what the expressions lead to in their places (`interpolate_weave`). Nothing is asked
of the values, and little of the rest: literals do not start a placeholder, expressions do not end
one, and there are no numbers too long to be read or written.

Where the placeholders are does not depend on what meets at their ends
(`exists_successive_placeholders`): a literal may end in a dollar sign, and an expression may hold
what starts a placeholder.
-/

namespace BuildBlocks

open Expression
open Pattern (braced inBraces opener)

/-! ## Numbers in expressions -/

namespace Expression

/-- Whether a number with the digits `ds` is read among the segments at the start of a text. -/
inductive SegmentIndex : (s ds : Text) → Prop
  | here {s rest ds : Text} {negative : Bool} (h : segment? s = some (.digits negative ds, rest)) :
    SegmentIndex s ds
  | later {s rest ds : Text} {w : Written} (h : segment? s = some (w, rest))
    (hrest : SegmentIndex rest ds) : SegmentIndex s ds

/-- Whether a number with the digits `ds` is read as an index when an expression is parsed. -/
def HasIndex (expression ds : Text) : Prop :=
  ∃ name rest, ident? expression.trim = some (name, rest) ∧ SegmentIndex rest ds

theorem exists_segments {s : Text}
    (h : ∀ ds, SegmentIndex s ds → ds.length ≤ Whole.maxDigits) : ∃ r, segments s = .ok r := by
  fun_induction segments s with
  | case1 => exact ⟨_, rfl⟩
  | case2 => exact ⟨_, rfl⟩
  | case3 s _ w rest hsegment e hkey =>
    -- a number that is too long is one of the indices
    exfalso
    unfold Written.toKey at hkey
    split at hkey
    · cases hkey
    · split at hkey
      · next hlong => exact absurd (h _ (.here hsegment)) (Nat.not_le.2 hlong)
      · cases hkey
  | case4 s _ w rest hsegment key hkey ih =>
    obtain ⟨r, hr⟩ := ih fun ds hds => h ds (.later hsegment hds)
    rw [hr]
    exact ⟨_, rfl⟩

theorem exists_parse {expression : Text}
    (h : ∀ ds, HasIndex expression ds → ds.length ≤ Whole.maxDigits) :
    ∃ r, parse expression = .ok r := by
  unfold parse
  split
  · exact ⟨_, rfl⟩
  · next name rest hident =>
    obtain ⟨r, hr⟩ := exists_segments fun ds hds => h ds ⟨name, rest, hident, hds⟩
    rw [hr]
    exact ⟨_, rfl⟩

/-- A placeholder becomes something if no number that counts is too long. -/
theorem exists_filled {data : Value} {expression : Text}
    (hdata : ∀ n, data.HasInt n → Whole.IsShort n)
    (hindex : ∀ ds, HasIndex expression ds → ds.length ≤ Whole.maxDigits) (escapes : Bool)
    (written : Text) : ∃ r, Filled data escapes written expression r := by
  obtain ⟨found, hparse⟩ := exists_parse hindex
  cases found with
  | none => exact ⟨written, .verbatim (.inl hparse)⟩
  | some keys =>
    cases hlookup : data.lookup? keys with
    | none => exact ⟨written, .verbatim (.inr ⟨keys, hparse, hlookup⟩)⟩
    | some v =>
      obtain ⟨s, hrender⟩ := Value.exists_render?_of_lookup? hdata hlookup
      exact ⟨_, .value ⟨keys, hparse, hlookup⟩ hrender⟩

end Expression

/-! ## Where the placeholders are -/

/-- The placeholder with an expression, from `start` on. -/
def Match.braced (start : Nat) (expression : Text) : Match where
  start := start
  stop := start + (inBraces expression).length
  captures := [(1, expression)]
  escapes := false

/-- A delimiter of placeholders in braces. -/
def Delimiter.braced : Delimiter := ⟨Pattern.braced.search, false⟩

section Placeholders

variable {text before rest l expression : Text}

theorem isChosen_braced (htext : text = before ++ (l ++ (inBraces expression ++ rest)))
    (hl : ¬ opener <:+: l) (hne : expression ≠ []) (hbrace : '\x7d' ∉ expression) :
    IsChosen [.braced] text before.length (.braced (before.length + l.length) expression) := by
  refine ⟨[], .braced, [], rfl, ?_, by simp, by simp⟩
  rw [Delimiter.matchFrom, htext, List.take_left, List.drop_left]
  change (Pattern.braced.search _ _).map _ = _
  rw [Pattern.search_braced hl hne hbrace]
  rfl

theorem textIn_braced (htext : text = before ++ (l ++ (inBraces expression ++ rest))) :
    (Match.braced (before.length + l.length) expression).textIn text = inBraces expression := by
  rw [Match.textIn, Text.slice, htext]
  simp [Match.braced]

/-- The matches in literals and placeholders by turns are the placeholders. -/
theorem exists_successive_placeholders {literals expressions : List Text}
    (hlength : literals.length = expressions.length + 1)
    (htext : text = before ++ weave literals (expressions.map inBraces))
    (hliterals : ∀ l ∈ literals, ¬ opener <:+: l)
    (hexpressions : ∀ e ∈ expressions, e ≠ [] ∧ '\x7d' ∉ e) :
    ∃ ms, Successive [.braced] text before.length ms ∧ gaps text before.length ms = literals ∧
      List.Forall₂ (fun e (m : Match) => m.textIn text = inBraces e ∧ m.expressionIn text = e ∧
        m.escapes = false) expressions ms := by
  induction expressions generalizing literals before with
  | nil =>
    obtain ⟨l, rfl⟩ := List.length_eq_one_iff.1 hlength
    have htail : text = before ++ l := by simpa [weave] using htext
    refine ⟨[], .none (by simp [htail]) ?_, by simp [gaps, htail], .nil⟩
    intro d hd
    rw [List.mem_singleton.1 hd, Delimiter.matchFrom, htail, List.take_left, List.drop_left]
    change (Pattern.braced.search _ _).map _ = _
    rw [Pattern.search_braced_eq_none (hliterals l List.mem_cons_self)]
    rfl
  | cons e es ih =>
    obtain ⟨l, ls, rfl⟩ := List.exists_cons_of_length_eq_add_one hlength
    obtain ⟨hl, hls⟩ := List.forall_mem_cons.1 hliterals
    obtain ⟨⟨hne, hbrace⟩, hes⟩ := List.forall_mem_cons.1 hexpressions
    rw [List.map_cons, weave, List.append_assoc] at htext
    -- the next match is looked for behind the placeholder
    have hbehind : text = (before ++ l ++ inBraces e) ++ weave ls (es.map inBraces) := by
      rw [htext]
      simp
    obtain ⟨ms, hms, hgaps, hfound⟩ := ih (Nat.succ.inj hlength) hbehind hls hes
    let m := Match.braced (before.length + l.length) e
    have hstop : m.stop = (before ++ l ++ inBraces e).length := by
      simp only [m, Match.braced, List.length_append]
    have hnext : m.next = m.stop := by
      refine if_neg ?_
      simp only [m, Match.braced, inBraces, opener, List.length_append, List.length_cons]
      omega
    have hgap : Text.slice text before.length m.start = l := by
      rw [Text.slice, htext]
      simp [m, Match.braced]
    refine ⟨m :: ms, .next (by simp [htext]) (isChosen_braced htext hl hne hbrace) ?_, ?_,
      .cons ⟨textIn_braced htext, rfl, rfl⟩ hfound⟩
    · rwa [hnext, hstop]
    · rw [gaps, hgap, hstop, hgaps]

end Placeholders

/-! ## The template law -/

variable {p : Pattern} {data : Value}

theorem exists_forall₂_filled {expressions : List Text}
    (hdata : ∀ n, data.HasInt n → Whole.IsShort n)
    (hindex : ∀ e ∈ expressions, ∀ ds, HasIndex e ds → ds.length ≤ Whole.maxDigits) :
    ∃ vs, List.Forall₂ (fun e v => Filled data false (inBraces e) e v) expressions vs := by
  induction expressions with
  | nil => exact ⟨[], .nil⟩
  | cons e es ih =>
    obtain ⟨he, hes⟩ := List.forall_mem_cons.1 hindex
    obtain ⟨v, hv⟩ := exists_filled hdata he false (inBraces e)
    obtain ⟨vs, hvs⟩ := ih hes
    exact ⟨v :: vs, .cons hv hvs⟩

/-- What the expressions become is what the matches of their placeholders become. -/
theorem forall₂_becomes {text : Text} {expressions vs : List Text} {ms : List Match}
    (hfound : List.Forall₂ (fun e (m : Match) => m.textIn text = inBraces e ∧
      m.expressionIn text = e ∧ m.escapes = false) expressions ms)
    (hvs : List.Forall₂ (fun e v => Filled data false (inBraces e) e v) expressions vs) :
    List.Forall₂ (Match.Becomes data text) ms vs := by
  induction hfound generalizing vs with
  | nil =>
    cases hvs
    exact .nil
  | cons hm _ ih =>
    cases hvs with
    | cons hv hvs =>
      obtain ⟨htext, hexpression, hescapes⟩ := hm
      refine .cons ?_ (ih hvs)
      rwa [Match.Becomes, htext, hexpression, hescapes]

/-- A template of literals and placeholders by turns is filled placeholder by placeholder. -/
theorem interpolate_weave (hp : Options.settingsPattern {} = .ok p)
    {literals expressions : List Text}
    (hlength : literals.length = expressions.length + 1)
    (hliterals : ∀ l ∈ literals, ¬ opener <:+: l)
    (hexpressions : ∀ e ∈ expressions, e ≠ [] ∧ '\x7d' ∉ e)
    (hindex : ∀ e ∈ expressions, ∀ ds, HasIndex e ds → ds.length ≤ Whole.maxDigits)
    (hdata : ∀ n, data.HasInt n → Whole.IsShort n) (file : Option Text) :
    ∃ vs, List.Forall₂ (fun e v => Filled data false (inBraces e) e v) expressions vs ∧
      (interpolate (Delimiters.toList ⟨p, none⟩) false file data
        (weave literals (expressions.map inBraces))).result = .ok (weave literals vs) := by
  cases hp.symm.trans Pattern.settingsPattern_default
  obtain ⟨vs, hvs⟩ := exists_forall₂_filled hdata hindex
  obtain ⟨ms, hms, hgaps, hfound⟩ := exists_successive_placeholders hlength
    (List.nil_append (weave literals (expressions.map inBraces))).symm hliterals hexpressions
  exact ⟨vs, hvs, (result_interpolate_eq_ok_iff (Delimiters.inBounds ⟨braced, none⟩) hms).2
    ⟨vs, forall₂_becomes hfound hvs, congrArg (weave · vs) hgaps⟩⟩

/-- A literal that ends in a dollar sign, a value that looks like a placeholder, and an expression
that is no path. -/
theorem interpolate_weave_of_dollars :
    ∃ vs, List.Forall₂ (fun e v => Filled (.mapping [(.text ['x'], .text (inBraces ['y']))]) false
        (inBraces e) e v) [['x'], ['1']] vs ∧
      (interpolate (Delimiters.toList ⟨braced, none⟩) false none
        (.mapping [(.text ['x'], .text (inBraces ['y']))])
        (weave [['$'], [], ['b']] [inBraces ['x'], inBraces ['1']])).result =
          .ok (weave [['$'], [], ['b']] vs) := by
  refine interpolate_weave Pattern.settingsPattern_default rfl (by decide) (by decide) ?_ ?_ none
  · intro e he ds hindex
    obtain ⟨name, rest, hident, hsegments⟩ := hindex
    rcases List.mem_pair.1 he with rfl | rfl
    · have hrest : ident? (Text.trim ['x']) = some (['x'], []) := by decide
      cases hrest.symm.trans hident
      cases hsegments with
      | here h | later h => cases h
    · have hnone : ident? (Text.trim ['1']) = none := by decide
      cases hnone.symm.trans hident
  · intro n h
    cases h with
    | key hmem h | entry hmem h =>
      cases List.mem_singleton.1 hmem
      cases h

end BuildBlocks
