import BuildBlocks.Pattern.Match

/-!
# Bounds of matches

Whatever a pattern is made of, a match starts in the text that is searched and ends in it. The parts
of a pattern only ever hand the places that they run forward to on to what is matched after them
(`Matcher.Advances`), and looks at what stands around a place move nothing.
-/

namespace BuildBlocks
namespace Pattern

/-! ## Running forward -/

/-- Whether one place lies behind another one in the same text. -/
def Cursor.Reaches (c d : Cursor) : Prop :=
  ∃ run : Text, c.after = run ++ d.after ∧ d.before = run.reverse ++ c.before ∧
    d.position = c.position + run.length

namespace Cursor

variable {a b c d : Cursor} {x : Char}

theorem Reaches.refl (c : Cursor) : c.Reaches c := ⟨[], rfl, rfl, by simp⟩

theorem Reaches.trans (h₁ : a.Reaches b) (h₂ : b.Reaches c) : a.Reaches c := by
  obtain ⟨r₁, hafter₁, hbefore₁, hposition₁⟩ := h₁
  obtain ⟨r₂, hafter₂, hbefore₂, hposition₂⟩ := h₂
  refine ⟨r₁ ++ r₂, ?_, ?_, ?_⟩
  · rw [hafter₁, hafter₂, List.append_assoc]
  · rw [hbefore₂, hbefore₁, List.reverse_append, List.append_assoc]
  · rw [hposition₂, hposition₁, List.length_append]
    omega

theorem reaches_of_forward? (h : c.forward? = some (x, d)) : c.Reaches d := by
  unfold forward? at h
  split at h
  · cases h
  · next hafter =>
    cases h
    exact ⟨[x], by simp [hafter], rfl, by simp⟩

end Cursor

theorem reaches_of_literally {fold : Char → Char} {s : Text} {c d : Cursor}
    (h : literally fold s c = some d) : c.Reaches d := by
  induction s generalizing c with
  | nil =>
    cases h
    exact .refl _
  | cons x xs ih =>
    rw [literally] at h
    split at h
    · next y c' hnext =>
      split at h
      · exact (Cursor.reaches_of_forward? hnext).trans (ih h)
      · cases h
    · cases h

/-! ## Parts of a pattern -/

/-- Whether a part succeeds only by handing a place further on to what is matched after it. -/
def Matcher.Advances (m : Matcher) : Prop :=
  ∀ {c g rest e}, m c g rest = some e → ∃ c' g', c.Reaches c' ∧ rest c' g' = some e

section Rounds

variable {m : Matcher} {rest : Rest} {c : Cursor} {g : Captures} {e : Ending}

theorem advances_requiredRounds (hm : m.Advances) {n : Nat}
    (h : requiredRounds m rest n c g = some e) : ∃ c' g', c.Reaches c' ∧ rest c' g' = some e := by
  induction n generalizing c g with
  | zero => exact ⟨c, g, .refl c, h⟩
  | succ n ih =>
    obtain ⟨c₁, g₁, hround, h⟩ := hm h
    obtain ⟨c', g', hrounds, hrest⟩ := ih h
    exact ⟨c', g', hround.trans hrounds, hrest⟩

theorem advances_greedyRounds (hm : m.Advances) {fuel : Nat} {most : Option Nat} {last : Option Int}
    (h : greedyRounds m rest fuel most last c g = some e) :
    ∃ c' g', c.Reaches c' ∧ rest c' g' = some e := by
  induction fuel generalizing most last c g with
  | zero => exact ⟨c, g, .refl c, h⟩
  | succ fuel ih =>
    rw [greedyRounds] at h
    split at h
    · rw [Option.orElse_eq_or, Option.or_eq_some_iff] at h
      rcases h with hround | ⟨-, hrest⟩
      · obtain ⟨c₁, g₁, hround, h⟩ := hm hround
        obtain ⟨c', g', hrounds, hrest⟩ := ih h
        exact ⟨c', g', hround.trans hrounds, hrest⟩
      · exact ⟨c, g, .refl c, hrest⟩
    · exact ⟨c, g, .refl c, h⟩

theorem advances_reluctantRounds (hm : m.Advances) {fuel : Nat} {most : Option Nat}
    {last : Option Int} (h : reluctantRounds m rest fuel most last c g = some e) :
    ∃ c' g', c.Reaches c' ∧ rest c' g' = some e := by
  induction fuel generalizing most last c g with
  | zero => exact ⟨c, g, .refl c, h⟩
  | succ fuel ih =>
    rw [reluctantRounds, Option.orElse_eq_or, Option.or_eq_some_iff] at h
    rcases h with hrest | ⟨-, h⟩
    · exact ⟨c, g, .refl c, hrest⟩
    · split at h
      · obtain ⟨c₁, g₁, hround, h⟩ := hm h
        obtain ⟨c', g', hrounds, hrest⟩ := ih h
        exact ⟨c', g', hround.trans hrounds, hrest⟩
      · cases h

theorem advances_allRounds (hm : m.Advances) (least : Nat) (most : Option Nat) (greed : Greed) :
    (allRounds m least most greed).Advances := by
  intro c g rest e h
  obtain ⟨c₁, g₁, hrequired, h⟩ := advances_requiredRounds hm h
  suffices ∃ c' g', c₁.Reaches c' ∧ rest c' g' = some e by
    obtain ⟨c', g', hfurther, hrest⟩ := this
    exact ⟨c', g', hrequired.trans hfurther, hrest⟩
  cases greed with
  | reluctant => exact advances_reluctantRounds hm h
  | greedy | possessive => exact advances_greedyRounds hm h

theorem advances_once (hm : m.Advances) : (once m).Advances := by
  intro c g rest e h
  unfold once at h
  split at h
  · next c₁ g₁ hfirst =>
    obtain ⟨_, _, hreaches, heq⟩ := hm hfirst
    cases heq
    exact ⟨c₁, g₁, hreaches, h⟩
  · cases h

end Rounds

section Parts

variable {m : Matcher} {a b : Node}

/-- A part that only looks around hands on the very place that it was given. -/
theorem advances_of_stays
    (hm : ∀ {c g rest e}, m c g rest = some e → ∃ g', rest c g' = some e) : m.Advances := by
  intro c g rest e h
  obtain ⟨g', hrest⟩ := hm h
  exact ⟨c, g', .refl c, hrest⟩

theorem advances_character (passes : Char → Bool) : Matcher.Advances fun c g rest =>
    match c.forward? with
    | some (x, c') => if passes x then rest c' g else none
    | none => none := by
  intro c g rest e h
  dsimp only at h
  split at h
  · next hnext =>
    split at h
    · exact ⟨_, _, Cursor.reaches_of_forward? hnext, h⟩
    · cases h
  · cases h

theorem advances_seq (ha : a.matcher.Advances) (hb : b.matcher.Advances) :
    (Node.seq a b).matcher.Advances := by
  intro c g rest e h
  obtain ⟨c₁, g₁, hfirst, h⟩ := ha h
  obtain ⟨c', g', hsecond, hrest⟩ := hb h
  exact ⟨c', g', hfirst.trans hsecond, hrest⟩

theorem advances_alt (ha : a.matcher.Advances) (hb : b.matcher.Advances) :
    (Node.alt a b).matcher.Advances := by
  intro c g rest e h
  simp only [Node.matcher, Option.orElse_eq_or, Option.or_eq_some_iff] at h
  rcases h with h | ⟨-, h⟩
  · exact ha h
  · exact hb h

theorem advances_anchor (a : Anchor) : (Node.anchor a).matcher.Advances := by
  refine advances_of_stays fun {c g rest e} h => ?_
  unfold Node.matcher at h
  split at h
  · exact ⟨g, h⟩
  · cases h

/-- What a group has matched is run over once more. -/
theorem advances_again (index : Nat) (ignoreCase ascii : Bool) :
    (Node.again index ignoreCase ascii).matcher.Advances := by
  intro c g rest e h
  unfold Node.matcher at h
  dsimp only at h
  split at h
  · split at h
    · next hliteral => exact ⟨_, _, reaches_of_literally hliteral, h⟩
    · cases h
  · cases h

/-- A look ahead or behind keeps what the groups in it have matched, but not its place. -/
theorem advances_look (behind : Option Nat) (negated : Bool) (body : Node) :
    (Node.look behind negated body).matcher.Advances := by
  refine advances_of_stays fun {c g rest e} h => ?_
  unfold Node.matcher at h
  dsimp only at h
  generalize Option.bind _ _ = found at h
  split at h
  · split at h
    · cases h
    · exact ⟨g, h⟩
  · split at h
    · exact ⟨_, h⟩
    · cases h

end Parts

/-- Every part of a pattern hands on a place further on. -/
theorem Node.advances_matcher (n : Node) : n.matcher.Advances := by
  -- on the nodes; only a character and what a group has matched move the place
  induction n with
  | empty => exact fun h => ⟨_, _, .refl _, h⟩
  | char t ignoreCase ascii => exact advances_character (t.passes ignoreCase ascii)
  | any newlines => exact advances_character fun x => newlines || x ≠ '\n'
  | anchor a => exact advances_anchor a
  | seq a b iha ihb => exact advances_seq iha ihb
  | alt a b iha ihb => exact advances_alt iha ihb
  | group index body ih =>
    intro c g rest e h
    obtain ⟨c', g', hreaches, hrest⟩ := ih h
    exact ⟨c', _, hreaches, hrest⟩
  | rounds least most greed body ih =>
    intro c g rest e h
    unfold matcher at h
    split at h
    · exact advances_once (advances_allRounds (advances_once ih) least most .greedy) h
    · exact advances_allRounds ih least most greed h
  | again index ignoreCase ascii => exact advances_again index ignoreCase ascii
  | look behind negated body => exact advances_look behind negated body
  | atomic body ih => exact advances_once ih
  | ifGroup index yes no ihyes ihno =>
    intro c g rest e h
    unfold matcher at h
    split at h
    · exact ihyes h
    · exact ihno h

/-! ## Searches -/

variable {p : Pattern} {before after : Text} {hit : Hit}

theorem reaches_of_matchAt {c : Cursor} {e : Ending} (h : p.matchAt c = some e) :
    c.Reaches e.1 := by
  obtain ⟨_, _, hreaches, heq⟩ := p.node.advances_matcher h
  cases heq
  exact hreaches

theorem length_ofEnding_le {skipped : Nat} {e : Ending}
    (h : p.matchAt { before, after } = some e) :
    (Hit.ofEnding skipped e).length ≤ after.length := by
  obtain ⟨run, hafter, -, hposition⟩ := reaches_of_matchAt h
  have hlength : after.length = run.length + e.1.after.length := by
    rw [show after = run ++ e.1.after from hafter, List.length_append]
  simp only [Hit.ofEnding, hposition]
  omega

theorem add_length_le_of_searchFrom {skipped : Nat}
    (h : p.searchFrom skipped before after = some hit) :
    hit.skipped + hit.length ≤ skipped + after.length := by
  induction after generalizing skipped before with
  | nil =>
    obtain ⟨e, hmatch, rfl⟩ := Option.map_eq_some_iff.1 h
    exact Nat.add_le_add_left (length_ofEnding_le hmatch) skipped
  | cons x xs ih =>
    rw [searchFrom] at h
    split at h
    · next e hfound =>
      cases h
      split at hfound
      · exact Nat.add_le_add_left (length_ofEnding_le hfound) skipped
      · cases hfound
    · have := ih h
      rw [List.length_cons]
      omega

/-- A match lies in the text that is searched. -/
theorem add_length_le_of_search (h : p.search before after = some hit) :
    hit.skipped + hit.length ≤ after.length := by
  simpa using add_length_le_of_searchFrom h

end Pattern
end BuildBlocks
