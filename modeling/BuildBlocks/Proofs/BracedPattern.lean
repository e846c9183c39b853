import BuildBlocks.Options.Basic
import BuildBlocks.Proofs.ListsAndResults

/-!
# The pattern of placeholders in braces

Where no other pattern is given, a placeholder is a dollar sign and an expression in braces
(`Pattern.read_braced`). Its expression goes up to the first closing brace that follows at least one
character.

What a search with this pattern finds is told in full for texts in which the first dollar sign
before an opening brace starts a placeholder (`Pattern.search_braced`), and for those that have none
(`Pattern.search_braced_eq_none`).
-/

namespace BuildBlocks
namespace Pattern

/-! ## The pattern -/

/-- The character `c` and nothing else. -/
def Node.only (c : Char) : Node := .char (.one false c.toNat) false false

/-- Any one character: what is a blank or none. -/
def Node.anyOne : Node := .char (.set false [.named .blank false, .named .blank true]) false false

/-- A dollar sign and at least one character in braces, as few as possible. -/
def braced : Pattern where
  source := ({} : Settings).interpolate
  node := .seq (.only '$') (.seq (.only '\x7b')
    (.seq (.group 1 (.rounds 1 none .reluctant .anyOne)) (.only '\x7d')))
  groups := 1
  ascii := false

/-- The pattern that the settings give if nothing is set. -/
theorem read_braced : Pattern.read ({} : Settings).interpolate = .ok braced := by
  decide +kernel

theorem settingsPattern_default : Options.settingsPattern {} = .ok braced := by
  rw [Options.settingsPattern, read_braced]

/-- What stands before the expression of a placeholder. -/
def opener : Text := ['$', '\x7b']

/-- An expression as it stands in a placeholder. -/
def inBraces (expression : Text) : Text := opener ++ expression ++ ['\x7d']

/-! ## Parts of the pattern -/

/-- The place behind a run of characters, where `after` follows them. -/
def Cursor.behind (c : Cursor) (run after : Text) : Cursor :=
  ⟨run.reverse ++ c.before, after, c.position + run.length⟩

/-- Whether a part matches any one character and nothing else. -/
def Matcher.TakesOne (m : Matcher) : Prop :=
  ∀ {c x xs g rest}, c.after = x :: xs → m c g rest = rest (c.behind [x] xs) g

section Parts

variable {c : Cursor} {x y : Char} {xs after : Text} {g : Captures} {rest : Rest} {m : Matcher}
variable {e : Ending}

theorem forward?_of_after (h : c.after = x :: xs) : c.forward? = some (x, c.behind [x] xs) := by
  rw [Cursor.forward?, h]
  rfl

theorem passes_one : (CharTest.one false x.toNat).passes false false y ↔ y = x := by
  simp [CharTest.passes, ← Char.toNat_inj]

theorem matcher_only_of_eq (h : c.after = x :: xs) :
    (Node.only x).matcher c g rest = rest (c.behind [x] xs) g := by
  rw [Node.only, Node.matcher]
  dsimp only
  rw [forward?_of_after h]
  dsimp only
  rw [if_pos (passes_one.2 rfl)]

theorem matcher_only_of_ne (h : ∀ xs, c.after ≠ x :: xs) :
    (Node.only x).matcher c g rest = none := by
  rw [Node.only, Node.matcher]
  dsimp only
  cases hafter : c.after with
  | nil => rw [Cursor.forward?, hafter]
  | cons y ys =>
    rw [forward?_of_after hafter]
    dsimp only
    rw [if_neg]
    rw [passes_one]
    rintro rfl
    exact h ys hafter

theorem takesOne_anyOne :
    Node.anyOne.matcher.TakesOne := by
  intro c x xs g rest h
  rw [Node.anyOne, Node.matcher]
  dsimp only
  rw [forward?_of_after h]
  simp [CharTest.passes, SetItem.contains]

theorem Cursor.behind_nil (h : c.after = after) : c.behind [] after = c := by
  cases c
  cases h
  simp [behind]

theorem Cursor.behind_behind {r₁ r₂ a₁ a₂ : Text} :
    (c.behind r₁ a₁).behind r₂ a₂ = c.behind (r₁ ++ r₂) a₂ := by
  simp [behind, Int.add_assoc]

/-- What has been matched between a place and one behind it is the run between them. -/
theorem Capture.text_behind {r₁ r₂ a₁ a₂ : Text} :
    Capture.text ⟨c.behind r₁ a₁, c.behind (r₁ ++ r₂) a₂⟩ = r₂ := by
  have hlength : ((c.behind (r₁ ++ r₂) a₂).position - (c.behind r₁ a₁).position).toNat =
      r₂.reverse.length := by
    simp only [Cursor.behind, List.length_append, List.length_reverse]
    omega
  have hbefore : (c.behind (r₁ ++ r₂) a₂).before = r₂.reverse ++ (r₁.reverse ++ c.before) := by
    rw [Cursor.behind, List.reverse_append, List.append_assoc]
  rw [Capture.text, Cursor.since, hlength, hbefore, List.take_left, List.reverse_reverse]

/-- Further rounds over any characters, as few as possible, end at the first place from which the
rest of the pattern matches. -/
theorem reluctantRounds_of_takesOne (hm : m.TakesOne) {run : Text} {last : Option Int} {fuel : Nat}
    (hfuel : run.length ≤ fuel) (hlast : last ≠ some c.position) (hafter : c.after = run ++ after)
    (hfail : ∀ r t, r ++ t = run → t ≠ [] → rest (c.behind r (t ++ after)) g = none)
    (hrest : rest (c.behind run after) g = some e) :
    reluctantRounds m rest fuel none last c g = some e := by
  induction run generalizing c last fuel with
  | nil =>
    have hnil : c.behind [] after = c := Cursor.behind_nil hafter
    rw [hnil] at hrest
    cases fuel with
    | zero => exact hrest
    | succ fuel =>
      rw [reluctantRounds, hrest]
      rfl
  | cons x run ih =>
    -- the rest cannot match yet, so one more character is taken
    have hhere : rest c g = none :=
      Cursor.behind_nil hafter ▸ hfail [] (x :: run) rfl (List.cons_ne_nil x run)
    cases fuel with
    | zero => cases hfuel
    | succ fuel =>
      rw [reluctantRounds, hhere]
      change (if _ then _ else _) = _
      rw [if_pos ⟨nofun, hlast⟩, hm hafter]
      refine ih (Nat.le_of_succ_le_succ hfuel) ?_ rfl ?_ ?_
      · simp only [Cursor.behind, List.length_singleton, ne_eq, Option.some.injEq]
        omega
      · intro r t hrun ht
        rw [Cursor.behind_behind]
        exact hfail (x :: r) t (by rw [List.cons_append, hrun]) ht
      · rwa [Cursor.behind_behind]

/-- At least one round over any characters, as few as possible. -/
theorem allRounds_of_takesOne (hm : m.TakesOne) {run : Text} (hafter : c.after = x :: run ++ after)
    (hfail : ∀ r t, r ++ t = run → t ≠ [] → rest (c.behind (x :: r) (t ++ after)) g = none)
    (hrest : rest (c.behind (x :: run) after) g = some e) :
    allRounds m 1 none .reluctant c g rest = some e := by
  have hrequired : allRounds m 1 none .reluctant c g rest =
      reluctantRounds m rest ((run ++ after).length + 2) none none
        (c.behind [x] (run ++ after)) g := hm hafter
  rw [hrequired]
  refine reluctantRounds_of_takesOne hm ?_ nofun rfl ?_ ?_
  · rw [List.length_append]
    omega
  · intro r t hrun ht
    rw [Cursor.behind_behind]
    exact hfail r t hrun ht
  · rwa [Cursor.behind_behind]

end Parts

/-! ## Matches -/

section Matches

variable {before after expression rest l : Text} {skipped : Nat}

/-- The parts of the pattern one after another. -/
theorem matchAt_braced_eq (c : Cursor) :
    braced.matchAt c =
      (Node.only '$').matcher c [] fun c g => (Node.only '\x7b').matcher c g fun c g =>
        allRounds Node.anyOne.matcher 1 none .reluctant c g fun c' g =>
          (Node.only '\x7d').matcher c' ((1, ⟨c, c'⟩) :: g) fun c g => some (c, g) :=
  rfl

/-- Where a placeholder starts, the pattern matches it. -/
theorem matchAt_braced {c : Cursor} (hafter : c.after = inBraces expression ++ rest)
    (hne : expression ≠ []) (hbrace : '\x7d' ∉ expression) :
    braced.matchAt c = some (c.behind (inBraces expression) rest,
      [(1, ⟨c.behind opener (expression ++ '\x7d' :: rest),
        c.behind (opener ++ expression) ('\x7d' :: rest)⟩)]) := by
  obtain ⟨x, xs, rfl⟩ := List.exists_cons_of_ne_nil hne
  have hstart : c.after = '$' :: '\x7b' :: (x :: xs ++ '\x7d' :: rest) := by
    rw [hafter, inBraces, List.append_assoc, List.append_assoc]
    rfl
  rw [matchAt_braced_eq, matcher_only_of_eq hstart, matcher_only_of_eq rfl, Cursor.behind_behind]
  refine allRounds_of_takesOne takesOne_anyOne rfl ?_ ?_
  · -- what is left of the expression does not start with the closing brace
    intro r t hrun ht
    refine matcher_only_of_ne fun ys hys => hbrace ?_
    obtain ⟨y, t, rfl⟩ := List.exists_cons_of_ne_nil ht
    obtain ⟨rfl, -⟩ := List.cons_eq_cons.1 hys
    simp [← hrun]
  · rw [matcher_only_of_eq rfl]
    simp only [Cursor.behind_behind]
    rfl

/-- A match begins with a dollar sign and an opening brace. -/
theorem matchAt_braced_eq_none {c : Cursor} (h : ¬ opener <+: c.after) :
    braced.matchAt c = none := by
  rw [matchAt_braced_eq]
  by_cases hdollar : ∃ xs, c.after = '$' :: xs
  · obtain ⟨xs, hafter⟩ := hdollar
    rw [matcher_only_of_eq hafter]
    refine matcher_only_of_ne fun ys hys => h ?_
    rw [hafter, show xs = '\x7b' :: ys from hys]
    exact List.prefix_append opener ys
  · exact matcher_only_of_ne fun xs hxs => hdollar ⟨xs, hxs⟩

theorem searchFrom_of_matchAt_braced {e : Ending} (h : braced.matchAt ⟨before, after, 0⟩ = some e) :
    braced.searchFrom skipped before after = some (.ofEnding skipped e) := by
  cases after with
  | nil => rw [searchFrom, h, Option.map_some]
  | cons x xs =>
    have hmay : braced.mayBegin (x :: xs) = true := rfl
    rw [searchFrom, if_pos hmay, h]

/-- Characters at which no match begins are skipped. -/
theorem searchFrom_braced_append (h : ∀ r t, r ++ t = l → t ≠ [] → ¬ opener <+: t ++ after) :
    braced.searchFrom skipped before (l ++ after) =
      braced.searchFrom (skipped + l.length) (l.reverse ++ before) after := by
  induction l generalizing skipped before with
  | nil => rfl
  | cons x l ih =>
    have hhere : braced.matchAt ⟨before, x :: (l ++ after), 0⟩ = none :=
      matchAt_braced_eq_none (h [] (x :: l) rfl (List.cons_ne_nil x l))
    rw [List.cons_append, searchFrom, hhere]
    change braced.searchFrom (skipped + 1) (x :: before) (l ++ after) = _
    rw [ih fun r t hl => h (x :: r) t (by rw [List.cons_append, hl]), List.length_cons,
      List.reverse_cons, List.append_assoc, Nat.add_assoc, Nat.add_comm 1]
    rfl

/-- No match begins in a text without a dollar sign before an opening brace, unless the brace stands
right behind it. -/
theorem not_opener_prefix (hl : ¬ opener <:+: l) (hafter : after.head? ≠ some '\x7b') {r t : Text}
    (ht : r ++ t = l) (hne : t ≠ []) : ¬ opener <+: t ++ after := by
  rintro ⟨s, hs⟩
  match t, hne with
  | [c], _ =>
    obtain ⟨-, hrest⟩ := List.cons_eq_cons.1 hs
    exact hafter ((congrArg List.head? hrest).symm)
  | c :: d :: t, _ =>
    obtain ⟨rfl, hrest⟩ := List.cons_eq_cons.1 hs
    obtain ⟨rfl, -⟩ := List.cons_eq_cons.1 hrest
    exact hl ⟨r, t, by rw [← ht, List.append_assoc]; rfl⟩

/-- The first match behind a text without the start of a placeholder is the placeholder after it. -/
theorem search_braced (hl : ¬ opener <:+: l) (hne : expression ≠ [])
    (hbrace : '\x7d' ∉ expression) :
    braced.search before (l ++ (inBraces expression ++ rest)) =
      some ⟨l.length, (inBraces expression).length, [(1, expression)]⟩ := by
  have hmatch := matchAt_braced (c := ⟨l.reverse ++ before, inBraces expression ++ rest, 0⟩) rfl hne
    hbrace
  rw [search, searchFrom_braced_append fun r t => not_opener_prefix hl (by simp [inBraces, opener]),
    searchFrom_of_matchAt_braced hmatch, Nat.zero_add]
  simp only [Hit.ofEnding, List.map_singleton, Capture.text_behind]
  simp only [Cursor.behind, Int.zero_add, Int.toNat_natCast]

/-- There is no match in a text without the start of a placeholder. -/
theorem search_braced_eq_none (hl : ¬ opener <:+: l) : braced.search before l = none := by
  have hskip : braced.searchFrom 0 before (l ++ []) = _ :=
    searchFrom_braced_append fun r t => not_opener_prefix hl (by simp)
  rw [List.append_nil] at hskip
  rw [search, hskip, searchFrom, matchAt_braced_eq_none (by simp [opener])]
  rfl

end Matches

end Pattern
end BuildBlocks
