/-!
# Lists and results

Facts about lists and about the results of steps that belong to no part of the program: how a step
ends that is put together from others, and what is known of a list from the ways to take it apart.
-/

namespace BuildBlocks

/-! ## Results -/

section

variable {ε ε' α β : Type} {x : Except ε α}

/-- Whether a step has a given result. -/
instance decidableEqOk [DecidableEq α] (x : Except ε α) (a : α) : Decidable (x = .ok a) :=
  match x with
  | .ok b => decidable_of_iff (b = a) ⟨congrArg _, Except.ok.inj⟩
  | .error _ => .isFalse nofun

/-- One step after another has a result if both have one. -/
theorem bind_eq_ok_iff {f : α → Except ε β} {b : β} :
    x.bind f = .ok b ↔ ∃ a, x = .ok a ∧ f a = .ok b := by
  cases x <;> simp [Except.bind]

/-- One step after another fails if the first one fails, or the second one after it. -/
theorem bind_eq_error_iff {f : α → Except ε β} {e : ε} :
    x.bind f = .error e ↔ x = .error e ∨ ∃ a, x = .ok a ∧ f a = .error e := by
  cases x <;> simp [Except.bind]

theorem exists_of_map_eq_ok {f : α → β} {b : β} (h : x.map f = .ok b) :
    ∃ a, x = .ok a ∧ f a = b := by
  cases x with
  | error e => cases h
  | ok a =>
    cases h
    exact ⟨a, rfl, rfl⟩

theorem eq_error_of_map_eq_error {f : α → β} {e : ε} (h : x.map f = .error e) : x = .error e := by
  cases x with
  | error e' =>
    cases h
    rfl
  | ok a => cases h

theorem mapError_eq_error_iff {handle : ε → ε'} {e' : ε'} :
    x.mapError handle = .error e' ↔ ∃ e, x = .error e ∧ handle e = e' := by
  cases x with
  | error e =>
    show Except.error (handle e) = .error e' ↔ _
    simp
  | ok a => exact ⟨nofun, nofun⟩

theorem mapError_eq_ok_iff {handle : ε → ε'} {a : α} : x.mapError handle = .ok a ↔ x = .ok a := by
  cases x with
  | error e => exact ⟨nofun, nofun⟩
  | ok b => exact ⟨fun h => congrArg _ (Except.ok.inj h), fun h => congrArg _ (Except.ok.inj h)⟩

/-- Lists put before a result one after another are put before it at once. -/
theorem map_append_map (x : Except ε (List α)) (a b : List α) :
    x.map ((a ++ b) ++ ·) = (x.map (b ++ ·)).map (a ++ ·) := by
  cases x with
  | error e => rfl
  | ok t => exact congrArg Except.ok (List.append_assoc a b t)

end

/-! ## Lists -/

section

variable {α : Type} {l : List α}

/-- The parts of a list that is cut at separators hold none, and they are stretches of it; the first
part is its beginning. -/
theorem prefix_of_splitOnP {p : α → Bool} {part : List α} {others : List (List α)}
    (h : l.splitOnP p = part :: others) :
    (part <+: l ∧ ∀ x ∈ part, p x = false) ∧ ∀ q ∈ others, q <:+: l ∧ ∀ x ∈ q, p x = false := by
  induction l generalizing part others with
  | nil =>
    cases h
    exact ⟨⟨List.nil_prefix, nofun⟩, nofun⟩
  | cons x xs ih =>
    obtain ⟨first, rest, hxs⟩ := List.exists_cons_of_ne_nil (List.splitOnP_ne_nil p xs)
    obtain ⟨⟨hstart, hfirst⟩, hrest⟩ := ih hxs
    have hinfix : ∀ q ∈ rest, q <:+: x :: xs ∧ ∀ y ∈ q, p y = false :=
      fun q hq => ⟨List.infix_cons (hrest q hq).1, (hrest q hq).2⟩
    rw [List.splitOnP_cons_eq_if_modifyHead, hxs] at h
    split at h
    · -- the list is cut here, so what comes after is a part of its own
      cases h
      exact ⟨⟨List.nil_prefix, nofun⟩,
        List.forall_mem_cons.2 ⟨⟨List.infix_cons hstart.isInfix, hfirst⟩, hinfix⟩⟩
    · next hx =>
      cases h
      exact ⟨⟨List.cons_prefix_cons.2 ⟨rfl, hstart⟩,
        List.forall_mem_cons.2 ⟨Bool.eq_false_iff.2 hx, hfirst⟩⟩, hinfix⟩

theorem pairwise_of_forall_append {R : α → α → Prop}
    (h : ∀ before x between y after, l = before ++ x :: between ++ y :: after → R x y) :
    l.Pairwise R := by
  induction l with
  | nil => exact .nil
  | cons x l ih =>
    refine List.pairwise_cons.2 ⟨fun y hy => ?_, ih fun before u between v after heq => ?_⟩
    · obtain ⟨between, after, rfl⟩ := List.mem_iff_append.1 hy
      exact h [] x between y after rfl
    · exact h (x :: before) u between v after (by rw [heq]; rfl)

theorem getElem?_eq_some_headD_drop {n : Nat} (h : n < l.length) (default : α) :
    l[n]? = some ((l.drop n).headD default) := by
  rw [List.headD_eq_head?_getD, List.head?_drop, List.getElem?_eq_getElem h]
  rfl

end
end BuildBlocks
