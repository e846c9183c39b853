import BuildBlocks.Text.Basic
import Mathlib.Data.List.TakeWhile

/-!
# Blanks around a text

Trimming takes a text apart into blanks, a text that neither starts nor ends with a blank, and
blanks again (`Text.exists_margins`). There is only one way to do so (`Text.trim_append_apart`).
-/

namespace BuildBlocks
namespace Text

/-! ## Runs of characters -/

section Runs

variable {p : Char → Bool} {x y : Text}

/-- A run stops at a character that does not belong to it. -/
theorem takeWhile_append_apart (hx : ∀ c ∈ x, p c = true) (hy : ∀ c ∈ y.head?, p c = false) :
    (x ++ y).takeWhile p = x := by
  rw [List.takeWhile_append_of_pos hx]
  cases y with
  | nil => rw [List.takeWhile_nil, List.append_nil]
  | cons c y => rw [List.takeWhile_cons_of_neg (by simp [hy c rfl]), List.append_nil]

theorem dropWhile_append_apart (hx : ∀ c ∈ x, p c = true) (hy : ∀ c ∈ y.head?, p c = false) :
    (x ++ y).dropWhile p = y := by
  rw [List.dropWhile_append_of_pos hx]
  cases y with
  | nil => rfl
  | cons c y => rw [List.dropWhile_cons_of_neg (by simp [hy c rfl])]

theorem head?_dropWhile (p : Char → Bool) (x : Text) : ∀ c ∈ (x.dropWhile p).head?, p c = false := by
  intro c hc
  have hhead := List.head?_dropWhile_not p x
  rwa [Option.mem_def.1 hc] at hhead

end Runs

/-! ## Trimmed texts -/

variable {s t before after : Text}

/-- Whether a text neither starts nor ends with a blank. -/
structure IsTrimmed (t : Text) : Prop where
  head : ∀ c ∈ t.head?, isBlank c = false
  last : ∀ c ∈ t.getLast?, isBlank c = false

theorem IsTrimmed.of_blankless (h : ∀ c ∈ t, isBlank c = false) : IsTrimmed t where
  head c hc := h c (List.mem_of_mem_head? hc)
  last c hc := h c (List.mem_of_mem_getLast? hc)

theorem isTrimmed_trim (s : Text) : IsTrimmed (trim s) where
  head c hc := by
    -- the beginning of what stands behind the first blanks
    have hbegins : trim s <+: trimStart s := by
      rw [trim, trimEnd, ← List.reverse_suffix, List.reverse_reverse]
      exact List.dropWhile_suffix _
    obtain ⟨cs, hcs⟩ : ∃ cs, trim s = c :: cs := List.head?_eq_some_iff.1 hc
    obtain ⟨rest, hrest⟩ := hbegins
    refine head?_dropWhile isBlank s c ?_
    rw [← trimStart, ← hrest, hcs]
    rfl
  last c hc := by
    rw [trim, trimEnd, List.getLast?_reverse] at hc
    exact head?_dropWhile isBlank _ c hc

/-- **A text is its trimmed part with blanks around it.** -/
theorem exists_margins (s : Text) :
    ∃ before after, s = before ++ trim s ++ after ∧
      (∀ c ∈ before, isBlank c = true) ∧ ∀ c ∈ after, isBlank c = true := by
  refine ⟨s.takeWhile isBlank, ((trimStart s).reverse.takeWhile isBlank).reverse, ?_,
    fun c hc => List.mem_takeWhile_imp hc,
    fun c hc => List.mem_takeWhile_imp (List.mem_reverse.1 hc)⟩
  have hend : trim s ++ ((trimStart s).reverse.takeWhile isBlank).reverse = trimStart s := by
    rw [trim, trimEnd, ← List.reverse_append, List.takeWhile_append_dropWhile, List.reverse_reverse]
  rw [List.append_assoc, hend, trimStart, List.takeWhile_append_dropWhile]

/-- **Blanks around a trimmed text do not belong to it.** -/
theorem trim_append_apart (hbefore : ∀ c ∈ before, isBlank c = true) (ht : IsTrimmed t)
    (hafter : ∀ c ∈ after, isBlank c = true) : trim (before ++ t ++ after) = t := by
  cases t with
  | nil =>
    have hblank : ∀ c ∈ before ++ [] ++ after, isBlank c = true := by
      simpa [or_imp, forall_and] using ⟨hbefore, hafter⟩
    rw [trim, trimStart, List.dropWhile_eq_nil_iff.2 hblank]
    rfl
  | cons c t =>
    have hstart : trimStart (before ++ (c :: t ++ after)) = c :: t ++ after :=
      dropWhile_append_apart hbefore ht.head
    have hend : (after.reverse ++ (c :: t).reverse).dropWhile isBlank = (c :: t).reverse := by
      refine dropWhile_append_apart (fun d hd => hafter d (List.mem_reverse.1 hd)) ?_
      rw [List.head?_reverse]
      exact ht.last
    rw [trim, List.append_assoc, hstart, trimEnd, List.reverse_append, hend, List.reverse_reverse]

theorem IsTrimmed.trim_eq (ht : IsTrimmed t) : trim t = t := by
  have htrim : trim ([] ++ t ++ []) = t := trim_append_apart nofun ht nofun
  simpa using htrim

theorem trim_eq_nil_of_blank (h : ∀ c ∈ s, isBlank c = true) : trim s = [] := by
  have htrim : trim (s ++ [] ++ []) = [] := trim_append_apart h ⟨nofun, nofun⟩ nofun
  simpa using htrim

theorem mem_of_mem_trim {c : Char} (h : c ∈ trim s) : c ∈ s := by
  obtain ⟨before, after, hs, -, -⟩ := exists_margins s
  rw [hs]
  exact List.mem_append_left _ (List.mem_append_right _ h)

end Text
end BuildBlocks
