import BuildBlocks.Block.Target
import BuildBlocks.Proofs.Margins
import Mathlib.Data.List.Forall2

/-!
# Target lists

A target list is read entry by entry: what stands on both sides of a separator is read as it is read
alone, an entry of blanks gives nothing, and any other gives the name in it. So the names of a list
can be written with either separator between them, and no text changes its meaning when a separator
is put for another (`Target.parse_entrywise`).

## The architecture

* **`Text.splitBy_eq_splitOnP`**: cutting at separators is `List.splitOnP`, with its laws.
* **`Target.parse_append_cons`**, **`Target.parse_of_isEntry`**: a text with a separator, and one
  without.
* **`Target.entry_induction`**: every text is one or the other. So what holds for the names in
  entries holds for all names (`Target.isName_of_mem_parse`).
-/

namespace BuildBlocks

namespace Text

theorem splitBy_eq_splitOnP (sep : Char → Bool) (s : Text) : splitBy sep s = s.splitOnP sep := by
  induction s with
  | nil => rfl
  | cons c s ih =>
    rw [splitBy, List.splitOnP_cons_eq_if_modifyHead, ih]
    -- there is a first piece to put the character in front of
    obtain ⟨w, ws, hws⟩ := List.exists_cons_of_ne_nil (List.splitOnP_ne_nil sep s)
    rw [hws]
    rfl

end Text

namespace Target

variable {s t x y : Text} {c : Char}

/-! ## Entries -/

theorem isSeparator_eq_true_iff : isSeparator c = true ↔ c ∈ [',', '|'] := by
  simp [isSeparator]

theorem isBlank_of_isSeparator (h : isSeparator c = true) : Text.isBlank c = false := by
  simp only [isSeparator, Bool.or_eq_true, decide_eq_true_eq] at h
  rcases h with rfl | rfl
  · rfl
  · rfl

/-- Whether a text holds no separators. -/
def IsEntry (s : Text) : Prop := ∀ c ∈ s, isSeparator c = false

theorem IsEntry.of_blank (h : ∀ c ∈ s, Text.isBlank c = true) : IsEntry s := by
  intro c hc
  refine Bool.eq_false_iff.2 fun hsep => ?_
  exact absurd (h c hc) (Bool.eq_false_iff.1 (isBlank_of_isSeparator hsep))

theorem IsEntry.append (hx : IsEntry x) (hy : IsEntry y) : IsEntry (x ++ y) := fun c hc =>
  (List.mem_append.1 hc).elim (hx c) (hy c)

/-- Every text is an entry, or two texts with a separator between them. -/
theorem entry_induction {P : Text → Prop} (entry : ∀ s, IsEntry s → P s)
    (cut : ∀ x c y, isSeparator c = true → P x → P y → P (x ++ c :: y)) (s : Text) : P s := by
  -- any separator will do to cut at: both sides of it are shorter
  by_cases hentry : IsEntry s
  · exact entry s hentry
  · obtain ⟨c, hc, hsep⟩ : ∃ c ∈ s, isSeparator c = true := by
      simpa [IsEntry] using hentry
    obtain ⟨x, y, hs⟩ := List.append_of_mem hc
    have hlength : s.length = x.length + (y.length + 1) := by
      rw [hs, List.length_append, List.length_cons]
    rw [hs]
    exact cut x c y hsep (entry_induction entry cut x) (entry_induction entry cut y)
termination_by s.length
decreasing_by all_goals omega

/-! ## Reading -/

/-- **Separators part what is read.** -/
theorem parse_append_cons (x y : Text) (hc : isSeparator c = true) :
    parse (x ++ c :: y) = parse x ++ parse y := by
  simp only [parse, Text.splitBy_eq_splitOnP]
  rw [List.splitOnP_append_cons x y hc, List.map_append, List.filter_append]

/-- An entry gives what is left of it without blanks, if anything is. -/
theorem parse_of_isEntry (h : IsEntry s) :
    parse s = if Text.trim s = [] then [] else [Text.trim s] := by
  rw [parse, Text.splitBy_eq_splitOnP, List.splitOnP_eq_singleton h, List.map_singleton]
  cases Text.trim s with
  | nil => rfl
  | cons c t => rfl

theorem parse_of_blank (h : ∀ c ∈ s, Text.isBlank c = true) : parse s = [] := by
  rw [parse_of_isEntry (.of_blank h), if_pos (Text.trim_eq_nil_of_blank h)]

/-! ## Names -/

/-- Whether a text can be the name of a target. -/
structure IsName (t : Text) : Prop where
  ne_nil : t ≠ []
  trimmed : Text.IsTrimmed t
  comma_notMem : ',' ∉ t
  bar_notMem : '|' ∉ t

theorem IsName.isEntry (h : IsName t) : IsEntry t := by
  intro c hc
  simp only [isSeparator, Bool.or_eq_false_iff, decide_eq_false_iff_not]
  refine ⟨?_, ?_⟩
  · rintro rfl
    exact h.comma_notMem hc
  · rintro rfl
    exact h.bar_notMem hc

/-- The blanks around a name do not belong to it. -/
theorem IsName.parse_append_apart {before after : Text} (h : IsName t)
    (hbefore : ∀ c ∈ before, Text.isBlank c = true) (hafter : ∀ c ∈ after, Text.isBlank c = true) :
    parse (before ++ t ++ after) = [t] := by
  have hentry : IsEntry (before ++ t ++ after) :=
    ((IsEntry.of_blank hbefore).append h.isEntry).append (.of_blank hafter)
  rw [parse_of_isEntry hentry, Text.trim_append_apart hbefore h.trimmed hafter, if_neg h.ne_nil]

theorem IsName.parse_eq (h : IsName t) : parse t = [t] := by
  have hparse : parse ([] ++ t ++ []) = [t] := h.parse_append_apart nofun nofun
  simpa using hparse

/-- What an entry gives is a name. -/
theorem isName_trim (h : IsEntry s) (hne : Text.trim s ≠ []) : IsName (Text.trim s) where
  ne_nil := hne
  trimmed := Text.isTrimmed_trim s
  comma_notMem hc := absurd (h ',' (Text.mem_of_mem_trim hc)) (by decide)
  bar_notMem hc := absurd (h '|' (Text.mem_of_mem_trim hc)) (by decide)

theorem isName_of_mem_parse (ht : t ∈ parse s) : IsName t := by
  induction s using entry_induction with
  | entry s hs =>
    rw [parse_of_isEntry hs] at ht
    split at ht
    · cases ht
    · next hne =>
      rw [List.mem_singleton.1 ht]
      exact isName_trim hs hne
  | cut x c y hc hx hy =>
    rw [parse_append_cons x y hc] at ht
    rcases List.mem_append.1 ht with hleft | hright
    · exact hx hleft
    · exact hy hright

/-! ## Writing -/

/-- **Names with separators between them are read back.** -/
theorem parse_join (hc : isSeparator c = true) {names : List Text} (h : ∀ t ∈ names, IsName t) :
    parse (Text.join [c] names) = names := by
  induction names with
  | nil => rfl
  | cons t names ih =>
    obtain ⟨ht, hnames⟩ := List.forall_mem_cons.1 h
    -- no separator stands behind the last name
    cases names with
    | nil => exact ht.parse_eq
    | cons u names =>
      have hjoin : Text.join [c] (t :: u :: names) = t ++ c :: Text.join [c] (u :: names) := by
        rw [Text.join, List.append_assoc, List.singleton_append]
        nofun
      rw [hjoin, parse_append_cons _ _ hc, ht.parse_eq, ih hnames]
      rfl

/-! ## Either separator -/

/-- Whether two texts differ only in which separator stands where one stands. -/
def Interchanged (x y : Text) : Prop :=
  List.Forall₂ (fun a b => a = b ∨ (a ∈ [',', '|'] ∧ b ∈ [',', '|'])) x y

instance (x y : Text) : Decidable (Interchanged x y) :=
  inferInstanceAs (Decidable (List.Forall₂ _ x y))

theorem Interchanged.splitBy_eq (h : Interchanged x y) :
    Text.splitBy isSeparator x = Text.splitBy isSeparator y := by
  induction h with
  | nil => rfl
  | cons hab _ ih =>
    rcases hab with rfl | ⟨ha, hb⟩
    · rw [Text.splitBy, Text.splitBy, ih]
    -- both texts are cut here, and which character is lost does not show
    · rw [Text.splitBy, Text.splitBy, if_pos (isSeparator_eq_true_iff.2 ha),
        if_pos (isSeparator_eq_true_iff.2 hb), ih]

theorem Interchanged.parse_eq (h : Interchanged x y) : parse x = parse y := by
  rw [parse, parse, h.splitBy_eq]

/-- **A target list is read entry by entry.** What stands on both sides of a separator is read alone;
blanks give nothing, and a name gives itself, with any blanks around it. All that is read are names,
they are read back with either separator between them, and it does not matter which separator stands
at a place. -/
theorem parse_entrywise :
    (∀ x y : Text, ∀ c ∈ [',', '|'], parse (x ++ [c] ++ y) = parse x ++ parse y) ∧
      (∀ s : Text, (∀ c ∈ s, Text.isBlank c = true) → parse s = []) ∧
      (∀ before t after : Text, (∀ c ∈ before, Text.isBlank c = true) → IsName t →
        (∀ c ∈ after, Text.isBlank c = true) → parse (before ++ t ++ after) = [t]) ∧
      (∀ s : Text, ∀ t ∈ parse s, IsName t) ∧
      (∀ s : Text, ∀ c ∈ [',', '|'], parse (Text.join [c] (parse s)) = parse s) ∧
      ∀ x y : Text, Interchanged x y → parse x = parse y := by
  refine ⟨fun x y c hc => ?_, fun s => parse_of_blank,
    fun before t after hbefore ht hafter => ht.parse_append_apart hbefore hafter,
    fun s t => isName_of_mem_parse, fun s c hc => ?_, fun x y => Interchanged.parse_eq⟩
  · rw [List.append_assoc, List.singleton_append]
    exact parse_append_cons x y (isSeparator_eq_true_iff.2 hc)
  · exact parse_join (isSeparator_eq_true_iff.2 hc) fun t => isName_of_mem_parse

/-- Names with blanks of all widths around them, empty entries, and both separators. -/
theorem parse_entrywise_of_environments :
    parse (" dev ,, ".toList ++ ['|'] ++ "pre prod\t".toList) =
        ["dev".toList, "pre prod".toList] ∧
      parse ['\u2003', '\n'] = [] ∧
      parse (['\u3000'] ++ "pre prod".toList ++ ['\u00a0']) = ["pre prod".toList] ∧
      IsName "dev".toList ∧
      parse (Text.join ['|'] (parse "|a ,, b,".toList)) = ["a".toList, "b".toList] ∧
      parse "a,b |c".toList = parse "a|b ,c".toList := by
  obtain ⟨happend, hblank, hname, hnames, hjoin, hinterchanged⟩ := parse_entrywise
  have hpreProd : IsName "pre prod".toList := by
    refine ⟨by decide, ⟨?_, ?_⟩, by decide, by decide⟩
    · rintro c ⟨⟩
      rfl
    · rintro c ⟨⟩
      rfl
  exact ⟨(happend _ _ '|' (by decide)).trans (by decide), hblank _ (List.all_eq_true.1 rfl),
    hname _ _ _ (List.all_eq_true.1 rfl) hpreProd (List.all_eq_true.1 rfl),
    hnames " dev ,".toList _ (by decide), (hjoin _ '|' (by decide)).trans (by decide),
    hinterchanged _ _ (by decide)⟩

end Target
end BuildBlocks
