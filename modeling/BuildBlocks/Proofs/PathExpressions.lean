import BuildBlocks.Proofs.IntegersInValues
import BuildBlocks.Proofs.Margins
import BuildBlocks.Template.Expression
import Mathlib.Data.List.Basic
import Mathlib.Data.List.Induction

/-!
# Path expressions say what was put into them

A path is written as an identifier and steps: an identifier behind a point, or a number or a quoted
key in brackets. Reading the text gives back the keys, whatever blanks stand where they may stand;
and the keys of every text that is read as a path can be written so (`Expression.parse_roundTrip`).

A quoted key may hold quotes, brackets, points and digits. Only a quote of its own kind that a
closing bracket follows would end it, and no newline may stand in it (`Step.IsWritable`).

## The architecture

* **one iff for each reader** (`ident?_eq_some_iff`, `closing?_eq_some_iff`,
  `quotedKey?_eq_some_iff`): what is read, and what may stand behind it.
* **`exists_segment?_written`**: so a step is read as it was written. A step begins with a character
  that ends a name (`Step.head?_written`), so steps do not run into each other
  (`segments_written`).
* **`exists_step_of_segment?`**: every key that is read can be written; for a number this needs that
  `n` digits write a number below the `n`-th power of ten (`Text.digitsToNat_lt`).
-/

namespace BuildBlocks

/-! ## Characters -/

namespace Text

/-- The code points of blanks in ASCII. -/
def narrowBlanks : List Nat := List.range' 0x9 5 ++ List.range' 0x1c 5

/-- The code points of all other blanks. -/
def wideBlanks : List Nat :=
  [0x85, 0xa0, 0x1680] ++ List.range' 0x2000 11 ++ [0x2028, 0x2029, 0x202f, 0x205f, 0x3000]

theorem mem_blanks_of_isBlank {c : Char} (h : isBlank c = true) :
    c.toNat ∈ narrowBlanks ∨ c.toNat ∈ wideBlanks := by
  simp only [isBlank, Bool.or_eq_true, Bool.and_eq_true, decide_eq_true_eq, beq_iff_eq] at h
  simp only [narrowBlanks, wideBlanks, List.mem_append, List.mem_range'_1, List.mem_cons,
    List.not_mem_nil]
  omega

theorem inRanges_eq_any (ranges : Array (Nat × Nat)) (c : Char) :
    inRanges ranges c = ranges.toList.any fun r => Nat.ble r.1 c.toNat && Nat.ble c.toNat r.2 := by
  rw [inRanges, ← Array.any_toList]
  refine congrArg (ranges.toList.any ·) (funext fun r => ?_)
  rw [Bool.eq_iff_iff]
  simp

/-- No blank is a digit. -/
theorem isDigit_of_isBlank {c : Char} (h : isBlank c = true) : isDigit c = false := by
  have hall : ∀ n ∈ narrowBlanks ++ wideBlanks, isDigit (Char.ofNat n) = false := by
    decide +kernel
  have hc := hall c.toNat (List.mem_append.2 (mem_blanks_of_isBlank h))
  rwa [Char.ofNat_toNat] at hc

/-- No blank is a character of a word. -/
theorem isWord_of_isBlank {c : Char} (h : isBlank c = true) : isWord c = false := by
  rcases mem_blanks_of_isBlank h with hc | hc
  · have hall : ∀ n ∈ narrowBlanks, isWord (Char.ofNat n) = false := by decide
    have hword := hall c.toNat hc
    rwa [Char.ofNat_toNat] at hword
  · have hwide : ∀ n ∈ wideBlanks, 128 ≤ n := by decide
    -- no range of word characters goes around a blank
    have hranges : (wideBlanks.all fun n =>
        !wordRanges.toList.any fun r => Nat.ble r.1 n && Nat.ble n r.2) = true := by
      decide +kernel
    have hnone := List.all_eq_true.1 hranges c.toNat hc
    rw [isWord, if_neg (Nat.not_lt.2 (hwide c.toNat hc)), inRanges_eq_any]
    simpa using hnone

/-- The digits of ASCII with their values. -/
theorem digitValue?_of_isDigit {c : Char} (h : c.isDigit = true) :
    digitValue? c = some (c.toNat - '0'.toNat) := by
  have hc : 0x30 ≤ c.toNat ∧ c.toNat < 0x30 + 10 := by
    simp only [Char.isDigit, Bool.and_eq_true, decide_eq_true_eq, UInt32.le_iff_toNat_le] at h
    exact ⟨h.1, Nat.lt_succ_of_le h.2⟩
  rw [digitValue?, zeros, List.find?_cons_of_pos (by simpa using hc)]
  rfl

theorem digitValue?_lt {c : Char} {d : Nat} (h : digitValue? c = some d) : d < 10 := by
  obtain ⟨z, hz, rfl⟩ := Option.map_eq_some_iff.1 h
  have hrange := List.find?_some hz
  simp only [Bool.and_eq_true, decide_eq_true_eq] at hrange
  omega

theorem digitsToNat_concat (ds : Text) (c : Char) :
    digitsToNat (ds ++ [c]) = digitsToNat ds * 10 + (digitValue? c).getD 0 := by
  rw [digitsToNat, List.foldl_append]
  rfl

theorem digitsToNat_lt (ds : Text) : digitsToNat ds < Nat.pow 10 ds.length := by
  induction ds using List.reverseRecOn with
  | nil => exact Nat.one_pos
  | append_singleton ds c ih =>
    have hvalue : (digitValue? c).getD 0 < 10 := by
      cases h : digitValue? c with
      | none => exact Nat.succ_pos 9
      | some d => exact digitValue?_lt h
    rw [digitsToNat_concat, List.length_append, List.length_singleton]
    show _ < Nat.pow 10 ds.length * 10
    omega

/-- The decimal digits of a number write this number. -/
theorem digitsToNat_toDigits (n : Nat) : digitsToNat (Nat.toDigits 10 n) = n := by
  have hdigit : ∀ c ∈ Nat.toDigits 10 n, c.isDigit = true := fun c hc =>
    Nat.isDigit_of_mem_toDigits (Nat.succ_pos 9) (Nat.le_refl 10) hc
  calc digitsToNat (Nat.toDigits 10 n)
      = Nat.ofDigitChars 10 (Nat.toDigits 10 n) 0 := by
        rw [Nat.ofDigitChars_eq_foldl, digitsToNat]
        refine List.foldl_ext _ _ _ fun m c hc => ?_
        rw [digitValue?_of_isDigit (hdigit c hc), Nat.mul_comm]
        rfl
    _ = n := Nat.ofDigitChars_ten_toDigits

end Text

namespace Expression

open Text (takeWhile_append_apart dropWhile_append_apart)

variable {s k rest : Text} {q : Char} {w : Written}

/-! ## Identifiers -/

/-- Whether a text is an identifier. -/
def IsIdentifier : Text → Prop
  | [] => False
  | c :: cs => isIdentStart c = true ∧ ∀ d ∈ cs, isIdentPart d = true

instance : DecidablePred IsIdentifier
  | [] => .isFalse id
  | c :: cs => decidable_of_iff ((isIdentStart c && cs.all isIdentPart) = true)
      (by simp [IsIdentifier])

theorem isIdentPart_of_isBlank {c : Char} (h : Text.isBlank c = true) : isIdentPart c = false := by
  have hdollar : c ≠ '$' := by
    rintro rfl
    exact absurd h (by decide)
  simp [isIdentPart, Text.isWord_of_isBlank h, hdollar]

theorem isIdentPart_of_isIdentStart {c : Char} (h : isIdentStart c = true) :
    isIdentPart c = true := by
  simp only [isIdentStart, Bool.or_eq_true, decide_eq_true_eq] at h
  rcases h with (h | rfl) | rfl
  · have hlast : c.val ≤ 'Z'.val ∨ c.val ≤ 'z'.val := by
      rcases Bool.or_eq_true_iff.1 h with hupper | hlower
      · exact .inl (of_decide_eq_true hupper).2
      · have hlower : ('a'.val ≤ c.val && c.val ≤ 'z'.val) = true := hlower
        exact .inr (of_decide_eq_true (Bool.and_eq_true_iff.1 hlower).2)
    have hascii : c.toNat < 128 := by
      rcases hlast with hle | hle
      · exact Nat.lt_of_le_of_lt (UInt32.le_iff_toNat_le.1 hle) (by decide)
      · exact Nat.lt_of_le_of_lt (UInt32.le_iff_toNat_le.1 hle) (by decide)
    have halphanum : c.isAlphanum = true := Bool.or_eq_true_iff.2 (.inl h)
    simp [isIdentPart, Text.isWord, hascii, halphanum]
  · decide
  · decide

theorem IsIdentifier.isIdentPart (h : IsIdentifier k) : ∀ c ∈ k, isIdentPart c = true := by
  cases k with
  | nil => cases h
  | cons c k => exact List.forall_mem_cons.2 ⟨isIdentPart_of_isIdentStart h.1, h.2⟩

theorem IsIdentifier.isBlank (h : IsIdentifier k) : ∀ c ∈ k, Text.isBlank c = false := by
  intro c hc
  rw [Bool.eq_false_iff]
  intro hblank
  cases (isIdentPart_of_isBlank hblank).symm.trans (h.isIdentPart c hc)

theorem IsIdentifier.ne_nil (h : IsIdentifier k) : k ≠ [] := by
  rintro rfl
  exact h

theorem IsIdentifier.head?_append (h : IsIdentifier k) (s : Text) :
    ∀ c ∈ (k ++ s).head?, Text.isBlank c = false := by
  intro c hc
  rw [List.head?_append_of_ne_nil _ h.ne_nil] at hc
  exact h.isBlank c (List.mem_of_mem_head? hc)

/-- An identifier is read up to the first character that cannot go on with it. -/
theorem ident?_eq_some_iff :
    ident? s = some (k, rest) ↔
      IsIdentifier k ∧ s = k ++ rest ∧ ∀ c ∈ rest.head?, isIdentPart c = false := by
  constructor
  · intro h
    -- the identifier is all of the text up to the first character that cannot be part of it
    cases s with
    | nil => cases h
    | cons c cs =>
      rw [ident?] at h
      split at h
      · next hc =>
        cases h
        refine ⟨⟨hc, fun d hd => List.mem_takeWhile_imp hd⟩, ?_, fun d hd => ?_⟩
        · rw [List.cons_append, List.takeWhile_append_dropWhile]
        · have hhead := List.head?_dropWhile_not isIdentPart cs
          rw [Option.mem_def.1 hd] at hhead
          simpa using hhead
      · cases h
  · rintro ⟨hk, rfl, hrest⟩
    cases k with
    | nil => cases hk
    | cons c cs =>
      rw [List.cons_append, ident?, if_pos hk.1, takeWhile_append_apart hk.2 hrest,
        dropWhile_append_apart hk.2 hrest]

/-! ## What stands in brackets -/

/-- A bracket is closed behind blanks. -/
theorem closing?_eq_some_iff :
    closing? s = some rest ↔
      ∃ gap, (∀ c ∈ gap, Text.isBlank c = true) ∧ s = gap ++ ']' :: rest := by
  constructor
  · intro h
    unfold closing? at h
    split at h
    · next hs =>
      cases h
      refine ⟨s.takeWhile Text.isBlank, fun c hc => List.mem_takeWhile_imp hc, ?_⟩
      conv => lhs; rw [← List.takeWhile_append_dropWhile (p := Text.isBlank) (l := s)]
      exact congrArg _ hs
    · cases h
  · rintro ⟨gap, hgap, rfl⟩
    have htrim : Text.trimStart (gap ++ ']' :: rest) = ']' :: rest :=
      dropWhile_append_apart hgap (by rintro c ⟨⟩; rfl)
    simp only [closing?, htrim]

/-- Whether a bracket is closed inside `k` behind a quote `q`. -/
def ClosesInside (q : Char) (k : Text) : Prop :=
  ∃ left gap right, k = left ++ q :: (gap ++ ']' :: right) ∧ ∀ c ∈ gap, Text.isBlank c = true

theorem closesInside_cons {c : Char} :
    ClosesInside q (c :: k) ↔ (c = q ∧ closing? k ≠ none) ∨ ClosesInside q k := by
  constructor
  · rintro ⟨left, gap, right, heq, hgap⟩
    cases left with
    | nil =>
      obtain ⟨rfl, rfl⟩ := List.cons.inj heq
      refine .inl ⟨rfl, ?_⟩
      rw [closing?_eq_some_iff.2 ⟨gap, hgap, rfl⟩]
      exact Option.some_ne_none right
    | cons d left =>
      obtain ⟨rfl, rfl⟩ := List.cons.inj heq
      exact .inr ⟨left, gap, right, rfl, hgap⟩
  · rintro (⟨rfl, hclose⟩ | ⟨left, gap, right, rfl, hgap⟩)
    · obtain ⟨right, hright⟩ := Option.ne_none_iff_exists'.1 hclose
      obtain ⟨gap, hgap, rfl⟩ := closing?_eq_some_iff.1 hright
      exact ⟨[], gap, right, rfl, hgap⟩
    · exact ⟨c :: left, gap, right, rfl, hgap⟩

/-- A quote that is neither a blank nor a bracket does not decide whether a bracket closes before
it. -/
theorem closing?_append_quote (hblank : Text.isBlank q = false) (hbracket : q ≠ ']') (k r : Text) :
    closing? (k ++ q :: r) = (closing? k).map (· ++ q :: r) := by
  have htrim : Text.trimStart (k ++ q :: r) = Text.trimStart k ++ q :: r := by
    have hquote : (q :: r).dropWhile Text.isBlank = q :: r := by simp [hblank]
    rw [Text.trimStart, List.dropWhile_append, hquote]
    split
    · next hempty => rw [Text.trimStart, List.isEmpty_iff.1 hempty, List.nil_append]
    · rfl
  -- the blanks stop at the quote at the latest, so the bracket is looked for at the same place
  rw [closing?, htrim, closing?]
  cases Text.trimStart k with
  | nil =>
    rw [List.nil_append]
    split
    · next heq => exact absurd (List.cons.inj heq).1 hbracket
    · rfl
  | cons c k =>
    rw [List.cons_append]
    split
    · next heq =>
      obtain ⟨rfl, rfl⟩ := List.cons.inj heq
      rfl
    · next hopen =>
      split
      · next heq =>
        cases heq
        exact absurd rfl (hopen _)
      · rfl

theorem closing?_append_quote_ne_none_iff (hblank : Text.isBlank q = false) (hbracket : q ≠ ']')
    (k r : Text) : closing? (k ++ q :: r) ≠ none ↔ closing? k ≠ none := by
  rw [closing?_append_quote hblank hbracket, Ne, Option.map_eq_none_iff]

/-- A quoted key ends at its first character, or goes on behind it on the same line. -/
theorem quotedKey?_cons_eq_some_iff {c : Char} :
    quotedKey? q (c :: s) = some (k, rest) ↔
      (c = q ∧ closing? s = some rest ∧ k = []) ∨
        ¬ (c = q ∧ closing? s ≠ none) ∧ c ≠ '\n' ∧
          ∃ k', quotedKey? q s = some (k', rest) ∧ k = c :: k' := by
  by_cases hend : c = q ∧ closing? s ≠ none
  · obtain ⟨r, hclose⟩ := Option.ne_none_iff_exists'.1 hend.2
    rw [quotedKey?, if_pos hend.1, hclose]
    simp [hend.1, eq_comm, and_comm]
  · have hopen : (if c = q then closing? s else none) = none := by
      rw [ite_eq_right_iff]
      exact fun hquote => not_not.1 fun hclose => hend ⟨hquote, hclose⟩
    have hclosed : ¬ (c = q ∧ closing? s = some rest ∧ k = []) := by
      rintro ⟨hquote, hclose, -⟩
      exact hend ⟨hquote, by simp [hclose]⟩
    rw [quotedKey?, hopen, or_iff_right hclosed, and_iff_right hend]
    by_cases hline : c = '\n'
    · simp [hline]
    · simp only [if_neg hline, Option.map_eq_some_iff, Prod.exists, Prod.mk.injEq]
      constructor
      · rintro ⟨k', _, hk, rfl, rfl⟩
        exact ⟨hline, k', hk, rfl⟩
      · rintro ⟨-, k', hk, rfl⟩
        exact ⟨k', rest, hk, rfl, rfl⟩

/-- **A quoted key** ends at the first quote that a closing bracket follows, on its line. -/
theorem quotedKey?_eq_some_iff (hblank : Text.isBlank q = false) (hbracket : q ≠ ']') :
    quotedKey? q s = some (k, rest) ↔
      '\n' ∉ k ∧ ¬ ClosesInside q k ∧
        ∃ gap, (∀ c ∈ gap, Text.isBlank c = true) ∧ s = k ++ q :: (gap ++ ']' :: rest) := by
  constructor
  · -- on the text: a bracket that closes inside the key would have ended it at an earlier quote
    intro h
    induction s generalizing k with
    | nil => cases h
    | cons c s ih =>
      rcases quotedKey?_cons_eq_some_iff.1 h with ⟨rfl, hclose, rfl⟩ | ⟨hopen, hline, k, hk, rfl⟩
      · obtain ⟨gap, hgap, rfl⟩ := closing?_eq_some_iff.1 hclose
        refine ⟨List.not_mem_nil, ?_, gap, hgap, rfl⟩
        rintro ⟨left, gap, right, h, -⟩
        simp at h
      · obtain ⟨hlines, hinside, gap, hgap, rfl⟩ := ih hk
        rw [closing?_append_quote_ne_none_iff hblank hbracket] at hopen
        refine ⟨by simp [hlines, Ne.symm hline], ?_, gap, hgap, rfl⟩
        rw [closesInside_cons, not_or]
        exact ⟨hopen, hinside⟩
  · -- on the key: none of its characters ends it
    rintro ⟨hline, hinside, gap, hgap, rfl⟩
    induction k with
    | nil =>
      have hclose : closing? (gap ++ ']' :: rest) = some rest :=
        closing?_eq_some_iff.2 ⟨gap, hgap, rfl⟩
      exact quotedKey?_cons_eq_some_iff.2 (.inl ⟨rfl, hclose, rfl⟩)
    | cons c k ih =>
      rw [List.mem_cons, not_or] at hline
      rw [closesInside_cons, not_or] at hinside
      refine quotedKey?_cons_eq_some_iff.2
        (.inr ⟨?_, Ne.symm hline.1, k, ih hline.2 hinside.2, rfl⟩)
      exact (not_congr (and_congr_right fun _ =>
        closing?_append_quote_ne_none_iff hblank hbracket _ _)).2 hinside.1

/-- The sign and the digits of a number in brackets. -/
def signed (negative : Bool) (ds : Text) : Text := if negative then '-' :: ds else ds

theorem takeSign_signed {negative : Bool} {ds : Text} (hne : ds ≠ [])
    (hds : ∀ c ∈ ds, Text.isDigit c = true) (s : Text) :
    takeSign (signed negative ds ++ s) = (negative, ds ++ s) := by
  cases negative with
  | true => rfl
  | false =>
    obtain ⟨d, ds, rfl⟩ := List.exists_cons_of_ne_nil hne
    have hd : d ≠ '-' := by
      rintro rfl
      exact absurd (hds '-' List.mem_cons_self) (by decide)
    show takeSign (d :: (ds ++ s)) = (false, d :: (ds ++ s))
    rw [takeSign]
    intro r hr
    exact hd (List.cons.inj hr).1

/-- A number starts with a sign or a digit. -/
theorem head?_signed {negative : Bool} {ds : Text} (hne : ds ≠ [])
    (hds : ∀ c ∈ ds, Text.isDigit c = true) (s : Text) :
    ∀ c ∈ (signed negative ds ++ s).head?, Text.isBlank c = false := by
  cases negative with
  | true =>
    rintro c ⟨⟩
    decide
  | false =>
    intro c hc
    rw [signed, if_neg Bool.false_ne_true, List.head?_append_of_ne_nil _ hne] at hc
    rw [Bool.eq_false_iff]
    intro hblank
    have hdigit := Text.isDigit_of_isBlank hblank
    cases hdigit.symm.trans (hds c (List.mem_of_mem_head? hc))

/-- A number is read with the bracket behind it. -/
theorem bracketIndex?_signed {negative : Bool} {ds gap : Text} (hne : ds ≠ [])
    (hds : ∀ c ∈ ds, Text.isDigit c = true) (hgap : ∀ c ∈ gap, Text.isBlank c = true) :
    bracketIndex? (signed negative ds ++ (gap ++ ']' :: rest)) =
      some (.digits negative ds, rest) := by
  have hstop : ∀ c ∈ (gap ++ ']' :: rest).head?, Text.isDigit c = false := by
    cases gap with
    | nil =>
      rintro c ⟨⟩
      decide
    | cons d gap =>
      rintro c ⟨⟩
      exact Text.isDigit_of_isBlank (hgap d List.mem_cons_self)
  have hclose : closing? (gap ++ ']' :: rest) = some rest := closing?_eq_some_iff.2 ⟨gap, hgap, rfl⟩
  simp only [bracketIndex?, takeSign_signed hne hds, takeWhile_append_apart hds hstop,
    dropWhile_append_apart hds hstop, hclose]
  simp [hne]

/-- What starts with a quote is no number. -/
theorem bracketIndex?_quote (hdigit : Text.isDigit q = false) (hsign : q ≠ '-') :
    bracketIndex? (q :: s) = none := by
  have htake : takeSign (q :: s) = (false, q :: s) := by
    rw [takeSign]
    intro r hr
    exact hsign (List.cons.inj hr).1
  simp [bracketIndex?, htake, hdigit]

/-! ## Steps as they are written -/

/-- A step of a path after its start. -/
inductive Step where
  | name (k : Text)
  | index (n : Int)
  /-- A key between quotes `q`. -/
  | quoted (q : Char) (k : Text)
  deriving DecidableEq, Repr

/-- Blanks where they may stand: before a step, behind its point or opening bracket, and before its
closing bracket if it has one. -/
structure Spacing where
  before : Text := []
  inner : Text := []
  after : Text := []
  allBlank : Text.allBlank (before ++ inner ++ after) = true := by rfl

namespace Spacing

variable (g : Spacing)

theorem isBlank : ∀ c ∈ g.before ++ g.inner ++ g.after, Text.isBlank c = true :=
  List.all_eq_true.1 g.allBlank

theorem isBlank_before : ∀ c ∈ g.before, Text.isBlank c = true := fun c hc =>
  g.isBlank c (List.mem_append_left _ (List.mem_append_left _ hc))

theorem isBlank_inner : ∀ c ∈ g.inner, Text.isBlank c = true := fun c hc =>
  g.isBlank c (List.mem_append_left _ (List.mem_append_right _ hc))

theorem isBlank_after : ∀ c ∈ g.after, Text.isBlank c = true := fun c hc =>
  g.isBlank c (List.mem_append_right _ hc)

end Spacing

namespace Step

/-- The key that a step stands for. -/
def key : Step → Key
  | name k | quoted _ k => .name k
  | index n => .index n

/-- A step as it is written. -/
def written (g : Spacing) : Step → Text
  | name k => g.before ++ '.' :: (g.inner ++ k)
  | index n => g.before ++ '[' :: (g.inner ++ ((toString n).toList ++ (g.after ++ [']'])))
  | quoted q k => g.before ++ '[' :: (g.inner ++ q :: (k ++ q :: (g.after ++ [']'])))

/-- Whether a step can be written: a name is an identifier, a number has few enough digits, and a
key between quotes stays on its line and does not hold what would close its bracket. -/
def IsWritable : Step → Prop
  | name k => IsIdentifier k
  | index n => Whole.IsShort n
  | quoted q k => (q = '\'' ∨ q = '"') ∧ '\n' ∉ k ∧ ¬ ClosesInside q k

instance : DecidablePred IsWritable
  | name k => inferInstanceAs (Decidable (IsIdentifier k))
  | index n => inferInstanceAs (Decidable (n.natAbs < Nat.pow 10 Whole.maxDigits))
  | quoted q k =>
    decidable_of_iff ((q = '\'' ∨ q = '"') ∧ quotedKey? q (k ++ [q, ']']) = some (k, [])) <|
      and_congr_right fun hquote => by
        have hq : Text.isBlank q = false ∧ q ≠ ']' := by rcases hquote with rfl | rfl <;> decide
        rw [quotedKey?_eq_some_iff hq.1 hq.2]
        exact and_congr_right fun _ => and_iff_left ⟨[], nofun, rfl⟩

/-- A step starts with a character that cannot go on with an identifier. -/
theorem head?_written (g : Spacing) (step : Step) (s : Text) :
    ∀ c ∈ (step.written g ++ s).head?, isIdentPart c = false := by
  have hhead {d : Char} {t : Text} (hd : isIdentPart d = false) :
      ∀ c ∈ (g.before ++ d :: t).head?, isIdentPart c = false := by
    intro c hc
    cases hbefore : g.before with
    | nil =>
      rw [hbefore] at hc
      cases hc
      exact hd
    | cons b before =>
      rw [hbefore] at hc
      cases hc
      exact isIdentPart_of_isBlank (g.isBlank_before c (hbefore ▸ List.mem_cons_self))
  cases step <;> rw [written, List.append_assoc] <;> exact hhead (by decide)

end Step

/-- A number as it is written. -/
theorem exists_signed_toString (n : Int) :
    ∃ negative, (toString n).toList = signed negative (Nat.toDigits 10 n.natAbs) ∧
      (if negative then -(n.natAbs : Int) else n.natAbs) = n := by
  cases n with
  | ofNat n => exact ⟨false, by simp [signed, Int.repr, Nat.toList_repr], rfl⟩
  | negSucc n => exact ⟨true, by simp [signed, Int.repr, Nat.toList_repr], rfl⟩

/-- The digits of a number that is short enough give the number. -/
theorem toKey_toDigits {n : Int} {negative : Bool} (hn : Whole.IsShort n)
    (hsign : (if negative then -(n.natAbs : Int) else n.natAbs) = n) :
    (Written.digits negative (Nat.toDigits 10 n.natAbs)).toKey = .ok (.index n) := by
  have hlength : (Nat.toDigits 10 n.natAbs).length ≤ Whole.maxDigits := by
    unfold Whole.IsShort at hn
    have hpos : 0 < Whole.maxDigits := by decide
    generalize Whole.maxDigits = digits at hn hpos ⊢
    exact (Nat.length_toDigits_le_iff (by decide) hpos).2 hn
  rw [Written.toKey, if_neg (Nat.not_lt.2 hlength), Text.digitsToNat_toDigits]
  exact congrArg (fun n => Except.ok (Key.index n)) hsign

theorem segment?_point {gap gap' r : Text} (hgap : ∀ c ∈ gap, Text.isBlank c = true)
    (hgap' : ∀ c ∈ gap', Text.isBlank c = true) (hr : ∀ c ∈ r.head?, Text.isBlank c = false) :
    segment? (gap ++ '.' :: (gap' ++ r)) =
      (ident? r).map fun (name, rest) => (.name name, rest) := by
  have hpoint : Text.trimStart (gap ++ '.' :: (gap' ++ r)) = '.' :: (gap' ++ r) :=
    dropWhile_append_apart hgap (by rintro c ⟨⟩; rfl)
  have hname : Text.trimStart (gap' ++ r) = r := dropWhile_append_apart hgap' hr
  simp only [segment?, hpoint, hname]

theorem segment?_bracket {gap gap' r : Text} (hgap : ∀ c ∈ gap, Text.isBlank c = true)
    (hgap' : ∀ c ∈ gap', Text.isBlank c = true) (hr : ∀ c ∈ r.head?, Text.isBlank c = false) :
    segment? (gap ++ '[' :: (gap' ++ r)) = (bracketIndex? r).orElse fun _ => bracketKey? r := by
  have hbracket : Text.trimStart (gap ++ '[' :: (gap' ++ r)) = '[' :: (gap' ++ r) :=
    dropWhile_append_apart hgap (by rintro c ⟨⟩; rfl)
  have hinner : Text.trimStart (gap' ++ r) = r := dropWhile_append_apart hgap' hr
  simp only [segment?, hbracket, hinner]

/-- A name behind a point is read as it was written, if nothing behind it goes on with it. -/
theorem segment?_written_name (g : Spacing) (hk : IsIdentifier k)
    (hrest : ∀ c ∈ rest.head?, isIdentPart c = false) :
    segment? ((Step.name k).written g ++ rest) = some (.name k, rest) := by
  have hhead : ∀ c ∈ (k ++ rest).head?, Text.isBlank c = false := hk.head?_append rest
  rw [Step.written, List.append_assoc, List.cons_append, List.append_assoc,
    segment?_point g.isBlank_before g.isBlank_inner hhead, ident?_eq_some_iff.2 ⟨hk, rfl, hrest⟩]
  rfl

/-- A number in brackets is read as its sign and its digits. -/
theorem exists_segment?_written_index (g : Spacing) (n : Int) (rest : Text) :
    ∃ negative, segment? ((Step.index n).written g ++ rest) =
        some (.digits negative (Nat.toDigits 10 n.natAbs), rest) ∧
      (if negative then -(n.natAbs : Int) else n.natAbs) = n := by
  obtain ⟨negative, hwritten, hsign⟩ := exists_signed_toString n
  have hds : ∀ c ∈ Nat.toDigits 10 n.natAbs, Text.isDigit c = true := by
    intro c hc
    have hdigit : c.isDigit = true :=
      Nat.isDigit_of_mem_toDigits (Nat.succ_pos 9) (Nat.le_refl 10) hc
    rw [Text.isDigit, Text.digitValue?_of_isDigit hdigit]
    rfl
  have happend : (Step.index n).written g ++ rest = g.before ++ '[' :: (g.inner ++
      (signed negative (Nat.toDigits 10 n.natAbs) ++ (g.after ++ ']' :: rest))) := by
    rw [Step.written, hwritten]
    simp
  refine ⟨negative, ?_, hsign⟩
  rw [happend, segment?_bracket g.isBlank_before g.isBlank_inner
    (head?_signed Nat.toDigits_ne_nil hds _), bracketIndex?_signed Nat.toDigits_ne_nil hds
      g.isBlank_after]
  rfl

/-- A quoted key in brackets is read as it was written. -/
theorem segment?_written_quoted (g : Spacing) (h : (Step.quoted q k).IsWritable) (rest : Text) :
    segment? ((Step.quoted q k).written g ++ rest) = some (.name k, rest) := by
  obtain ⟨hquote, hline, hinside⟩ := h
  have hq : Text.isBlank q = false ∧ Text.isDigit q = false ∧ q ≠ ']' ∧ q ≠ '-' := by
    rcases hquote with rfl | rfl <;> decide
  obtain ⟨hblank, hdigit, hbracket, hsign⟩ := hq
  have hkey : quotedKey? q (k ++ q :: (g.after ++ ']' :: rest)) = some (k, rest) :=
    (quotedKey?_eq_some_iff hblank hbracket).2 ⟨hline, hinside, g.after, g.isBlank_after, rfl⟩
  have hquoted : bracketKey? (q :: (k ++ q :: (g.after ++ ']' :: rest))) =
      some (.name k, rest) := by
    rw [bracketKey?, if_pos (by simpa using hquote), hkey]
    rfl
  have happend : (Step.quoted q k).written g ++ rest =
      g.before ++ '[' :: (g.inner ++ q :: (k ++ q :: (g.after ++ ']' :: rest))) := by
    simp [Step.written]
  rw [happend, segment?_bracket g.isBlank_before g.isBlank_inner (by rintro c ⟨⟩; exact hblank),
    bracketIndex?_quote hdigit hsign, hquoted]
  rfl

/-- **A step is read as it was written**, if nothing behind it goes on with its name. -/
theorem exists_segment?_written (g : Spacing) {step : Step} (hstep : step.IsWritable)
    (hrest : ∀ c ∈ rest.head?, isIdentPart c = false) :
    ∃ w, segment? (step.written g ++ rest) = some (w, rest) ∧ w.toKey = .ok step.key := by
  cases step with
  | name k => exact ⟨.name k, segment?_written_name g hstep hrest, rfl⟩
  | index n =>
    obtain ⟨negative, hsegment, hsign⟩ := exists_segment?_written_index g n rest
    exact ⟨_, hsegment, toKey_toDigits hstep hsign⟩
  | quoted q k => exact ⟨.name k, segment?_written_quoted g hstep rest, rfl⟩

/-! ## Paths as they are written -/

/-- What follows a step is read after it. -/
theorem segments_of_segment? {key : Key} (h : segment? s = some (w, rest))
    (hkey : w.toKey = .ok key) : segments s = (segments rest).map (Option.map (key :: ·)) := by
  have hne : s.isEmpty = false := by
    cases s with
    | nil => cases h
    | cons c s => rfl
  rw [segments, if_neg (by simp [hne])]
  split
  · next hnone =>
    rw [h] at hnone
    cases hnone
  · next hsome =>
    rw [h] at hsome
    cases hsome
    simp only [hkey]

/-- **Steps are read as they were written.** -/
theorem segments_written {steps : List (Spacing × Step)} (h : ∀ x ∈ steps, x.2.IsWritable) :
    segments (steps.flatMap fun x => x.2.written x.1) = .ok (some (steps.map (·.2.key))) := by
  induction steps with
  | nil => rw [List.flatMap_nil, segments]; rfl
  | cons x steps ih =>
    have hsteps := ih fun y hy => h y (List.mem_cons_of_mem _ hy)
    have hrest : ∀ c ∈ (steps.flatMap fun x => x.2.written x.1).head?, isIdentPart c = false := by
      cases steps with
      | nil => nofun
      | cons y steps => exact Step.head?_written y.1 y.2 _
    obtain ⟨w, hsegment, hkey⟩ := exists_segment?_written x.1 (h x List.mem_cons_self) hrest
    rw [List.flatMap_cons, segments_of_segment? hsegment hkey, hsteps]
    rfl

/-- A path as it is written: an identifier and steps, each with the blanks in it. -/
structure Spelling where
  first : Text
  steps : List (Spacing × Step)
  isIdentifier : IsIdentifier first
  areWritable : ∀ x ∈ steps, x.2.IsWritable

namespace Spelling

/-- The keys that a path stands for. -/
def keys (p : Spelling) : List Key := .name p.first :: p.steps.map (·.2.key)

/-- The text of a path. -/
def text (p : Spelling) : Text := p.first ++ p.steps.flatMap fun x => x.2.written x.1

/-- Whether a path is written without blanks. -/
def IsTight (p : Spelling) : Prop := ∀ x ∈ p.steps, x.1.before ++ x.1.inner ++ x.1.after = []

/-- Whether a text does not end with a blank. -/
def EndsPlainly (s : Text) : Prop := ∀ c ∈ s.getLast?, Text.isBlank c = false

theorem EndsPlainly.append {t : Text} (hs : EndsPlainly s) (ht : EndsPlainly t) :
    EndsPlainly (s ++ t) := by
  intro c hc
  rw [List.getLast?_append] at hc
  cases hlast : t.getLast? with
  | some d =>
    rw [hlast] at hc
    cases hc
    exact ht c hlast
  | none =>
    rw [hlast] at hc
    exact hs c hc

theorem endsPlainly_written (g : Spacing) {step : Step} (hstep : step.IsWritable) :
    EndsPlainly (step.written g) := by
  -- a step ends in its name or in a bracket
  have hbracket (s : Text) : EndsPlainly (s ++ [']']) := by
    intro c hc
    rw [List.getLast?_concat] at hc
    cases hc
    rfl
  cases step with
  | name k =>
    intro c hc
    have hk : IsIdentifier k := hstep
    rw [Step.written, ← List.singleton_append, ← List.append_assoc, ← List.append_assoc,
      List.getLast?_append_of_ne_nil _ hk.ne_nil] at hc
    exact hk.isBlank c (List.mem_of_mem_getLast? hc)
  | index n =>
    have happend : (Step.index n).written g =
        g.before ++ '[' :: (g.inner ++ (toString n).toList ++ g.after) ++ [']'] := by
      simp [Step.written]
    exact happend ▸ hbracket _
  | quoted q k =>
    have happend : (Step.quoted q k).written g =
        g.before ++ '[' :: (g.inner ++ q :: (k ++ q :: g.after)) ++ [']'] := by
      simp [Step.written]
    exact happend ▸ hbracket _

theorem endsPlainly_text (p : Spelling) : EndsPlainly p.text := by
  have hfirst : EndsPlainly p.first := fun c hc =>
    p.isIdentifier.isBlank c (List.mem_of_mem_getLast? hc)
  have hsteps {steps : List (Spacing × Step)} (h : ∀ x ∈ steps, x.2.IsWritable) :
      EndsPlainly (steps.flatMap fun x => x.2.written x.1) := by
    induction steps with
    | nil => nofun
    | cons x steps ih =>
      rw [List.flatMap_cons]
      exact (endsPlainly_written x.1 (h x List.mem_cons_self)).append
        (ih fun y hy => h y (List.mem_cons_of_mem _ hy))
  exact hfirst.append (hsteps p.areWritable)

/-- The blanks around a path do not belong to it. -/
theorem trim_text (p : Spelling) (margin : Spacing) :
    Text.trim (margin.before ++ p.text ++ margin.after) = p.text := by
  have htrimmed : Text.IsTrimmed p.text := ⟨p.isIdentifier.head?_append _, p.endsPlainly_text⟩
  exact Text.trim_append_apart margin.isBlank_before htrimmed margin.isBlank_after

/-- **A path says what was put into it**, with any blanks around it. -/
theorem parse_text (p : Spelling) (margin : Spacing) :
    parse (margin.before ++ p.text ++ margin.after) = .ok (some p.keys) := by
  have hrest : ∀ c ∈ (p.steps.flatMap fun x => x.2.written x.1).head?, isIdentPart c = false := by
    cases p.steps with
    | nil => nofun
    | cons x steps => exact Step.head?_written x.1 x.2 _
  have hfirst : ident? p.text = some (p.first, p.steps.flatMap fun x => x.2.written x.1) :=
    ident?_eq_some_iff.2 ⟨p.isIdentifier, rfl, hrest⟩
  rw [parse, p.trim_text, hfirst]
  simp only [segments_written p.areWritable]
  rfl

end Spelling

/-! ## Keys that are read can be written -/

/-- The key of a number that is read can be written as a number. -/
theorem isShort_of_toKey {negative : Bool} {ds : Text} {key : Key}
    (h : (Written.digits negative ds).toKey = .ok key) :
    ∃ n, key = .index n ∧ Whole.IsShort n := by
  rw [Written.toKey] at h
  split at h
  · cases h
  · next hlength =>
    cases h
    refine ⟨_, rfl, ?_⟩
    have hbound : Text.digitsToNat ds < Nat.pow 10 Whole.maxDigits := by
      generalize Whole.maxDigits = digits at hlength ⊢
      exact Nat.lt_of_lt_of_le (Text.digitsToNat_lt ds)
        (Nat.pow_le_pow_right (Nat.succ_pos 9) (Nat.not_lt.1 hlength))
    unfold Whole.IsShort
    split <;> simpa using hbound

theorem exists_step_of_bracketKey? (h : bracketKey? s = some (w, rest)) :
    ∃ q k, w = .name k ∧ (Step.quoted q k).IsWritable := by
  unfold bracketKey? at h
  split at h
  · next c cs =>
    split at h
    · next hquote =>
      obtain ⟨⟨k, r⟩, hk, heq⟩ := Option.map_eq_some_iff.1 h
      cases heq
      have hquote : c = '\'' ∨ c = '"' := by simpa using hquote
      have hc : Text.isBlank c = false ∧ c ≠ ']' := by rcases hquote with rfl | rfl <;> decide
      obtain ⟨hline, hinside, -⟩ := (quotedKey?_eq_some_iff hc.1 hc.2).1 hk
      exact ⟨c, k, rfl, hquote, hline, hinside⟩
    · cases h
  · cases h

/-- **Every key that is read can be written.** -/
theorem exists_step_of_segment? {key : Key} (h : segment? s = some (w, rest))
    (hkey : w.toKey = .ok key) : ∃ step : Step, step.IsWritable ∧ step.key = key := by
  unfold segment? at h
  split at h
  · next r _ =>
    obtain ⟨⟨k, r'⟩, hk, heq⟩ := Option.map_eq_some_iff.1 h
    cases heq
    cases hkey
    exact ⟨.name k, (ident?_eq_some_iff.1 hk).1, rfl⟩
  · next r _ =>
    dsimp only at h
    -- in brackets a number is tried first, then a key in quotes
    cases hindex : bracketIndex? (Text.trimStart r) with
    | some x =>
      rw [hindex] at h
      cases h
      unfold bracketIndex? at hindex
      dsimp only at hindex
      split at hindex
      · cases hindex
      · obtain ⟨r', -, heq⟩ := Option.map_eq_some_iff.1 hindex
        cases heq
        obtain ⟨n, rfl, hn⟩ := isShort_of_toKey hkey
        exact ⟨.index n, hn, rfl⟩
    | none =>
      rw [hindex] at h
      obtain ⟨q, k, rfl, hk⟩ := exists_step_of_bracketKey? h
      cases hkey
      exact ⟨.quoted q k, hk, rfl⟩
  · cases h

theorem exists_steps_of_segments {keys : List Key} (h : segments s = .ok (some keys)) :
    ∃ steps : List Step, (∀ step ∈ steps, step.IsWritable) ∧ steps.map Step.key = keys := by
  fun_induction segments s generalizing keys with
  | case1 s hs =>
    cases h
    exact ⟨[], nofun, rfl⟩
  | case2 s hs hsegment => cases h
  | case3 s hs w rest hsegment e hkey => cases h
  | case4 s hs w rest hsegment key hkey ih =>
    cases hrest : segments rest with
    | error e =>
      rw [hrest] at h
      cases h
    | ok found =>
      rw [hrest] at h
      obtain ⟨keys, rfl, rfl⟩ := Option.map_eq_some_iff.1 (Except.ok.inj h)
      obtain ⟨step, hstep, rfl⟩ := exists_step_of_segment? hsegment hkey
      obtain ⟨steps, hsteps, rfl⟩ := ih hrest
      exact ⟨step :: steps, List.forall_mem_cons.2 ⟨hstep, hsteps⟩, rfl⟩

/-- **Every path that is read can be written without blanks.** -/
theorem exists_spelling_of_parse {keys : List Key} (h : parse s = .ok (some keys)) :
    ∃ p : Spelling, p.IsTight ∧ p.keys = keys := by
  unfold parse at h
  split at h
  · cases h
  · next first rest hfirst =>
    cases hrest : segments rest with
    | error e =>
      rw [hrest] at h
      cases h
    | ok found =>
      rw [hrest] at h
      obtain ⟨keys, rfl, rfl⟩ := Option.map_eq_some_iff.1 (Except.ok.inj h)
      obtain ⟨steps, hsteps, rfl⟩ := exists_steps_of_segments hrest
      have hname := (ident?_eq_some_iff.1 hfirst).1
      refine ⟨⟨first, steps.map fun step => ({}, step), hname, ?_⟩, ?_, ?_⟩
      · intro x hx
        obtain ⟨step, hstep, rfl⟩ := List.mem_map.1 hx
        exact hsteps step hstep
      · intro x hx
        obtain ⟨step, -, rfl⟩ := List.mem_map.1 hx
        rfl
      · simp [Spelling.keys, Function.comp_def]

end Expression

namespace LabelPath

open Expression

/-- A path with blanks, a key that holds its own quote and a bracket, and a negative number. -/
def labelSpelling : Spelling where
  first := "site".toList
  steps := [({ before := [' '], inner := ['\n'] }, .name "labels".toList),
    ({}, .quoted '\'' "it's [0] or ' '".toList), ({ after := [' '] }, .index (-12))]
  isIdentifier := by decide
  areWritable := by decide +kernel

end LabelPath

namespace Expression

/-- **Path expressions round-trip.** A path of an identifier, then of identifiers, short numbers and
quoted keys, is read back from its text, whatever blanks stand in it and around it. Conversely the
keys of every text that is read as a path can be written without blanks, and are read back from
that. -/
theorem parse_roundTrip :
    (∀ (p : Spelling) (margin : Spacing),
      parse (margin.before ++ p.text ++ margin.after) = .ok (some p.keys)) ∧
    ∀ s keys, parse s = .ok (some keys) →
      ∃ p : Spelling, p.IsTight ∧ p.keys = keys ∧ parse p.text = .ok (some keys) := by
  refine ⟨Spelling.parse_text, fun s keys h => ?_⟩
  obtain ⟨p, htight, rfl⟩ := exists_spelling_of_parse h
  have htext := p.parse_text {}
  rw [List.nil_append, List.append_nil] at htext
  exact ⟨p, htight, rfl, htext⟩

/-- A key that holds its own quote and a bracket. -/
theorem parse_roundTrip_of_label :
    parse "\tsite .\nlabels['it's [0] or ' ''][-12 ] ".toList =
      .ok (some [.name "site".toList, .name "labels".toList, .name "it's [0] or ' '".toList,
        .index (-12)]) ∧
    ∃ p : Spelling, p.IsTight ∧ p.keys = LabelPath.labelSpelling.keys ∧
      parse p.text = .ok (some LabelPath.labelSpelling.keys) := by
  have hparse : parse "\tsite .\nlabels['it's [0] or ' ''][-12 ] ".toList =
      .ok (some LabelPath.labelSpelling.keys) :=
    parse_roundTrip.1 LabelPath.labelSpelling { before := ['\t'], after := [' '] }
  exact ⟨hparse, parse_roundTrip.2 _ _ hparse⟩

end Expression
end BuildBlocks
