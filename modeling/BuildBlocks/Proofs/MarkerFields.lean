import BuildBlocks.Proofs.ClosedLexemes
import BuildBlocks.Proofs.LineEnd
import BuildBlocks.Proofs.Margins
import Mathlib.Data.List.Infix

/-!
# Markers say what was put into them

A block is written by putting its type, its targets and its parameter or value between the marker
word and the end of the comment. Reading the block gives back these fields and the body
(`Span.scan_written`): no part takes characters from the part behind it, although a dash may belong
to a name, to targets, to a value and to the end of the comment.

The marker word may be any text. It may look like a slash or like `end`, hold what starts or ends a
comment, or start with blanks.

## The architecture

* **one lemma for each part of a marker** (`kind?_append`, `targets?_written`, `arguments?_written`,
  `word?_written`): it is read as it was put in, because the character behind it cannot belong to it.
* **`opening?_written`**, **`closing?_written`**: so whole markers are read as they were written.
* **`opening?_writtenClosing`**: a closing marker is no opening one. The word would have to come once
  more, shifted by the slash or the `end`, with a colon behind it (`shifted_ne`).
-/

namespace BuildBlocks
namespace Marker

variable {word r : Text}

/-! ## Fields -/

/-- Whether `s` is a name of word characters and dashes. -/
def IsName (s : Text) : Prop := s ≠ [] ∧ ∀ c ∈ s, isNameChar c = true

/-- Whether `s` is the type of a block: a name, or a name in square brackets. -/
def IsKind (s : Text) : Prop := IsName s ∨ ∃ name, IsName name ∧ s = '[' :: name ++ [']']

/-- Whether `s` is a written list of targets. -/
def IsTargets (s : Text) : Prop := s ≠ [] ∧ ∀ c ∈ s, isTargetChar c = true

instance (s : Text) : Decidable (IsName s) :=
  decidable_of_iff ((!s.isEmpty && s.all isNameChar) = true) (by simp [IsName])

instance (s : Text) : Decidable (IsTargets s) :=
  decidable_of_iff ((!s.isEmpty && s.all isTargetChar) = true) (by simp [IsTargets])

/-- What may stand behind the type and the targets: a parameter in parentheses, or a bare value. -/
inductive Argument where
  | none
  | parenthesized (p : Text)
  | bare (v : Text)
  deriving DecidableEq, Repr

namespace Argument

/-- An argument as it is written. -/
def written : Argument → Text
  | none => []
  | parenthesized p => '(' :: p ++ [')']
  | bare v => ' ' :: v

/-- What an argument may hold: parentheses end at the first closing one and on their line, a bare
value ends at a blank and at the end of the comment, and does not look like parentheses. -/
def IsReadable : Argument → Prop
  | none => True
  | parenthesized p => ')' ∉ p ∧ '\n' ∉ p
  | bare v => (∀ c ∈ v, Text.isBlank c = false) ∧ v.head? ≠ some '(' ∧ ¬ commentEnd <:+: v

instance : DecidablePred IsReadable
  | none => .isTrue trivial
  | parenthesized p =>
    decidable_of_iff ((!p.contains ')' && !p.contains '\n') = true) (by simp [IsReadable])
  | bare v =>
    decidable_of_iff ((v.all (!Text.isBlank ·) && v.head? != some '(' &&
      !decide (commentEnd <:+: v)) = true) (by simp [IsReadable, and_assoc])

/-- The parameter and the value that are read. A value without characters is none. -/
def read : Argument → Option Text × Option Text
  | none => (.none, .none)
  | parenthesized p => (some p, .none)
  | bare [] => (.none, .none)
  | bare v => (.none, some v)

/-- The parameter of the block. -/
def params : Argument → Text
  | none => []
  | parenthesized p => Text.trim p
  | bare v => v

end Argument

/-- The fields of a block. -/
structure Fields where
  kind : Text
  targets : Option Text
  argument : Argument
  isKind : IsKind kind
  isTargets : ∀ g ∈ targets, IsTargets g
  isReadable : argument.IsReadable

/-- Targets as they are written. -/
def writtenTargets : Option Text → Text
  | none => []
  | some g => ':' :: g

/-- An opening marker with its fields. -/
def Fields.written (f : Fields) (word : Text) : Text :=
  commentStart ++ ' ' :: (word ++ ':' :: (f.kind ++ (writtenTargets f.targets ++
    (f.argument.written ++ ' ' :: commentEnd))))

/-- The opening marker that is read. -/
def Fields.opening (f : Fields) (word : Text) : Opening :=
  ⟨f.written word, f.kind, f.targets, f.argument.read.1, f.argument.read.2⟩

/-- Whether `s` is what a closing marker has before the word. -/
def IsCloser (s : Text) : Prop := s = ['/'] ∨ s = ['e', 'n', 'd']

/-- A closing marker. -/
def writtenClosing (closer word : Text) : Text :=
  commentStart ++ ' ' :: (closer ++ (word ++ ' ' :: commentEnd))

/-- **A text does not come again** before its end with a character behind it that is not in between:
`x ++ w` does not start with `w` and `c`. -/
theorem shifted_ne {x w y : Text} {c : Char} (hx : x ≠ []) (hc : c ∉ x) :
    x ++ (w ++ y) ≠ w ++ c :: r := by
  intro h
  have hpos : 0 < x.length := List.length_pos_iff.2 hx
  have hwhole : w ++ [c] <+: x ++ (w ++ y) := ⟨r, by simp [h]⟩
  have hpart : x ++ w <+: x ++ (w ++ y) := ⟨y, by simp⟩
  have hbegins : w ++ [c] <+: x ++ w := by
    refine List.prefix_of_prefix_length_le hwhole hpart ?_
    simp only [List.length_append, List.length_cons, List.length_nil]
    omega
  -- both would hold `c` as often as `w` does, but one holds it once more
  have hcount : (w ++ [c]).count c ≤ (x ++ w).count c := hbegins.sublist.count_le c
  rw [List.count_append, List.count_append, List.count_eq_zero.2 hc, List.count_singleton_self,
    Nat.zero_add] at hcount
  exact Nat.not_succ_le_self _ hcount

/-! ## Names and targets -/

section Names

variable {p : Char → Bool} {x : Text} {c : Char}

/-- A run stops at a character that does not belong to it, unless this ends the comment. -/
theorem run?_append (hx : x ≠ []) (hall : ∀ d ∈ x, p d = true) (hc : p c = false) (hend : c ≠ '>') :
    run? p (x ++ c :: r) = some (x, c :: r) := by
  have htake : (x ++ c :: r).takeWhile p = x := by
    rw [takeWhile_append_cons hc, List.takeWhile_eq_self_iff]
    exact hall
  have hdrop : (x ++ c :: r).dropWhile p = c :: r := by
    rw [List.dropWhile_append_of_pos hall, List.dropWhile_cons_of_neg (by simp [hc])]
  have hlen : runLength p (x ++ c :: r) = x.length := by
    simp [runLength, htake, hdrop, hend]
  exact run?_eq_some_iff.2 ⟨rfl, hx, hlen.symm⟩

theorem kind?_append {k : Text} (hk : IsKind k) (hc : isNameChar c = false) (hend : c ≠ '>') :
    kind? (k ++ c :: r) = some (k, c :: r) := by
  rcases hk with ⟨hne, hall⟩ | ⟨name, ⟨hne, hall⟩, rfl⟩
  · have hrun : run? isNameChar (k ++ c :: r) = some (k, c :: r) := run?_append hne hall hc hend
    rw [← hrun, kind?]
    -- a name does not start with a bracket
    intro s hs
    obtain ⟨d, k, rfl⟩ := List.exists_cons_of_ne_nil hne
    have hd : d = '[' := (List.cons.inj hs).1
    have hname : isNameChar d = true := hall d List.mem_cons_self
    rw [hd] at hname
    exact absurd hname (by decide)
  · have hclose : isNameChar ']' = false := by decide
    have htake : (name ++ ']' :: c :: r).takeWhile isNameChar = name := by
      rw [takeWhile_append_cons hclose, List.takeWhile_eq_self_iff]
      exact hall
    have hdrop : (name ++ ']' :: c :: r).dropWhile isNameChar = ']' :: c :: r := by
      rw [List.dropWhile_append_of_pos hall, List.dropWhile_cons_of_neg (by simp [hclose])]
    rw [List.cons_append, List.cons_append, List.append_assoc, List.singleton_append,
      kind?_bracket_eq_some_iff, htake, hdrop]
    exact ⟨hne, rfl, rfl⟩

theorem targets?_written {targets : Option Text} (htargets : ∀ g ∈ targets, IsTargets g)
    (hc : isTargetChar c = false) (hcolon : c ≠ ':') (hend : c ≠ '>') :
    targets? (writtenTargets targets ++ c :: r) = some (targets, c :: r) := by
  cases targets with
  | none =>
    show targets? (c :: r) = _
    rw [targets?]
    intro s hs
    exact hcolon (List.cons.inj hs).1
  | some g =>
    obtain ⟨hne, hall⟩ := htargets g rfl
    show (run? isTargetChar (g ++ c :: r)).map _ = _
    rw [run?_append hne hall hc hend]
    rfl

end Names

/-! ## Arguments -/

theorem endOfComment?_written (r : Text) : endOfComment? (' ' :: commentEnd ++ r) = some r :=
  endOfComment?_eq_some_iff.2 rfl

theorem tail?_written (r : Text) : tail? (' ' :: commentEnd ++ r) = some (none, r) :=
  tail?_eq_some_iff.2 (.inr
    ⟨value?_eq_none_of_endOfComment? (endOfComment?_written r), endOfComment?_written r, rfl⟩)

/-- A bare value stops at the blank behind it. -/
theorem valueRun_append_blank {v : Text} {b : Char} (hv : ∀ c ∈ v, Text.isBlank c = false)
    (hcomment : ¬ commentEnd <:+: v) (hb : Text.isBlank b = true) :
    valueRun (v ++ b :: r) = v := by
  have hend : b ∉ commentEnd := notMem_commentEnd_of_isBlank hb
  induction v with
  | nil =>
    show valueRun (b :: r) = []
    rw [valueRun, if_pos (by simp [hb])]
  | cons c v ih =>
    have hc : Text.isBlank c = false := hv c List.mem_cons_self
    -- the end of a comment would lie before the blank
    have hstart : Text.startsWith (c :: v ++ b :: r) commentEnd = false := by
      rw [Bool.eq_false_iff, Ne, startsWith_eq_true_iff]
      intro hbegins
      exact hcomment (prefix_of_prefix_append_cons hend hbegins).isInfix
    have hlater : ¬ commentEnd <:+: v := fun h =>
      hcomment (h.trans (List.suffix_cons c v).isInfix)
    rw [List.cons_append] at hstart ⊢
    rw [valueRun, if_neg (by simp [hc, hstart]),
      ih (fun d hd => hv d (List.mem_cons_of_mem c hd)) hlater]

/-- Where no parenthesis stands there is no parameter. -/
theorem params?_eq_none {s : Text} (h : (s.dropWhile isSpace).head? ≠ some '(') :
    params? s = none := by
  by_contra hsome
  obtain ⟨⟨q, t⟩, hq⟩ := Option.ne_none_iff_exists'.1 hsome
  obtain ⟨u, hu, -⟩ := params?_eq_some_iff.1 hq
  exact h (by rw [hu]; rfl)

theorem params?_written {p : Text} (hparen : ')' ∉ p) (hline : '\n' ∉ p) (r : Text) :
    params? ('(' :: p ++ ')' :: r) = some (p, r) := by
  have hall : ∀ c ∈ p, (c != ')' && c != '\n') = true := by
    intro c hc
    simp only [Bool.and_eq_true, bne_iff_ne, ne_eq]
    exact ⟨fun h => hparen (h ▸ hc), fun h => hline (h ▸ hc)⟩
  refine params?_eq_some_iff.2 ⟨p ++ ')' :: r, ?_, ?_, ?_⟩
  · exact List.dropWhile_cons_of_neg (by decide)
  · rw [List.dropWhile_append_of_pos hall, List.dropWhile_cons_of_neg (by simp)]
  · rw [takeWhile_append_cons (by simp)]
    exact (List.takeWhile_eq_self_iff.2 hall).symm

/-- A bare value that does not look like a parameter is read as it was written. -/
theorem arguments?_bare {c : Char} {v : Text} (hv : ∀ d ∈ c :: v, Text.isBlank d = false)
    (hhead : (c :: v).head? ≠ some '(') (hcomment : ¬ commentEnd <:+: c :: v) :
    arguments? (' ' :: c :: v ++ (' ' :: commentEnd ++ r)) = some ((none, some (c :: v)), r) := by
  have hc : ¬ isSpace c = true := by
    intro hspace
    have hblank : Text.isBlank c = true := isBlank_of_isSpace hspace
    rw [hv c List.mem_cons_self] at hblank
    cases hblank
  have hdrop : (' ' :: c :: v ++ (' ' :: commentEnd ++ r)).dropWhile isSpace =
      c :: v ++ (' ' :: commentEnd ++ r) := by
    show (' ' :: c :: (v ++ (' ' :: commentEnd ++ r))).dropWhile isSpace = _
    rw [List.dropWhile_cons_of_pos (by decide), List.dropWhile_cons_of_neg hc]
    rfl
  have hvalue : value? (' ' :: c :: v ++ (' ' :: commentEnd ++ r)) =
      some (c :: v, ' ' :: commentEnd ++ r) := by
    refine value?_eq_some_iff.2 ⟨hdrop, List.cons_ne_nil c v, ?_, ?_⟩
    · rw [hdrop]
      exact (valueRun_append_blank hv hcomment (by decide)).symm
    · rw [hdrop]
      simp
  refine arguments?_eq_some_iff.2 (.inr ⟨fun q t hq => ?_, ?_, rfl⟩)
  · rw [params?_eq_none (by rw [hdrop]; exact hhead)] at hq
    cases hq
  · exact tail?_eq_some_iff.2 (.inl ⟨c :: v, _, hvalue, endOfComment?_written r, rfl⟩)

/-- **An argument is read as it was written.** -/
theorem arguments?_written {a : Argument} (ha : a.IsReadable) :
    arguments? (a.written ++ (' ' :: commentEnd ++ r)) = some (a.read, r) := by
  have hblanks : (' ' :: commentEnd ++ r).dropWhile isSpace = commentEnd ++ r := by rfl
  have hnothing {s : Text} (hs : s.dropWhile isSpace = commentEnd ++ r)
      (htail : tail? s = some (none, r)) : arguments? s = some ((none, none), r) := by
    refine arguments?_eq_some_iff.2 (.inr ⟨fun q t hq => ?_, htail, rfl⟩)
    have hhead : (s.dropWhile isSpace).head? = some '-' := by
      rw [hs]
      rfl
    rw [params?_eq_none (by simp [hhead])] at hq
    cases hq
  match a, ha with
  | .none, _ => exact hnothing hblanks (tail?_written r)
  | .parenthesized p, ha =>
    show arguments? ('(' :: p ++ [')'] ++ _) = _
    rw [List.append_assoc, List.singleton_append]
    exact arguments?_eq_some_iff.2 (.inl ⟨p, _, params?_written ha.1 ha.2 _, tail?_written r, rfl⟩)
  | .bare [], _ =>
    -- the two blanks before the end of the comment are no value
    have hend : endOfComment? (' ' :: ' ' :: commentEnd ++ r) = some r :=
      endOfComment?_eq_some_iff.2 rfl
    exact hnothing rfl (tail?_eq_some_iff.2 (.inr
      ⟨value?_eq_none_of_endOfComment? hend, hend, rfl⟩))
  | .bare (c :: v), ⟨hv, hhead, hcomment⟩ => exact arguments?_bare hv hhead hcomment

/-- The parameter of a block comes from what is read. -/
theorem Argument.trim_read {a : Argument} (ha : a.IsReadable) :
    Text.trim ((a.read.1.orElse fun _ => a.read.2).getD []) = a.params := by
  match a, ha with
  | .none, _ => rfl
  | .parenthesized p, _ => rfl
  | .bare [], _ => rfl
  | .bare (c :: v), ⟨hv, _⟩ => exact (Text.IsTrimmed.of_blankless hv).trim_eq

/-! ## Whole markers -/

theorem word?_written (word r : Text) : word? word (' ' :: (word ++ ':' :: r)) = some (':' :: r) := by
  have hcolon : Text.isBlank ':' = false := by decide
  have htake : (' ' :: (word ++ ':' :: r)).takeWhile Text.isBlank =
      ' ' :: word.takeWhile Text.isBlank := by
    rw [List.takeWhile_cons_of_pos (by decide), takeWhile_append_cons hcolon]
  have hdrop : (' ' :: (word ++ ':' :: r)).dropWhile Text.isBlank =
      word.dropWhile Text.isBlank ++ ':' :: r := by
    rw [List.dropWhile_cons_of_pos (by decide), dropWhile_append_cons hcolon]
  rw [word?, htake, hdrop, if_pos (endsWith_eq_true_iff.2 (List.suffix_cons ' ' _))]
  exact dropPrefix?_eq_some_iff.2 rfl

theorem take_of_append (x r : Text) : (x ++ r).take ((x ++ r).length - r.length) = x := by
  simp

/-- Behind the targets stands a parenthesis or a blank. -/
theorem exists_cons_of_written (a : Argument) (r : Text) :
    ∃ c s, a.written ++ (' ' :: commentEnd ++ r) = c :: s ∧ (c = '(' ∨ c = ' ') := by
  cases a with
  | none => exact ⟨' ', _, rfl, .inr rfl⟩
  | parenthesized p => exact ⟨'(', _, rfl, .inl rfl⟩
  | bare v => exact ⟨' ', _, rfl, .inr rfl⟩

/-- **An opening marker is read as it was written.** -/
theorem opening?_written (f : Fields) (word r : Text) :
    opening? word (f.written word ++ r) = some (f.opening word, r) := by
  let arguments := f.argument.written ++ (' ' :: commentEnd ++ r)
  have hwritten : f.written word ++ r = commentStart ++
      ' ' :: (word ++ ':' :: (f.kind ++ (writtenTargets f.targets ++ arguments))) := by
    simp [Fields.written, arguments]
  -- each field stops at the first character of the next one, which cannot belong to it
  have harguments : arguments? arguments = some (f.argument.read, r) :=
    arguments?_written f.isReadable
  have htargets : targets? (writtenTargets f.targets ++ arguments) =
      some (f.targets, arguments) := by
    obtain ⟨c, s, hs, hc⟩ := exists_cons_of_written f.argument r
    rw [show arguments = c :: s from hs]
    rcases hc with rfl | rfl <;> exact targets?_written f.isTargets (by decide) (by decide) (by decide)
  have hkind : kind? (f.kind ++ (writtenTargets f.targets ++ arguments)) =
      some (f.kind, writtenTargets f.targets ++ arguments) := by
    cases f.targets with
    | none =>
      obtain ⟨c, s, hs, hc⟩ := exists_cons_of_written f.argument r
      show kind? (f.kind ++ arguments) = some (f.kind, arguments)
      rw [show arguments = c :: s from hs]
      rcases hc with rfl | rfl <;> exact kind?_append f.isKind (by decide) (by decide)
    | some g => exact kind?_append f.isKind (by decide) (by decide)
  refine opening?_eq_some_iff.2 ⟨_, _, _, _, _, dropPrefix?_eq_some_iff.2 hwritten,
    word?_written word _, dropPrefix?_eq_some_iff.2 rfl, hkind, htargets, harguments, ?_⟩
  exact (take_of_append _ r).symm

/-- **A closing marker is read as it was written.** -/
theorem closing?_written {closer : Text} (hcloser : IsCloser closer) (word r : Text) :
    closing? word (writtenClosing closer word ++ r) = some (writtenClosing closer word, r) := by
  have hread : closer? (Text.trimStart (' ' :: (closer ++ (word ++ (' ' :: commentEnd ++ r))))) =
      some (word ++ (' ' :: commentEnd ++ r)) := by
    rcases hcloser with rfl | rfl
    · exact closer?_eq_some_iff.2 (.inl rfl)
    · exact closer?_eq_some_iff.2 (.inr rfl)
  refine closing?_eq_some_iff.2 ⟨_, _, _, ?_, hread, dropPrefix?_eq_some_iff.2 rfl,
    endOfComment?_written r, (take_of_append _ r).symm⟩
  rw [dropPrefix?_eq_some_iff, writtenClosing]
  simp

/-- **A closing marker is no opening one.** -/
theorem opening?_writtenClosing {closer : Text} (hcloser : IsCloser closer) (word r : Text) :
    opening? word (writtenClosing closer word ++ r) = none := by
  by_contra hsome
  obtain ⟨⟨o, rest⟩, ho⟩ := Option.ne_none_iff_exists'.1 hsome
  obtain ⟨s₁, s₂, s₃, -, -, h₁, h₂, h₃, -⟩ := opening?_eq_some_iff.1 ho
  have hs₁ : s₁ = ' ' :: (closer ++ (word ++ (' ' :: commentEnd ++ r))) := by
    have hs := dropPrefix?_eq_some_iff.1 h₁
    rw [writtenClosing, List.append_assoc, List.append_cancel_left_eq] at hs
    rw [← hs]
    simp
  have hblanks : s₁.dropWhile Text.isBlank = closer ++ (word ++ (' ' :: commentEnd ++ r)) := by
    rw [hs₁]
    rcases hcloser with rfl | rfl <;> rfl
  have hword := dropWhile_of_word? h₂
  rw [hblanks, dropPrefix?_eq_some_iff.1 h₃] at hword
  -- blanks at the start of the word belong to what it is shifted by
  have hsplit : word = word.takeWhile Text.isBlank ++ word.dropWhile Text.isBlank :=
    List.takeWhile_append_dropWhile.symm
  have hshift : closer ++ word.takeWhile Text.isBlank ++
      (word.dropWhile Text.isBlank ++ (' ' :: commentEnd ++ r)) =
        word.dropWhile Text.isBlank ++ ':' :: s₃ := by
    rw [List.append_assoc, ← List.append_assoc (word.takeWhile _), ← hsplit]
    exact hword
  have hblank : ':' ∉ word.takeWhile Text.isBlank := notMem_takeWhile (by decide) word
  refine shifted_ne ?_ ?_ hshift
  · rcases hcloser with rfl | rfl <;> simp
  · rcases hcloser with rfl | rfl <;> simpa using hblank

end Marker

/-! ## Blocks -/

namespace Lexeme

variable {word s r : Text}

theorem lex_of_opening? {o : Opening} (h : Marker.opening? word s = some (o, r)) :
    lex word s = .opening o :: lex word r := by
  cases s with
  | nil =>
    have hshorter := (Marker.opening?_append h).2
    simp at hshorter
  | cons c s =>
    have hfirst : first word c s = (.opening o, r) := by simp only [first, h]
    rw [lex, hfirst]

theorem lex_of_closing? {t : Text} (hopening : Marker.opening? word s = none)
    (h : Marker.closing? word s = some (t, r)) : lex word s = .closing t :: lex word r := by
  cases s with
  | nil =>
    have hshorter := (Marker.closing?_append h).2
    simp at hshorter
  | cons c s =>
    have hfirst : first word c s = (.closing t, r) := by simp only [first, hopening, h]
    rw [lex, hfirst]

theorem texts_map_char (t : Text) : texts (t.map .char) = t := by
  induction t with
  | nil => rfl
  | cons c t ih => rw [List.map_cons, Span.texts_cons, ih]; rfl

/-- The lexemes of a block are its markers and the characters between them. -/
theorem lex_written (word : Text) (f : Marker.Fields) {closer body : Text}
    (hcloser : Marker.IsCloser closer) (hbody : ¬ Marker.commentStart <:+: body) :
    lex word (f.written word ++ body ++ Marker.writtenClosing closer word) =
      .opening (f.opening word) ::
        (body.map .char ++ [.closing (Marker.writtenClosing closer word)]) := by
  have hclosing : lex word (Marker.writtenClosing closer word) =
      [.closing (Marker.writtenClosing closer word)] := by
    have hnone := Marker.opening?_writtenClosing hcloser word []
    have hread := Marker.closing?_written hcloser word []
    rw [List.append_nil] at hnone hread
    rw [lex_of_closing? hnone hread, lex]
  have htag : ∃ w, Marker.writtenClosing closer word = '<' :: w := ⟨_, rfl⟩
  obtain ⟨w, hw⟩ := htag
  rw [List.append_assoc, lex_of_opening? (Marker.opening?_written f word _), hw,
    lex_append_of_uncommented hbody, ← hw, hclosing]

end Lexeme

namespace Span

/-- **The fields of a block are recovered.** A page that is one block, written with a type, targets,
an argument and a body, is read as this block. -/
theorem scan_written (word : Text) (gated : Text → Bool) (file : Option Text) (offset : Int)
    (f : Marker.Fields) {closer body : Text} (hcloser : Marker.IsCloser closer)
    (hbody : ¬ Marker.commentStart <:+: body) :
    let page := f.written word ++ body ++ Marker.writtenClosing closer word
    ∃ d : Directive, (scan word gated file offset page).result = .ok [.block d 0 page.length] ∧
      d.kind = f.kind ∧ d.params = f.argument.params ∧ d.body = body ∧
        (∀ g, f.targets = some g → d.targets = Target.parse g) ∧
          (f.targets = none →
            d.targets = if gated f.kind then Target.parse f.argument.params else []) := by
  let d := Directive.ofParts (gated f.kind) (offset + 1) (f.opening word) body
    (Marker.writtenClosing closer word)
  have hscan := result_scan_of_block (Lexeme.lex_written word f hcloser hbody)
    (Lexeme.balanced_map_char body) gated file offset
  rw [Lexeme.texts_map_char] at hscan
  have htext : d.text = f.written word ++ body ++ Marker.writtenClosing closer word :=
    Directive.text_ofParts _ _ _ _ _
  have hparams : Directive.paramsOf (f.opening word) = f.argument.params :=
    Marker.Argument.trim_read f.isReadable
  refine ⟨d, ?_, rfl, hparams, Directive.body_ofParts _ _ _ _ _, ?_, ?_⟩
  · rw [hscan, ← htext]
    rfl
  · intro g hg
    show Directive.targetsOf (gated f.kind) (f.opening word) = Target.parse g
    simp only [Directive.targetsOf, Marker.Fields.opening, hg]
  · intro hnone
    show Directive.targetsOf (gated f.kind) (f.opening word) = _
    rw [Directive.targetsOf, hparams]
    simp only [Marker.Fields.opening, hnone]

/-- A block whose fields and body are full of dashes. -/
def dashedFields : Marker.Fields where
  kind := "[data-]".toList
  targets := some "dev|-".toList
  argument := .bare ">--".toList
  isKind := .inr ⟨"data-".toList, by decide, rfl⟩
  isTargets := by
    intro g hg
    cases hg
    decide
  isReadable := by decide

/-- The marker word is `end`, so that it stands twice in the closing marker. -/
theorem scan_written_of_dashes :
    ∃ d : Directive, (scan "end".toList (fun _ => true) none 0
        "<!-- end:[data-]:dev|- >-- -->->x<!-<!-- endend -->".toList).result =
          .ok [.block d 0 51] ∧
      d.kind = "[data-]".toList ∧ d.params = ">--".toList ∧ d.body = "->x<!-".toList ∧
        d.targets = ["dev".toList, "-".toList] := by
  have hcloser : Marker.IsCloser "end".toList := .inr rfl
  have huncommented : ¬ Marker.commentStart <:+: "->x<!-".toList := by decide
  obtain ⟨d, hscan, hkind, hparams, hbody, htargets, -⟩ :=
    scan_written "end".toList (fun _ => true) none 0 dashedFields hcloser huncommented
  exact ⟨d, hscan, hkind, hparams, hbody, htargets _ rfl⟩

end Span
end BuildBlocks
