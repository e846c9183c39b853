import BuildBlocks.Proofs.AttributeNames

/-!
# Setting an attribute again

A value without quotes and newlines can be put between any quotes, and setting an attribute to it
again changes nothing (`setAll_setAll_of_plain`). What is read the second time are the attributes
that were set the first time, with the values that they were given: an attribute that was not read
before is not read now, although the text behind its name may have changed.

## The architecture

* **`assignment?_eq_some_iff`**: an attribute is read just where one is written at a word boundary.
* **`stopsAs_texts`**: new values bring no quote to a line that has not had it.
* **`exists_open_quote_of_set`**: what stands before a quote outside of values has been there
  before, so a name that is followed by an open quote now was followed by one before.
* **`IsReading.set`**: so a text with new values is read as the same items with these values.
-/

namespace BuildBlocks
namespace Attribute

open Item (texts texts_cons)

variable {name value s rest : Text} {before : Option Char} {q : Char} {a : Assignment}

/-! ## Attributes as they are written -/

/-- Whether a value may stand between `q` and `q`: it does not hold this quote, and stays on its
line. -/
def FitsBetween (q : Char) (v : Text) : Prop := q ∉ v ∧ '\n' ∉ v

/-- Whether a character is a quote. -/
def IsQuote (q : Char) : Prop := q = '"' ∨ q = '\''

instance : DecidablePred IsQuote := fun q => inferInstanceAs (Decidable (q = '"' ∨ q = '\''))

/-- Whether an attribute is written with the name `name`: the name, an equals sign with blanks
around it, and a value that fits between its quotes. -/
structure Assignment.IsWritten (name : Text) (a : Assignment) : Prop where
  head : ∃ gap gap', a.head = name ++ gap ++ '=' :: gap' ∧ ∀ c ∈ gap ++ gap', Text.isBlank c = true
  quote : IsQuote a.quote
  value : FitsBetween a.quote a.value

theorem quoted?_eq_some_iff {v : Text} :
    quoted? s = some (q, v, rest) ↔ IsQuote q ∧ FitsBetween q v ∧ s = q :: v ++ q :: rest := by
  constructor
  · intro h
    have happend : s = q :: v ++ q :: rest := append_of_quoted? h
    unfold quoted? at h
    split at h
    · cases h
    split at h
    · next hquote =>
      split at h
      · cases h
      split at h
      · cases h
        have hquote : IsQuote q := by simpa [IsQuote] using hquote
        exact ⟨hquote, ⟨Marker.notMem_takeWhile (by simp) _, Marker.notMem_takeWhile (by simp) _⟩,
          happend⟩
      · cases h
    · cases h
  · rintro ⟨hquote, ⟨hclosed, hline⟩, rfl⟩
    -- the value goes on to the first quote or line end, and holds neither
    have hvalue : ∀ c ∈ v, (c != q && c != '\n') = true := by
      intro c hc
      have hcq : c ≠ q := ne_of_mem_of_not_mem hc hclosed
      have hcn : c ≠ '\n' := ne_of_mem_of_not_mem hc hline
      simp [hcq, hcn]
    have htake : (v ++ q :: rest).takeWhile (fun c => c != q && c != '\n') = v := by
      rw [Marker.takeWhile_append_cons (by simp), List.takeWhile_eq_self_iff]
      exact hvalue
    have hdrop : (v ++ q :: rest).dropWhile (fun c => c != q && c != '\n') = q :: rest := by
      rw [List.dropWhile_append_of_pos hvalue, List.dropWhile_cons_of_neg (by simp)]
    rw [List.cons_append, quoted?, if_pos (by simpa [IsQuote] using hquote), hdrop, htake]
    simp

theorem equals?_append {gap gap' : Text} {c : Char}
    (hblank : ∀ d ∈ gap ++ gap', Text.isBlank d = true) (hc : Text.isBlank c = false) :
    equals? (gap ++ '=' :: (gap' ++ c :: s)) = some (c :: s) := by
  have hgap : ∀ d ∈ gap, Text.isBlank d = true := fun d hd => hblank d (List.mem_append_left _ hd)
  have hgap' : ∀ d ∈ gap', Text.isBlank d = true := fun d hd =>
    hblank d (List.mem_append_right _ hd)
  have hequals : Text.trimStart (gap ++ '=' :: (gap' ++ c :: s)) = '=' :: (gap' ++ c :: s) := by
    rw [Text.trimStart, List.dropWhile_append_of_pos hgap, List.dropWhile_cons_of_neg (by decide)]
  have htrim : Text.trimStart (gap' ++ c :: s) = c :: s := by
    rw [Text.trimStart, List.dropWhile_append_of_pos hgap',
      List.dropWhile_cons_of_neg (by simp [hc])]
  rw [equals?, hequals]
  exact congrArg some htrim

theorem IsQuote.isBlank (h : IsQuote q) : Text.isBlank q = false := by
  rcases h with rfl | rfl <;> rfl

theorem atBoundary_append {x : Text} (hx : x ≠ []) (y : Text) :
    atBoundary before (x ++ y) = atBoundary before x := by
  rw [atBoundary, atBoundary, List.head?_append_of_ne_nil _ hx]

theorem Assignment.IsWritten.head_ne_nil (h : a.IsWritten name) : a.head ≠ [] := by
  obtain ⟨gap, gap', hhead, -⟩ := h.head
  rw [hhead]
  simp

theorem Assignment.withValue_append (a : Assignment) (v : Text) :
    a.withValue v ++ rest = a.head ++ a.quote :: (v ++ a.quote :: rest) := by
  simp [Assignment.withValue]

/-- **An attribute is read** just where one is written at a word boundary. -/
theorem assignment?_eq_some_iff :
    assignment? name before s = some (a, rest) ↔
      atBoundary before a.head = true ∧ a.IsWritten name ∧ s = a.withValue a.value ++ rest := by
  constructor
  · intro h
    have happend : s = a.withValue a.value ++ rest := append_of_assignment? h
    have hhead := exists_head_of_assignment? h
    unfold assignment? at h
    split at h
    · next hboundary =>
      simp only [Option.bind_eq_bind, Option.bind_eq_some_iff, Option.some.injEq,
        Prod.mk.injEq] at h
      obtain ⟨_, -, _, -, ⟨q, v, r⟩, hquoted, ha, -⟩ := h
      obtain ⟨hquote, hvalue, -⟩ := quoted?_eq_some_iff.1 hquoted
      have hwritten : a.IsWritten name := ⟨hhead, ha ▸ hquote, ha ▸ hvalue⟩
      rw [happend, a.withValue_append, atBoundary_append hwritten.head_ne_nil] at hboundary
      exact ⟨hboundary, hwritten, happend⟩
    · cases h
  · rintro ⟨hboundary, hwritten, rfl⟩
    obtain ⟨gap, gap', hhead, hblank⟩ := hwritten.head
    -- what is read after the name, after the equals sign and after the value
    let tail := a.quote :: (a.value ++ a.quote :: rest)
    have hname : Text.dropPrefix? name (a.head ++ tail) = some (gap ++ '=' :: (gap' ++ tail)) := by
      rw [Marker.dropPrefix?_eq_some_iff, hhead]
      simp
    have hequals : equals? (gap ++ '=' :: (gap' ++ tail)) = some tail :=
      equals?_append hblank hwritten.quote.isBlank
    have hquoted : quoted? tail = some (a.quote, a.value, rest) :=
      quoted?_eq_some_iff.2 ⟨hwritten.quote, hwritten.value, rfl⟩
    have hread : assignment? name before (a.head ++ tail) =
        some (⟨(a.head ++ tail).take ((a.head ++ tail).length - tail.length), a.quote, a.value⟩,
          rest) := by
      rw [assignment?, if_pos (by rwa [atBoundary_append hwritten.head_ne_nil])]
      simp only [Option.bind_eq_bind, Option.bind_eq_some_iff]
      exact ⟨_, hname, _, hequals, _, hquoted, rfl⟩
    rw [a.withValue_append, hread, Marker.take_of_append]

/-! ## Lines with new values -/

/-- The first character of a text that is `q` or ends the line. -/
def stop? (q : Char) (s : Text) : Option Char := s.find? fun c => c = q || c = '\n'

/-- A quote is met on the first line just if what stands before it fits between such quotes. -/
theorem stop?_eq_some_iff :
    stop? q s = some q ↔ ∃ v rest, FitsBetween q v ∧ s = v ++ q :: rest := by
  rw [stop?, List.find?_eq_some_iff_append]
  constructor
  · rintro ⟨-, v, rest, rfl, hv⟩
    refine ⟨v, rest, ⟨fun hq => ?_, fun hn => ?_⟩, rfl⟩
    · simpa using hv q hq
    · simpa using hv '\n' hn
  · rintro ⟨v, rest, ⟨hclosed, hline⟩, rfl⟩
    refine ⟨by simp, v, rest, rfl, fun c hc => ?_⟩
    have hcq : c ≠ q := ne_of_mem_of_not_mem hc hclosed
    have hcn : c ≠ '\n' := ne_of_mem_of_not_mem hc hline
    simp [hcq, hcn]

/-- Whether `q` is met on the first line of `s`, unless `s` and `s'` stop at the same character. -/
def StopsAs (q : Char) (s s' : Text) : Prop := stop? q s = some q ∨ stop? q s = stop? q s'

theorem StopsAs.refl (q : Char) (s : Text) : StopsAs q s s := .inr rfl

theorem StopsAs.append {s' t t' : Text} (hs : StopsAs q s s') (ht : StopsAs q t t') :
    StopsAs q (s ++ t) (s' ++ t') := by
  simp only [StopsAs, stop?, List.find?_append] at *
  rcases hs with hs | hs
  · exact .inl (by rw [hs]; rfl)
  · cases hstop : List.find? (fun c => c = q || c = '\n') s with
    | some c => exact .inr (by rw [← hs, hstop]; rfl)
    | none =>
      rw [← hs, hstop]
      exact ht

theorem stop?_eq_none (h : FitsBetween q s) : stop? q s = none := by
  rw [stop?, List.find?_eq_none]
  intro c hc
  have hcq : c ≠ q := ne_of_mem_of_not_mem hc h.1
  have hcn : c ≠ '\n' := ne_of_mem_of_not_mem hc h.2
  simp [hcq, hcn]

/-- A value without quotes and newlines. -/
def IsPlain (value : Text) : Prop := ∀ c ∈ value, c ≠ '\n' ∧ ¬ IsQuote c

instance : DecidablePred IsPlain := fun value =>
  decidable_of_iff ((value.all fun c => c ≠ '\n' && !decide (IsQuote c)) = true) (by simp [IsPlain])

theorem IsPlain.fitsBetween (h : IsPlain value) (hq : IsQuote q) : FitsBetween q value :=
  ⟨fun hmem => (h q hmem).2 hq, fun hmem => (h _ hmem).1 rfl⟩

theorem fitsBetween_newValue (hvalue : FitsBetween q value) {old : Text}
    (hold : FitsBetween q old) : FitsBetween q (newValue value old) := by
  have hlast {c : Char} (hc : c ∉ old) : c ∉ Text.afterLast '/' old := by
    intro hmem
    exact hc (List.mem_reverse.1 (List.takeWhile_subset _ (List.mem_reverse.1 hmem)))
  unfold newValue
  split
  · exact ⟨List.not_mem_append hvalue.1 (hlast hold.1), List.not_mem_append hvalue.2 (hlast hold.2)⟩
  · exact hvalue

/-- A new value brings no quote to its line that the old one did not bring. -/
theorem stopsAs_newValue (hvalue : IsPlain value) (hq : IsQuote q) {old : Text}
    (hold : '\n' ∉ old) : StopsAs q old (newValue value old) := by
  by_cases hmem : q ∈ old
  · obtain ⟨v, rest, rfl, hv⟩ := List.eq_append_cons_of_mem hmem
    have hline : '\n' ∉ v := fun h => hold (List.mem_append_left _ h)
    exact .inl (stop?_eq_some_iff.2 ⟨v, rest, ⟨hv, hline⟩, rfl⟩)
  · have hnew : FitsBetween q (newValue value old) :=
      fitsBetween_newValue (hvalue.fitsBetween hq) ⟨hmem, hold⟩
    exact .inr ((stop?_eq_none ⟨hmem, hold⟩).trans (stop?_eq_none hnew).symm)

/-- Whether the attributes among some items are written with the name `name`. -/
def AllWritten (name : Text) (items : List Item) : Prop :=
  ∀ a, Item.assignment a ∈ items → a.IsWritten name

/-- The text behind the opening quote of an attribute stops no later with the new value. -/
theorem stopsAs_tail (hvalue : IsPlain value) (hq : IsQuote q) (ha : a.IsWritten name) {t t' : Text}
    (ht : StopsAs q t t') :
    StopsAs q (a.value ++ a.quote :: t) (newValue value a.value ++ a.quote :: t') :=
  (stopsAs_newValue hvalue hq ha.value.2).append ((StopsAs.refl q [a.quote]).append ht)

/-- **New values bring no quote** to a line that has not had it. -/
theorem stopsAs_texts (hvalue : IsPlain value) (hq : IsQuote q) {items : List Item}
    (hitems : AllWritten name items) :
    StopsAs q (texts items) (texts (items.map (.set value))) := by
  induction items with
  | nil => exact .refl q []
  | cons item items ih =>
    have htail := ih fun a ha => hitems a (List.mem_cons_of_mem _ ha)
    rw [List.map_cons, texts_cons, texts_cons]
    cases item with
    | char c => exact (StopsAs.refl q [c]).append htail
    | assignment a =>
      have hvalues := stopsAs_tail hvalue hq (hitems a List.mem_cons_self) htail
      show StopsAs q (a.withValue a.value ++ _) (a.withValue (newValue value a.value) ++ _)
      rw [a.withValue_append, a.withValue_append]
      exact (StopsAs.refl q a.head).append ((StopsAs.refl q [a.quote]).append hvalues)

/-! ## The same attributes are read again -/

theorem head_unquoted (hname : ∀ c ∈ name, ¬ IsQuote c) (ha : a.IsWritten name) :
    ∀ c ∈ a.head, ¬ IsQuote c := by
  obtain ⟨gap, gap', hhead, hblank⟩ := ha.head
  intro c hc hquote
  have hc : c ∈ name ∨ c ∈ gap ++ gap' ∨ c = '=' := by
    rw [hhead] at hc
    simp only [List.mem_append, List.mem_cons] at hc ⊢
    tauto
  rcases hc with hc | hc | rfl
  · exact hname c hc hquote
  · cases (hblank c hc).symm.trans hquote.isBlank
  · rcases hquote with h | h <;> cases h

/-- Two texts that are equal have their first quotes at the same place. -/
theorem first_quote_eq {x y u v : Text} {d : Char} (hx : ∀ c ∈ x, ¬ IsQuote c)
    (hy : ∀ c ∈ y, ¬ IsQuote c) (hq : IsQuote q) (hd : IsQuote d) (h : x ++ q :: u = y ++ d :: v) :
    x = y ∧ q = d ∧ u = v := by
  rcases List.append_eq_append_iff.1 h with ⟨z, rfl, hz⟩ | ⟨z, rfl, hz⟩
  · cases z with
    | nil => simpa using hz
    | cons c z =>
      cases hz
      exact absurd hq (hy q (by simp))
  · cases z with
    | nil => simpa [eq_comm] using hz
    | cons c z =>
      cases hz
      exact absurd hd (hx d (by simp))

/-- **What stands before a quote outside of values** has been there before. -/
theorem exists_open_quote_of_set (hname : ∀ c ∈ name, ¬ IsQuote c) (hvalue : IsPlain value)
    (hq : IsQuote q) {items : List Item} (hitems : AllWritten name items) {x u' : Text}
    (hx : ∀ c ∈ x, ¬ IsQuote c) (h : texts (items.map (.set value)) = x ++ q :: u') :
    ∃ u, texts items = x ++ q :: u ∧ StopsAs q u u' := by
  induction items generalizing x with
  | nil =>
    rw [List.map_nil, texts, List.flatMap_nil] at h
    simp at h
  | cons item items ih =>
    have htail : AllWritten name items := fun a ha => hitems a (List.mem_cons_of_mem _ ha)
    rw [List.map_cons, texts_cons] at h
    rw [texts_cons]
    cases item with
    | char c =>
      cases x with
      | nil =>
        cases h
        exact ⟨texts items, rfl, stopsAs_texts hvalue hq htail⟩
      | cons d x =>
        change c :: texts (items.map (.set value)) = d :: (x ++ q :: u') at h
        obtain ⟨rfl, hrest⟩ := List.cons.inj h
        obtain ⟨u, hu, hstops⟩ := ih htail (fun e he => hx e (List.mem_cons_of_mem _ he)) hrest
        exact ⟨u, congrArg (c :: ·) hu, hstops⟩
    | assignment a =>
      have ha : a.IsWritten name := hitems a List.mem_cons_self
      change a.withValue (newValue value a.value) ++ _ = _ at h
      rw [a.withValue_append] at h
      -- an attribute has no quote before its value, so the first one opens the value
      obtain ⟨rfl, rfl, rfl⟩ := first_quote_eq (head_unquoted hname ha) hx ha.quote hq h
      exact ⟨_, a.withValue_append _, stopsAs_tail hvalue hq ha (stopsAs_texts hvalue hq htail)⟩

theorem afterLast_append {sep : Char} {x y : Text} (hy : sep ∉ y) :
    Text.afterLast sep (x ++ [sep] ++ y) = y := by
  have hy : ∀ c ∈ y.reverse, (c != sep) = true := by
    intro c hc
    have hc : c ≠ sep := ne_of_mem_of_not_mem (List.mem_reverse.1 hc) hy
    simp [hc]
  rw [Text.afterLast, List.reverse_append, List.takeWhile_append_of_pos hy]
  simp

theorem newValue_newValue (value old : Text) :
    newValue value (newValue value old) = newValue value old := by
  have hlast : '/' ∉ Text.afterLast '/' old := by
    rw [Text.afterLast, List.mem_reverse]
    exact Marker.notMem_takeWhile (by simp) _
  unfold newValue
  split
  · next hfolder =>
    obtain ⟨folder, rfl⟩ := Marker.endsWith_eq_true_iff.1 hfolder
    rw [afterLast_append hlast]
  · rfl

theorem set_comp_set (value : Text) : Item.set value ∘ Item.set value = Item.set value := by
  funext item
  cases item with
  | char c => rfl
  | assignment a =>
    show Item.assignment { a with value := newValue value (newValue value a.value) } = _
    rw [newValue_newValue]
    rfl

theorem Assignment.IsWritten.set (hvalue : IsPlain value) (ha : a.IsWritten name) :
    Assignment.IsWritten name { a with value := newValue value a.value } :=
  ⟨ha.head, ha.quote, fitsBetween_newValue (hvalue.fitsBetween ha.quote) ha.value⟩

namespace IsReading

variable {items : List Item}

theorem allWritten (h : IsReading name before items) : AllWritten name items := by
  induction items generalizing before with
  | nil => nofun
  | cons item items ih =>
    intro a ha
    cases item with
    | char c =>
      rcases List.mem_cons.1 ha with ha | ha
      · cases ha
      · exact ih h.2 a ha
    | assignment b =>
      rcases List.mem_cons.1 ha with ha | ha
      · cases ha
        exact (assignment?_eq_some_iff.1 h.1).2.1
      · exact ih h.2 a ha

/-- **With new values the same items are read.** -/
theorem set (hname : ∀ c ∈ name, ¬ IsQuote c) (hvalue : IsPlain value)
    (h : IsReading name before items) : IsReading name before (items.map (.set value)) := by
  induction items generalizing before with
  | nil => trivial
  | cons item items ih =>
    have hwritten : AllWritten name (item :: items) := h.allWritten
    cases item with
    | char c =>
      refine ⟨?_, ih h.2⟩
      -- an attribute that is read here now has its open quote here before, and a quote behind it
      rw [Option.eq_none_iff_forall_ne_some]
      rintro ⟨a, rest⟩ hread
      obtain ⟨hboundary, ha, hnew⟩ := assignment?_eq_some_iff.1 hread
      rw [a.withValue_append] at hnew
      obtain ⟨u, hold, hstops⟩ := exists_open_quote_of_set hname hvalue ha.quote hwritten
        (head_unquoted hname ha) hnew
      have hstop : stop? a.quote (a.value ++ a.quote :: rest) = some a.quote :=
        stop?_eq_some_iff.2 ⟨a.value, rest, ha.value, rfl⟩
      have hclosed : stop? a.quote u = some a.quote := hstops.elim id fun heq => heq.trans hstop
      obtain ⟨v, rest', hv, rfl⟩ := stop?_eq_some_iff.1 hclosed
      have hbefore : assignment? name before (c :: texts items) =
          some ({ a with value := v }, rest') :=
        assignment?_eq_some_iff.2 ⟨hboundary, ⟨ha.head, ha.quote, hv⟩, by
          rw [Assignment.withValue_append]
          exact hold⟩
      cases h.1.symm.trans hbefore
    | assignment a =>
      obtain ⟨hboundary, ha, -⟩ := assignment?_eq_some_iff.1 h.1
      exact ⟨assignment?_eq_some_iff.2 ⟨hboundary, ha.set hvalue, rfl⟩, ih h.2⟩

end IsReading

theorem not_isQuote_of_isNameChar {c : Char} (h : Marker.isNameChar c = true) : ¬ IsQuote c := by
  rintro (rfl | rfl) <;> exact absurd h (by decide)

end Attribute

namespace OpenQuote

open Attribute

/-- Two lines, read for `src`. The first quote is not closed on its line, although the other lines
hold quotes of its kind. -/
def openQuoteItems : List Item :=
  "<i src=' ".toList.map .char ++ .assignment ⟨"src =".toList, '"', "a/b.png".toList⟩ ::
    ">\n<i ".toList.map .char ++ .assignment ⟨"src=".toList, '\'', "c src=\"d\"".toList⟩ ::
      [.char '>']

theorem isReading_openQuoteItems : IsReading "src".toList none openQuoteItems := by decide

end OpenQuote

namespace Attribute

open Item (texts)

variable {name value : Text}

/-- **Setting an attribute is idempotent and local.** A text falls into characters and attributes of
the name. Setting the attribute to a value without quotes and newlines changes the values of these
attributes and nothing else; what it gives is read as the same items with their new values, and
setting the attribute once more does not change it. -/
theorem setAll_setAll_of_plain (hname : ∀ c ∈ name, Marker.isNameChar c = true)
    (hvalue : IsPlain value) (s : Text) :
    setAll name value (setAll name value s) = setAll name value s ∧
      ∃ items, texts items = s ∧ setAll name value s = texts (items.map (.set value)) ∧
        IsReading name none items ∧ IsReading name none (items.map (.set value)) ∧
        AllWritten name items := by
  have hunquoted : ∀ c ∈ name, ¬ IsQuote c := fun c hc => not_isQuote_of_isNameChar (hname c hc)
  obtain ⟨items, rfl, hitems⟩ := exists_isReading name none s
  have hset : setAll name value (texts items) = texts (items.map (.set value)) :=
    hitems.setFrom_texts value
  have hagain : IsReading name none (items.map (.set value)) := hitems.set hunquoted hvalue
  refine ⟨?_, items, rfl, hset, hitems, hagain, hitems.allWritten⟩
  calc setAll name value (setAll name value (texts items))
      = setAll name value (texts (items.map (.set value))) := congrArg _ hset
    _ = texts ((items.map (.set value)).map (.set value)) := hagain.setFrom_texts value
    _ = texts (items.map (.set value)) := by simp [set_comp_set]
    _ = setAll name value (texts items) := hset.symm

/-- A text with an open quote, and with a value that holds quotes and looks like the attribute. -/
theorem setAll_setAll_of_plain_of_open_quote :
    (∀ c ∈ "src".toList, Marker.isNameChar c = true) ∧ IsPlain "img/".toList ∧
      setAll "src".toList "img/".toList
          "<i src=' src =\"a/b.png\">\n<i src='c src=\"d\"'>".toList =
        "<i src=' src =\"img/b.png\">\n<i src='img/c src=\"d\"'>".toList ∧
      setAll "src".toList "img/".toList
          "<i src=' src =\"img/b.png\">\n<i src='img/c src=\"d\"'>".toList =
        "<i src=' src =\"img/b.png\">\n<i src='img/c src=\"d\"'>".toList := by
  have hname : Marker.IsName "src".toList := by decide
  have hvalue : IsPlain "img/".toList := by decide
  have hset : setAll "src".toList "img/".toList (texts OpenQuote.openQuoteItems) =
      texts (OpenQuote.openQuoteItems.map (.set "img/".toList)) :=
    OpenQuote.isReading_openQuoteItems.setFrom_texts _
  have hagain := (setAll_setAll_of_plain hname.2 hvalue (texts OpenQuote.openQuoteItems)).1
  rw [hset] at hagain
  exact ⟨hname.2, hvalue, hset, hagain⟩

end Attribute
end BuildBlocks
