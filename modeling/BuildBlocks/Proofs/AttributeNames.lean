import BuildBlocks.Proofs.Concatenation
import BuildBlocks.Proofs.MarkerFields

/-!
# Names of attributes that are set

An attribute block gives a new value to attributes of its body. It asks for a word boundary before
the name, and a dash is no character of a word. So for a name that starts with a word character it
sets the attributes of this name, and those whose name ends with a dash and this name: a block for
`src` also sets `data-src` (`Page.exists_longer_name_set`). For a name that starts with a dash it
sets attributes that have a word character before this name, and never one of the name itself.
Everything else in the body stays as it is (`Page.perform_setAttribute`).

## The architecture

* **`IsReading`**: a text as characters and the attributes that are set, from left to right. Every
  text can be read so (`exists_isReading`), and setting the attribute gives the items new values
  (`IsReading.setFrom_texts`).
* **`IsReading.assignment?_of_append`**: every attribute among them is read where it stands, so it
  stands at a word boundary (`atBoundary_of_assignment?`).
* **`lastName_of_boundary`**: what the boundary says about the longest name that ends there.
-/

namespace BuildBlocks
namespace Attribute

variable {name s rest : Text} {before : Option Char} {a : Assignment}

/-! ## Attributes of a text -/

/-- A part of a text: a character, or an attribute whose value is replaced. -/
inductive Item where
  | char (c : Char)
  | assignment (a : Assignment)
  deriving DecidableEq, Repr

namespace Item

/-- A part as it is written. -/
def text : Item → Text
  | char c => [c]
  | assignment a => a.withValue a.value

/-- A part with a new value for the attribute. -/
def set (value : Text) : Item → Item
  | char c => char c
  | assignment a => assignment { a with value := newValue value a.value }

/-- Parts as they are written one after another. -/
def texts (items : List Item) : Text := items.flatMap text

theorem texts_cons (item : Item) (items : List Item) :
    texts (item :: items) = item.text ++ texts items := List.flatMap_cons

end Item

open Item (texts texts_cons)

/-- Whether a text behind the character `before` is read as these items: where a character is taken
no attribute `name` can be read, and where an attribute is taken it is read. -/
def IsReading (name : Text) : Option Char → List Item → Prop
  | _, [] => True
  | before, .char c :: items =>
    assignment? name before (c :: texts items) = none ∧ IsReading name (some c) items
  | before, .assignment a :: items =>
    assignment? name before (a.withValue a.value ++ texts items) = some (a, texts items) ∧
      IsReading name (some a.quote) items

/-- Every text is read as some items. -/
theorem exists_isReading (name : Text) (before : Option Char) (s : Text) :
    ∃ items, texts items = s ∧ IsReading name before items := by
  fun_induction setFrom name [] before s with
  | case1 before => exact ⟨[], rfl, trivial⟩
  | case2 before c s a rest ha ih =>
    obtain ⟨items, rfl, h⟩ := ih
    have happend : c :: s = a.withValue a.value ++ texts items := append_of_assignment? ha
    refine ⟨.assignment a :: items, happend.symm, ?_, h⟩
    rw [← happend]
    exact ha
  | case3 before c s hnone ih =>
    obtain ⟨items, rfl, h⟩ := ih
    exact ⟨.char c :: items, rfl, hnone, h⟩

namespace IsReading

variable {items : List Item}

/-- **Setting an attribute** gives the items new values and leaves the characters as they are. -/
theorem setFrom_texts (h : IsReading name before items) (value : Text) :
    setFrom name value before (texts items) = texts (items.map (.set value)) := by
  induction items generalizing before with
  | nil => rw [texts, List.flatMap_nil, setFrom]; rfl
  | cons item items ih =>
    rw [List.map_cons, texts_cons, texts_cons]
    cases item with
    | char c =>
      obtain ⟨hnone, h⟩ := h
      show setFrom name value before (c :: texts items) = c :: _
      rw [setFrom, ← ih h]
      split
      · next hsome =>
        rw [hnone] at hsome
        cases hsome
      · rfl
    | assignment a =>
      obtain ⟨ha, h⟩ := h
      -- the written attribute is not empty, so the pass stands at its first character
      obtain ⟨c, s, hs⟩ : ∃ c s, a.withValue a.value ++ texts items = c :: s := by
        refine List.exists_cons_of_ne_nil fun hnil => ?_
        simp [Assignment.withValue] at hnil
      show setFrom name value before (a.withValue a.value ++ texts items) = _
      rw [hs] at ha ⊢
      rw [setFrom, ← ih h]
      split
      · next hsome =>
        rw [ha] at hsome
        cases hsome
        rfl
      · next hnone =>
        rw [ha] at hnone
        cases hnone

/-- An attribute among the items is read where it stands. -/
theorem assignment?_of_append {left right : List Item}
    (h : IsReading name before (left ++ .assignment a :: right)) :
    assignment? name ((texts left).getLast?.or before) (a.withValue a.value ++ texts right) =
      some (a, texts right) := by
  induction left generalizing before with
  | nil => exact h.1
  | cons item left ih =>
    have hbefore {c : Char} (hc : item.text.getLast? = some c) :
        (texts (item :: left)).getLast?.or before = (texts left).getLast?.or (some c) := by
      rw [texts_cons, List.getLast?_append, Option.or_assoc, hc]
      rfl
    cases item with
    | char c =>
      rw [hbefore rfl]
      exact ih h.2
    | assignment a' =>
      have hquote : (a'.withValue a'.value).getLast? = some a'.quote := by
        rw [Assignment.withValue, List.getLast?_concat]
      rw [hbefore hquote]
      exact ih h.2

instance decidable (name : Text) : ∀ (before : Option Char) (items : List Item),
    Decidable (IsReading name before items)
  | _, [] => .isTrue trivial
  | _, .char c :: items =>
    have := decidable name (some c) items
    inferInstanceAs (Decidable (_ ∧ _))
  | _, .assignment a :: items =>
    have := decidable name (some a.quote) items
    inferInstanceAs (Decidable (_ ∧ _))

end IsReading

/-! ## Names -/

/-- An attribute that is set is its name, an equals sign and a value in quotes, with blanks between
them. -/
theorem exists_head_of_assignment? (h : assignment? name before s = some (a, rest)) :
    ∃ gap gap', a.head = name ++ gap ++ '=' :: gap' ∧
      ∀ c ∈ gap ++ gap', Text.isBlank c = true := by
  unfold assignment? at h
  split at h
  · simp only [Option.bind_eq_bind, Option.bind_eq_some_iff, Option.some.injEq,
      Prod.mk.injEq] at h
    obtain ⟨s₁, h₁, s₂, h₂, ⟨q, v, r⟩, -, rfl, -⟩ := h
    obtain ⟨t, ht, rfl⟩ := Option.map_eq_some_iff.1 h₂
    -- the two gaps are the blanks before and behind the equals sign
    have hs₁ : s₁ = s₁.takeWhile Text.isBlank ++ '=' :: t := by
      have hequals := Marker.dropPrefix?_eq_some_iff.1 ht
      conv => lhs; rw [← List.takeWhile_append_dropWhile (p := Text.isBlank) (l := s₁)]
      exact congrArg _ hequals
    have hs : s = name ++ s₁.takeWhile Text.isBlank ++ '=' :: t.takeWhile Text.isBlank ++
        Text.trimStart t := by
      calc s = name ++ s₁ := Marker.dropPrefix?_eq_some_iff.1 h₁
        _ = name ++ (s₁.takeWhile Text.isBlank ++ '=' :: t) := congrArg (name ++ ·) hs₁
        _ = name ++ (s₁.takeWhile Text.isBlank ++
              '=' :: (t.takeWhile Text.isBlank ++ Text.trimStart t)) := by
          rw [Text.trimStart, List.takeWhile_append_dropWhile]
        _ = _ := by simp
    refine ⟨s₁.takeWhile Text.isBlank, t.takeWhile Text.isBlank, ?_, fun c hc => ?_⟩
    · rw [hs]
      exact Marker.take_of_append _ _
    · rcases List.mem_append.1 hc with hc | hc <;> exact List.mem_takeWhile_imp hc
  · cases h

theorem atBoundary_of_assignment? (hne : name ≠ [])
    (h : assignment? name before s = some (a, rest)) : atBoundary before name = true := by
  unfold assignment? at h
  split at h
  · next hboundary =>
    simp only [Option.bind_eq_bind, Option.bind_eq_some_iff] at h
    obtain ⟨s₁, h₁, -⟩ := h
    have hhead : s.head? = name.head? := by
      rw [Marker.dropPrefix?_eq_some_iff.1 h₁, List.head?_append_of_ne_nil _ hne]
    rw [atBoundary, ← hhead]
    exact hboundary
  · cases h

/-- The longest name that `t` ends with. -/
def lastName (t : Text) : Text := (t.reverse.takeWhile Marker.isNameChar).reverse

theorem lastName_append (t : Text) (hname : ∀ c ∈ name, Marker.isNameChar c = true) :
    lastName (t ++ name) = lastName t ++ name := by
  have hreverse : ∀ c ∈ name.reverse, Marker.isNameChar c = true := by
    intro c hc
    exact hname c (List.mem_reverse.1 hc)
  rw [lastName, List.reverse_append, List.takeWhile_append_of_pos hreverse, List.reverse_append,
    List.reverse_reverse]
  rfl

theorem lastName_concat (t : Text) (c : Char) :
    lastName (t ++ [c]) = if Marker.isNameChar c then lastName t ++ [c] else [] := by
  rw [lastName, List.reverse_concat, List.takeWhile_cons]
  split
  · rw [List.reverse_cons]
    rfl
  · rfl

theorem lastName_of_word {t : Text} (h : t.getLast?.any Text.isWord = true) :
    ∃ c, Text.isWord c = true ∧ [c] <:+ lastName t := by
  obtain rfl | ⟨t, c, rfl⟩ := List.eq_nil_or_concat t
  · cases h
  · rw [List.concat_eq_append] at h ⊢
    have hc : Text.isWord c = true := by simpa using h
    have hname : Marker.isNameChar c = true := by simp [Marker.isNameChar, hc]
    rw [lastName_concat, if_pos hname]
    exact ⟨c, hc, List.suffix_append _ _⟩

theorem lastName_of_not_word {t : Text} (h : t.getLast?.any Text.isWord = false) :
    lastName t = [] ∨ ['-'] <:+ lastName t := by
  obtain rfl | ⟨t, c, rfl⟩ := List.eq_nil_or_concat t
  · exact .inl rfl
  · rw [List.concat_eq_append] at h ⊢
    have hc : Text.isWord c = false := by simpa using h
    rw [lastName_concat]
    split
    · next hname =>
      have hdash : c = '-' := by simpa [Marker.isNameChar, hc] using hname
      rw [hdash]
      exact .inr (List.suffix_append _ _)
    · exact .inl rfl

/-- **At a word boundary** a name that starts with a word character stands alone or behind a dash,
and one that starts with a dash stands behind a word character. -/
theorem lastName_of_boundary (hname : Marker.IsName name) {t : Text}
    (h : atBoundary t.getLast? name = true) :
    (name.head? ≠ some '-' → lastName (t ++ name) = name ∨ '-' :: name <:+ lastName (t ++ name)) ∧
      (name.head? = some '-' →
        ∃ c, Text.isWord c = true ∧ c :: name <:+ lastName (t ++ name)) := by
  have happend : lastName (t ++ name) = lastName t ++ name := lastName_append t hname.2
  have hbehind {c : Char} (hc : [c] <:+ lastName t) : c :: name <:+ lastName (t ++ name) := by
    obtain ⟨p, hp⟩ := hc
    rw [happend, ← hp, List.append_assoc]
    exact List.suffix_append p (c :: name)
  -- a boundary is where a word character meets one that is none: here `d` and the end of `t`
  obtain ⟨d, rest, rfl⟩ := List.exists_cons_of_ne_nil hname.1
  have hd : Text.isWord d = true ∨ d = '-' := by
    simpa [Marker.isNameChar] using hname.2 d List.mem_cons_self
  have hdiffers : t.getLast?.any Text.isWord ≠ Text.isWord d := by simpa [atBoundary] using h
  refine ⟨fun hhead => ?_, fun hhead => ?_⟩
  · have hword : Text.isWord d = true := hd.resolve_right fun heq => hhead (congrArg some heq)
    rw [hword] at hdiffers
    rcases lastName_of_not_word (Bool.eq_false_iff.2 hdiffers) with hnil | hdash
    · left
      rw [happend, hnil, List.nil_append]
    · exact .inr (hbehind hdash)
  · have hword : Text.isWord d = false := by
      rw [Option.some.inj hhead]
      decide
    rw [hword] at hdiffers
    obtain ⟨c, hc, hsuffix⟩ := lastName_of_word (Bool.eq_true_of_not_eq_false hdiffers)
    exact ⟨c, hc, hbehind hsuffix⟩

end Attribute

/-! ## What an attribute block does to its body -/

namespace Page

open Attribute Attribute.Item

theorem result_handle_setAttribute (w : Workspace) (ctx : Context) (d : Directive) :
    (handle w ctx d .setAttribute).result =
      (Visit.expand w ⟨ctx, d.bodyOffset, d.body⟩).result.map
        (setAll (nameOf d.kind) d.params) := by
  rw [handle, Outcome.result_bind]
  show (Outcome.result (Visit.expand w ⟨ctx, d.bodyOffset, d.body⟩ >>= _)) = _
  rw [Outcome.result_bind]
  rfl

/-- **An attribute block** changes the values of attributes in its body, once that is worked
through, and nothing else. Each of them is an attribute of the name, or of a longer one that ends
with it behind a dash; if the name starts with a dash itself, it stands behind a word character. -/
theorem perform_setAttribute {w : Workspace} {ctx : Context} {d : Directive} {b : BlockType}
    {name out : Text} (hfind : ctx.registry.find? d.kind = some b)
    (hhandler : b.handler = .setAttribute) (hkind : d.kind = '[' :: name ++ [']'])
    (hname : Marker.IsName name) (h : (perform w (Visit.expand w) ctx d true).result = .ok out) :
    ∃ items, (Visit.expand w ⟨ctx, d.bodyOffset, d.body⟩).result = .ok (texts items) ∧
      IsReading name none items ∧ out = texts (items.map (.set d.params)) ∧
      ∀ left a right, items = left ++ .assignment a :: right →
        ∃ gap gap', a.head = name ++ gap ++ '=' :: gap' ∧
          (∀ c ∈ gap ++ gap', Text.isBlank c = true) ∧
          (name.head? ≠ some '-' → lastName (texts left ++ name) = name ∨
            '-' :: name <:+ lastName (texts left ++ name)) ∧
          (name.head? = some '-' →
            ∃ c, Text.isWord c = true ∧ c :: name <:+ lastName (texts left ++ name)) := by
  have hnameOf : nameOf d.kind = name := by
    rw [hkind, nameOf]
    simp
  have hset : (Visit.expand w ⟨ctx, d.bodyOffset, d.body⟩).result.map (setAll name d.params) =
      .ok out := by
    rw [← h, result_perform_of_active hfind, hhandler, result_handle_setAttribute, hnameOf]
  obtain ⟨body, hbody, rfl⟩ := exists_of_map_eq_ok hset
  obtain ⟨items, rfl, hitems⟩ := exists_isReading name none body
  refine ⟨items, hbody, hitems, hitems.setFrom_texts d.params, ?_⟩
  rintro left a right rfl
  have hread := hitems.assignment?_of_append
  rw [Option.or_none] at hread
  obtain ⟨gap, gap', hhead, hblank⟩ := exists_head_of_assignment? hread
  exact ⟨gap, gap', hhead, hblank,
    lastName_of_boundary hname (atBoundary_of_assignment? hname.1 hread)⟩

end Page

namespace DashedName

open IncludingPage

open Attribute

/-- A block that sets `src` in a body with an attribute of this name and one of a longer name. -/
def sourceBlock : Directive where
  kind := "[src]".toList
  targets := []
  params := "img/".toList
  bodyLines := ["<img src='x/a.png' data-src='y/b.png'>".toList]
  startLine := 1
  endLine := 1
  openMarker := "<!--m:[src] img/-->".toList
  closeMarker := closing

/-- The body of the block, read for `src`. -/
def sourceItems : List Item :=
  "<img ".toList.map .char ++ .assignment ⟨"src=".toList, '\'', "x/a.png".toList⟩ ::
    " data-".toList.map .char ++ .assignment ⟨"src=".toList, '\'', "y/b.png".toList⟩ :: [.char '>']

theorem isReading_sourceItems : IsReading "src".toList none sourceItems := by decide

theorem perform_sourceBlock :
    (Page.perform (workspace 1 []) (Visit.expand (workspace 1 [])) context sourceBlock true).result =
      .ok "<img src='img/a.png' data-src='img/b.png'>".toList := by
  have hfind : context.registry.find? sourceBlock.kind = some .attributeValue := by rfl
  have hbody : (Visit.expand (workspace 1 []) ⟨context, sourceBlock.bodyOffset,
      sourceBlock.body⟩).result = .ok sourceBlock.body :=
    Page.result_expand_of_uncommented (by decide)
  have hset : setAll "src".toList "img/".toList sourceBlock.body =
      Item.texts (sourceItems.map (.set "img/".toList)) := isReading_sourceItems.setFrom_texts _
  rw [Page.result_perform_of_active hfind]
  show (Page.handle _ _ _ .setAttribute).result = _
  rw [Page.result_handle_setAttribute, hbody]
  show Except.ok (setAll "src".toList "img/".toList sourceBlock.body) = _
  rw [hset]
  rfl

end DashedName

namespace Page

open Attribute Attribute.Item IncludingPage DashedName

/-- A block that sets an attribute and one of a longer name. -/
theorem perform_setAttribute_of_source :
    ∃ items, context.registry.find? sourceBlock.kind = some .attributeValue ∧
      sourceBlock.kind = '[' :: "src".toList ++ [']'] ∧ Marker.IsName "src".toList ∧
      (Visit.expand (workspace 1 []) ⟨context, sourceBlock.bodyOffset, sourceBlock.body⟩).result =
        .ok (texts items) ∧
      IsReading "src".toList none items ∧
      "<img src='img/a.png' data-src='img/b.png'>".toList =
        texts (items.map (.set "img/".toList)) := by
  have hfind : context.registry.find? sourceBlock.kind = some .attributeValue := by rfl
  have hname : Marker.IsName "src".toList := by decide
  obtain ⟨items, hbody, hreading, hout, -⟩ :=
    perform_setAttribute hfind rfl rfl hname perform_sourceBlock
  exact ⟨items, hfind, rfl, hname, hbody, hreading, hout⟩

/-- **A block for `src` also sets `data-src`.** -/
theorem exists_longer_name_set :
    (perform (workspace 1 []) (Visit.expand (workspace 1 [])) context sourceBlock true).result =
      .ok "<img src='img/a.png' data-src='img/b.png'>".toList ∧
    ∃ left a right, texts (left ++ .assignment a :: right) = sourceBlock.body ∧
      IsReading "src".toList none (left ++ .assignment a :: right) ∧
      texts ((left ++ .assignment a :: right).map (.set sourceBlock.params)) =
        "<img src='img/a.png' data-src='img/b.png'>".toList ∧
      lastName (texts left ++ "src".toList) = "data-src".toList :=
  ⟨perform_sourceBlock, _, ⟨"src=".toList, '\'', "y/b.png".toList⟩, [.char '>'], rfl,
    isReading_sourceItems, rfl, rfl⟩

end Page
end BuildBlocks
