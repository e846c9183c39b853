import BuildBlocks.Proofs.LineOffset
import BuildBlocks.Proofs.Seam
import Mathlib.Data.List.Infix

/-!
# Pages put together

Two texts with a line that starts with a tag between them are worked through one by one: the whole
becomes what they become, with the line between them as it stands (`Page.result_expand_append`).

Nothing of the first text has an effect behind the line. No marker reaches across it, all blocks of
the first text are closed, so that a closing marker behind it closes nothing of it, and the tag ends
its last switch.

## The architecture

* **`build_append_of_ok`**: lexemes that are read into elements by themselves are read so before
  others.
* **`flags_append`**, **`flags_of_closed`**: decisions are made one after the other, and after a
  switch is closed as at the start of a page.
* **`renderSiblings_append_tag`**: the elements of both texts are rendered one by one.
-/

namespace BuildBlocks
namespace Element

/-! ## Elements -/

theorem build_chars (t : Text) (line : Int) (done : List Element) (rest : List Lexeme) :
    build line [] done (t.map .char ++ rest) =
      build (line + Text.newlines t) [] ((t.map .char).reverse ++ done) rest := by
  induction t generalizing line done with
  | nil => simp [Text.newlines]
  | cons c t ih =>
    have hline : line + Text.newlines (c :: t) = line + Text.newlines [c] + Text.newlines t := by
      have hc := Text.newlines_append [c] t
      rw [List.singleton_append] at hc
      omega
    rw [List.map_cons, List.cons_append, build, ih, hline]
    simp

/-- Lexemes are read into the same elements whatever stands around them, unless a block among them
is not closed. -/
theorem exists_build_append_or_error (ls : List Lexeme) (line : Int) :
    (∃ es : List Element, ∀ done rest, build line [] done (ls ++ rest) =
      build (line + Text.newlines (Lexeme.texts ls)) [] (es.reverse ++ done) rest) ∨
      ∃ e, ∀ done, build line [] done ls = .error e := by
  -- the induction follows the pairing of markers
  fun_induction Piece.ofLexemes ls generalizing line with
  | case1 => exact .inl ⟨[], fun done rest => by simp [Lexeme.texts, Text.newlines]⟩
  | case2 c ls ih =>
    rcases ih (line + Text.newlines [c]) with ⟨es, hes⟩ | ⟨e, he⟩
    · refine .inl ⟨.char c :: es, fun done rest => ?_⟩
      rw [List.cons_append, build, hes, Lexeme.line_texts_cons, List.reverse_cons,
        List.append_assoc]
      rfl
    · exact .inr ⟨e, fun done => he _⟩
  | case3 u ls ih =>
    rcases ih (line + Text.newlines u) with ⟨es, hes⟩ | ⟨e, he⟩
    · refine .inl ⟨.stray u :: es, fun done rest => ?_⟩
      rw [List.cons_append, build, hes, Lexeme.line_texts_cons, List.reverse_cons,
        List.append_assoc]
      rfl
    · exact .inr ⟨e, fun done => he _⟩
  | case4 o ls hm =>
    exact .inr ⟨(o, line), fun done => build_of_matching_eq_none hm _ [] ⟨o, line, done⟩ [] rfl⟩
  | case5 o ls body t after hm ih =>
    obtain ⟨front, hls, hfront⟩ : ∃ front, .opening o :: ls = front ++ after ∧
        Lexeme.Balanced front := by
      refine ⟨_, ?_, .block o t (Lexeme.balanced_of_matching hm) .nil⟩
      rw [Piece.eq_of_matching hm]
      simp
    obtain ⟨es, -, hes⟩ := build_of_balanced hfront line
    rw [hls]
    rcases ih (line + Text.newlines (Lexeme.texts front)) with ⟨es', hes'⟩ | ⟨e, he⟩
    · refine .inl ⟨es ++ es', fun done rest => ?_⟩
      rw [List.append_assoc, hes, hes', Span.texts_append, Text.newlines_append, Int.natCast_add,
        Int.add_assoc, List.reverse_append, List.append_assoc]
    · exact .inr ⟨e, fun done => by rw [hes, he]⟩

/-- **Lexemes that are read into elements by themselves** are read into these before others, too. -/
theorem build_append_of_ok {ls : List Lexeme} {es : List Element} {line : Int}
    (h : build line [] [] ls = .ok es) (done : List Element) (rest : List Lexeme) :
    build line [] done (ls ++ rest) =
      build (line + Text.newlines (Lexeme.texts ls)) [] (es.reverse ++ done) rest := by
  rcases exists_build_append_or_error ls line with ⟨es', hes'⟩ | ⟨e, he⟩
  · have halone := hes' [] []
    rw [List.append_nil, h] at halone
    simp only [build, List.getLast?_nil, List.append_nil, List.reverse_reverse, Except.ok.injEq]
      at halone
    rw [hes', halone]
  · rw [he] at h
    cases h

/-- The elements of two texts with a tag between them. -/
theorem ofPage_append_tag {word a b t : Text} {k : Int} {as bs : List Element}
    (hword : ∀ c ∈ word, Text.isBlank c = false) (hhead : word.head? ≠ some '<') (hne : t ≠ [])
    (htag : '<' ∉ t) (hcomment : t.head? ≠ some '!') (ha : ofPage word k a = .ok as)
    (hb : ofPage word (k + Text.newlines (a ++ '\n' :: '<' :: t)) b = .ok bs) :
    ofPage word k (a ++ '\n' :: '<' :: t ++ b) =
      .ok (as ++ ('\n' :: '<' :: t).map .char ++ bs) := by
  have hlex : Lexeme.lex word (a ++ '\n' :: '<' :: t ++ b) =
      Lexeme.lex word a ++ (('\n' :: '<' :: t).map .char ++ Lexeme.lex word b) := by
    rw [List.append_assoc, List.cons_append, List.cons_append,
      Lexeme.lex_append_seam hword hhead a, ← Lexeme.lex_tag hne htag hcomment]
    rfl
  have hline : k + 1 + Text.newlines a + Text.newlines ('\n' :: '<' :: t) =
      k + Text.newlines (a ++ '\n' :: '<' :: t) + 1 := by
    rw [Text.newlines_append]
    omega
  have hrest := build_append_of_ok hb ((('\n' :: '<' :: t).map .char).reverse ++ (as.reverse ++ []))
    []
  rw [ofPage] at ha ⊢
  rw [hlex, build_append_of_ok ha, Lexeme.texts_lex, build_chars, hline,
    ← List.append_nil (Lexeme.lex word b), hrest, build]
  simp

/-! ## Decisions -/

section

variable (r : Registry) (environment : Option Text)

/-- The switch after an element. -/
def switchPast (s : Activation.Switch) : Element → Activation.Switch
  | .char c => s.past [c]
  | .stray t => s.past t
  | .block o line children t =>
    (Activation.decide r environment s (directive r.isGated o line children t)).2

/-- Elements are judged one after the other. -/
theorem flags_append (s : Activation.Switch) (xs ys : List Element) :
    flags r environment s (xs ++ ys) = flags r environment s xs ++
      flags r environment (xs.foldl (switchPast r environment) s) ys := by
  induction xs generalizing s with
  | nil => rfl
  | cons e xs ih =>
    rw [List.cons_append, List.foldl_cons]
    cases e <;> rw [flags, ih] <;> rfl

theorem length_flags (s : Activation.Switch) (es : List Element) :
    (flags r environment s es).length = es.length := by
  induction es generalizing s with
  | nil => rfl
  | cons e es ih => cases e <;> rw [flags, List.length_cons, List.length_cons, ih]

theorem foldl_switchPast_chars (s : Activation.Switch) (t : Text) :
    (t.map .char).foldl (switchPast r environment) s = s.past t := by
  induction t generalizing s with
  | nil => rfl
  | cons c t ih =>
    rw [List.map_cons, List.foldl_cons, ih, switchPast, Activation.Switch.past_append,
      List.singleton_append]

/-- After a switch is closed, decisions are the same whatever the switch was. -/
theorem flags_of_closed {s s' : Activation.Switch} (hs : s.targets = []) (hs' : s'.targets = [])
    (es : List Element) : flags r environment s es = flags r environment s' es := by
  have hpast {s : Activation.Switch} (hs : s.targets = []) (t : Text) : (s.past t).targets = [] := by
    unfold Activation.Switch.past
    split
    · exact hs
    · rfl
  induction es generalizing s s' with
  | nil => rfl
  | cons e es ih =>
    cases e with
    | char c => exact congrArg (false :: ·) (ih (hpast hs _) (hpast hs' _))
    | stray t => exact congrArg (false :: ·) (ih (hpast hs _) (hpast hs' _))
    | block o line children t =>
      simp only [flags, Activation.decide]
      cases r.find? (directive r.isGated o line children t).kind with
      | none => exact congrArg (false :: ·) (ih hs hs')
      | some b =>
        by_cases hgated : b.gated = true
        · -- the block starts a new switch
          simp only [Activation.Switch.next, hgated, if_true, Activation.Switch.joined, hs, hs',
            List.isEmpty_nil, Bool.true_or]
        · simp only [Activation.Switch.next, hgated]
          exact congrArg (_ :: ·) (ih rfl rfl)

end

/-! ## Rendering -/

section

variable {w : Workspace} {ctx : Context} {enter : Enter w ctx}

theorem unknown?_append (xs ys : List Element) :
    unknown? ctx (xs ++ ys) = (unknown? ctx xs).or (unknown? ctx ys) := by
  induction xs with
  | nil => rfl
  | cons e xs ih =>
    cases e with
    | char c => exact ih
    | stray t => exact ih
    | block o line children t =>
      rw [List.cons_append, unknown?, unknown?]
      split
      · exact ih
      · rfl

theorem unknown?_chars (t : Text) : unknown? ctx (t.map .char) = none := by
  induction t with
  | nil => rfl
  | cons c t ih => exact ih

theorem renderAll_append {fs : List Bool} {xs : List Element} (h : fs.length = xs.length)
    (gs : List Bool) (ys : List Element) :
    renderAll w ctx enter (fs ++ gs) (xs ++ ys) =
      (renderAll w ctx enter fs xs).bind fun x =>
        (renderAll w ctx enter gs ys).map (x ++ ·) := by
  induction xs generalizing fs with
  | nil =>
    rw [List.length_eq_zero_iff.1 h]
    exact (congrFun Except.map_id _).symm
  | cons e xs ih =>
    cases fs with
    | nil => cases h
    | cons f fs =>
      rw [List.cons_append, List.cons_append, renderAll_cons, renderAll_cons]
      simp only [List.headD_cons, List.tail_cons]
      rw [ih (Nat.succ.inj h)]
      -- both sides fail with the first element that does
      cases render w ctx enter f e with
      | error e => rfl
      | ok x =>
        cases renderAll w ctx enter fs xs with
        | error e => rfl
        | ok xs' =>
          cases renderAll w ctx enter gs ys with
          | error e => rfl
          | ok ys' => exact congrArg Except.ok (List.append_assoc x xs' ys').symm

theorem renderAll_chars (fs : List Bool) (t : Text) :
    renderAll w ctx enter fs (t.map .char) = .ok t := by
  induction t generalizing fs with
  | nil => rfl
  | cons c t ih =>
    rw [List.map_cons, renderAll_cons, ih, render]
    rfl

theorem renderSiblings_eq_ok_iff {es : List Element} {s : Text} :
    renderSiblings w ctx enter es = .ok s ↔ unknown? ctx es = none ∧
      renderAll w ctx enter (flags ctx.registry ctx.options.environment .none es) es = .ok s := by
  rw [renderSiblings]
  cases unknown? ctx es <;> simp

/-- **The elements of two texts with a tag between them** are rendered one by one: the tag ends the
switch that the first text leaves. -/
theorem renderSiblings_append_tag {as bs : List Element} {x y t : Text}
    (hblank : Text.allBlank t = false) (ha : renderSiblings w ctx enter as = .ok x)
    (hb : renderSiblings w ctx enter bs = .ok y) :
    renderSiblings w ctx enter (as ++ t.map .char ++ bs) = .ok (x ++ t ++ y) := by
  rw [renderSiblings_eq_ok_iff] at ha hb ⊢
  obtain ⟨hknown, ha⟩ := ha
  obtain ⟨hknown', hb⟩ := hb
  refine ⟨by rw [unknown?_append, unknown?_append, hknown, hknown', unknown?_chars]; rfl, ?_⟩
  have hnone : Activation.Switch.none.targets = [] := rfl
  have hclosed : ((as ++ t.map Element.char).foldl (switchPast ctx.registry ctx.options.environment)
      .none).targets = [] := by
    rw [List.foldl_append, foldl_switchPast_chars, Activation.Switch.past, hblank]
    rfl
  have hbs := flags_of_closed ctx.registry ctx.options.environment hclosed hnone bs
  rw [flags_append, hbs, renderAll_append (length_flags _ _ _ _), flags_append,
    renderAll_append (length_flags _ _ _ _), ha, hb, renderAll_chars]
  rfl

end

end Element

namespace TwoBlocks

open IncludingPage

/-- The context of a call for the target `a`. -/
def forTarget : Context :=
  { context with options := { options with environment := some "a".toList } }

/-- A page that is one script for the target `a`. -/
def script : Text := "<!--m:js:a x--><!--/m-->".toList

/-- A page that is one style sheet for the targets `a` and `b`. -/
def styleSheet : Text := "<!--m:css:a,b y--><!--/m-->".toList

/-- The opening marker of the script. -/
def scriptOpening : Opening where
  text := "<!--m:js:a x-->".toList
  kind := "js".toList
  targets := some "a".toList
  params := none
  value := some "x".toList

/-- The opening marker of the style sheet. -/
def styleOpening : Opening where
  text := "<!--m:css:a,b y-->".toList
  kind := "css".toList
  targets := some "a,b".toList
  params := none
  value := some "y".toList

theorem ofPage_script :
    Element.ofPage forTarget.options.marker 0 script = .ok [.block scriptOpening 1 [] closing] := by
  have hlex : Lexeme.lex forTarget.options.marker script =
      [.opening scriptOpening, .closing closing] := by
    decide +kernel
  rw [Element.ofPage, hlex]
  rfl

theorem ofPage_styleSheet : Element.ofPage forTarget.options.marker 0 styleSheet =
    .ok [.block styleOpening 1 [] closing] := by
  have hlex : Lexeme.lex forTarget.options.marker styleSheet =
      [.opening styleOpening, .closing closing] := by
    decide +kernel
  rw [Element.ofPage, hlex]
  rfl

end TwoBlocks

namespace Page

/-- A text is worked through without a fault if it is read into elements that are rendered so. -/
theorem result_expand_eq_ok_iff {w : Workspace} {ctx : Context} {k : Int} {page t : Text} :
    (expand w ctx k page).result = .ok t ↔ ∃ es, Element.ofPage ctx.options.marker k page = .ok es ∧
      Element.renderSiblings w ctx
        (fun _ path content => Element.renderPage w (ctx.enter path) 0 content) es = .ok t := by
  rw [Element.result_expand_eq_renderPage, Element.renderPage]
  cases Element.ofPage ctx.options.marker k page with
  | error e => simp
  | ok es => simp

/-- A text in which no comment starts stays as it is. -/
theorem result_expand_of_uncommented {w : Workspace} {ctx : Context} {k : Int} {page : Text}
    (h : ¬ Marker.commentStart <:+: page) : (expand w ctx k page).result = .ok page := by
  have helements : Element.ofPage ctx.options.marker k page = .ok (page.map .char) := by
    rw [Element.ofPage, Lexeme.lex_of_uncommented h, ← List.append_nil (page.map Lexeme.char),
      Element.build_chars]
    simp [Element.build]
  refine result_expand_eq_ok_iff.2 ⟨_, helements, Element.renderSiblings_eq_ok_iff.2 ⟨?_, ?_⟩⟩
  · exact Element.unknown?_chars page
  · exact Element.renderAll_chars _ page

/-- **Texts are worked through one by one.** Two texts that become `x` and `y` become both when they
are put together with a line between them that starts with a tag; the line stays as it is. -/
theorem result_expand_append {w : Workspace} {ctx : Context} {a b x y t : Text} {i j : Int}
    (hregistry : ctx.registry = .initial)
    (hword : ∀ c ∈ ctx.options.marker, Text.isBlank c = false)
    (hhead : ctx.options.marker.head? ≠ some '<') (hne : t ≠ []) (htag : '<' ∉ t)
    (hcomment : t.head? ≠ some '!') (ha : (expand w ctx i a).result = .ok x)
    (hb : (expand w ctx j b).result = .ok y) (k : Int) :
    (expand w ctx k (a ++ '\n' :: '<' :: t ++ b)).result = .ok (x ++ '\n' :: '<' :: t ++ y) := by
  obtain ⟨as, has, hx⟩ := result_expand_eq_ok_iff.1 (result_expand_eq_ok_of_offset hregistry ha k)
  obtain ⟨bs, hbs, hy⟩ := result_expand_eq_ok_iff.1
    (result_expand_eq_ok_of_offset hregistry hb (k + Text.newlines (a ++ '\n' :: '<' :: t)))
  refine result_expand_eq_ok_iff.2
    ⟨_, Element.ofPage_append_tag hword hhead hne htag hcomment has hbs, ?_⟩
  exact Element.renderSiblings_append_tag rfl hx hy

/-- Two blocks for the target `a`, which would be in one switch without the tag. -/
theorem result_expand_append_of_blocks :
    TwoBlocks.forTarget.registry = .initial ∧
      (∀ c ∈ TwoBlocks.forTarget.options.marker, Text.isBlank c = false) ∧
      TwoBlocks.forTarget.options.marker.head? ≠ some '<' ∧
      (expand (IncludingPage.workspace 1 []) TwoBlocks.forTarget 0 TwoBlocks.script).result =
        .ok "<script src=\"x\"></script>".toList ∧
      (expand (IncludingPage.workspace 1 []) TwoBlocks.forTarget 0 TwoBlocks.styleSheet).result =
        .ok "<link rel=\"stylesheet\" href=\"y\">".toList ∧
      (expand (IncludingPage.workspace 1 []) TwoBlocks.forTarget 0
          (TwoBlocks.script ++ '\n' :: '<' :: "p>".toList ++ TwoBlocks.styleSheet)).result =
        .ok ("<script src=\"x\"></script>".toList ++ '\n' :: '<' :: "p>".toList ++
          "<link rel=\"stylesheet\" href=\"y\">".toList) := by
  have hregistry : TwoBlocks.forTarget.registry = .initial := rfl
  have hword : ∀ c ∈ TwoBlocks.forTarget.options.marker, Text.isBlank c = false := fun c hc => by
    rw [List.mem_singleton.1 hc]
    rfl
  have hhead : TwoBlocks.forTarget.options.marker.head? ≠ some '<' := by decide
  have hscript : (expand (IncludingPage.workspace 1 []) TwoBlocks.forTarget 0
      TwoBlocks.script).result = .ok "<script src=\"x\"></script>".toList := by
    refine result_expand_eq_ok_iff.2 ⟨_, TwoBlocks.ofPage_script, ?_⟩
    decide +kernel
  have hstyle : (expand (IncludingPage.workspace 1 []) TwoBlocks.forTarget 0
      TwoBlocks.styleSheet).result = .ok "<link rel=\"stylesheet\" href=\"y\">".toList := by
    refine result_expand_eq_ok_iff.2 ⟨_, TwoBlocks.ofPage_styleSheet, ?_⟩
    decide +kernel
  exact ⟨hregistry, hword, hhead, hscript, hstyle,
    result_expand_append hregistry hword hhead (by decide) (by decide) (by decide) hscript hstyle 0⟩

end Page
end BuildBlocks
