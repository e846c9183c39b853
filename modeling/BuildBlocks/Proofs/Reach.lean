import BuildBlocks.Proofs.BlockTasks
import BuildBlocks.Proofs.Calls
import BuildBlocks.Proofs.ClosedLexemes
import BuildBlocks.Proofs.DiskAccess
import BuildBlocks.Proofs.SwitchFlags

/-!
# What a run comes to

A pass over a text goes through its blocks in order and stops at the first failure. `Visit.Meets`
says that the pass comes to a block, `Visit.Enters` that it goes on to another text there, and
`Visit.Reaches` that working through one text comes to another one in the end. Unlike
`Visit.Calls`, which bounds what a pass may ask for, these say what a run does.

## The architecture

* **`Span.result_assemble_eq_error_iff`**: putting spans together fails at the first block that
  fails, after everything before it was put together.
* **`Visit.result_expand_eq_error_iff`**: so working through a text fails just if it reaches a text
  that fails by itself (`Visit.Fails`): its markers do not pair, a block is of an unknown type, or a
  block that the pass comes to cannot be dealt with.
* **`Page.Starts`**, **`Page.Handles`**: the text that a call begins with, and the contexts in which
  a call gives a block to its handler.
-/

namespace BuildBlocks

namespace Span

variable {f : Directive → Bool → Outcome Text} {e : Failure}

theorem result_assemble_text (t : Text) (spans : List Span) (flags : List Bool) :
    (assemble (.text t :: spans) flags fun d _ active => f d active).result =
      (assemble spans flags.tail fun d _ active => f d active).result.map (t ++ ·) := by
  rw [assemble, Outcome.result_bind]
  rfl

theorem result_assemble_block (d : Directive) (start stop : Nat) (spans : List Span)
    (flags : List Bool) :
    (assemble (.block d start stop :: spans) flags fun d _ active => f d active).result =
      (f d (flags.headD false)).result.bind fun first =>
        (assemble spans flags.tail fun d _ active => f d active).result.map (first ++ ·) := by
  rw [assemble, Outcome.result_bind]
  refine congrArg _ (funext fun first => ?_)
  rw [Outcome.result_bind]
  rfl

/-- Spans are put together from the left: what stands first comes first, and its failure too. -/
theorem result_assemble_append (before after : List Span) (flags : List Bool) :
    (assemble (before ++ after) flags fun d _ active => f d active).result =
      (assemble before flags fun d _ active => f d active).result.bind fun s =>
        (assemble after (flags.drop before.length) fun d _ active => f d active).result.map
          (s ++ ·) := by
  induction before generalizing flags with
  | nil => exact (congrFun Except.map_id _).symm
  | cons span before ih =>
    have hdrop : flags.drop (span :: before).length = flags.tail.drop before.length := by
      rw [List.length_cons, List.drop_tail]
    rw [List.cons_append, hdrop]
    cases span with
    | text t =>
      rw [result_assemble_text, result_assemble_text, ih]
      cases (assemble before flags.tail fun d _ active => f d active).result with
      | error e => rfl
      | ok s => exact (map_append_map _ t s).symm
    | block d start stop =>
      rw [result_assemble_block, result_assemble_block, ih]
      cases (f d (flags.headD false)).result with
      | error e => rfl
      | ok first =>
        cases (assemble before flags.tail fun d _ active => f d active).result with
        | error e => rfl
        | ok s => exact (map_append_map _ first s).symm

/-- **Putting spans together fails at the first block that fails**, after everything before it was
put together. -/
theorem result_assemble_eq_error_iff {spans : List Span} {flags : List Bool} :
    (assemble spans flags fun d _ active => f d active).result = .error e ↔
      ∃ before d start stop after s, spans = before ++ .block d start stop :: after ∧
        (assemble before flags fun d _ active => f d active).result = .ok s ∧
          (f d ((flags.drop before.length).headD false)).result = .error e := by
  constructor
  · intro h
    -- on the spans: the first task that fails, after blocks that have all become a text
    induction spans generalizing flags with
    | nil => cases h
    | cons span spans ih =>
      cases span with
      | text t =>
        rw [result_assemble_text] at h
        obtain ⟨before, d, start, stop, after, s, rfl, hbefore, hfail⟩ :=
          ih (eq_error_of_map_eq_error h)
        refine ⟨.text t :: before, d, start, stop, after, t ++ s, rfl, ?_, ?_⟩
        · rw [result_assemble_text, hbefore]
          rfl
        · rw [List.drop_tail] at hfail
          exact hfail
      | block d start stop =>
        rw [result_assemble_block] at h
        cases hfirst : (f d (flags.headD false)).result with
        | error e' =>
          rw [hfirst] at h
          cases h
          exact ⟨[], d, start, stop, spans, [], rfl, rfl, hfirst⟩
        | ok first =>
          rw [hfirst] at h
          obtain ⟨before, d', start', stop', after, s, rfl, hbefore, hfail⟩ :=
            ih (eq_error_of_map_eq_error h)
          refine ⟨.block d start stop :: before, d', start', stop', after, first ++ s, rfl, ?_, ?_⟩
          · rw [result_assemble_block, hfirst, hbefore]
            rfl
          · rw [List.drop_tail] at hfail
            exact hfail
  · rintro ⟨before, d, start, stop, after, s, rfl, hbefore, hfail⟩
    rw [result_assemble_append, hbefore, result_assemble_block, hfail]
    rfl

end Span

/-! ## Texts that a run comes to -/

namespace Visit

variable {w : Workspace}

/-- **The pass over a text comes to a block.** The markers of the text pair, the types of all its
blocks are known, the switches decide whether the block is active, and everything before the block
was worked through. -/
inductive Meets (w : Workspace) (v : Visit) (d : Directive) (active : Bool) : Prop where
  | intro {before after : List Span} {start stop : Nat} {flags : List Bool} {s : Text}
      (hscan : (Page.scan v.ctx v.offset v.page).result =
        .ok (before ++ .block d start stop :: after))
      (hknown : Page.requireKnown v.ctx (before ++ .block d start stop :: after) = .ok ())
      (hflags : (Activation.resolve v.ctx.registry v.ctx.options.environment
        (before ++ .block d start stop :: after)).result = .ok flags)
      (hactive : flags[before.length]? = some active)
      (hbefore : (Span.assemble before flags fun d _ active =>
        Page.perform w (expand w) v.ctx d active).result = .ok s)

/-- The pass over a text goes on to another text: at a block that it comes to, it works through the
body of the block in the same context, or through an included page in a context of its own. -/
inductive Enters (w : Workspace) (v : Visit) : Visit → Prop where
  | body {d : Directive} {active : Bool} {frame : Text → Text} (hmeets : v.Meets w d active)
      (htask : (Task.ofBlock w v.ctx d active).result = .ok (.body frame)) :
      Enters w v ⟨v.ctx, d.bodyOffset, d.body⟩
  | page {d : Directive} {active : Bool} {path : Path} {content : Text}
      {hroom : (v.ctx.depth : Int) < w.settings.maxIncludeDepth} (hmeets : v.Meets w d active)
      (htask : (Task.ofBlock w v.ctx d active).result = .ok (.page path content hroom)) :
      Enters w v ⟨v.ctx.enter path, 0, content⟩

/-- Working through a text comes to another text in the end. -/
abbrev Reaches (w : Workspace) : Visit → Visit → Prop := Relation.ReflTransGen (Enters w)

/-- A pass fails by itself: the markers of the text do not pair, one of its blocks is of an unknown
type, or a block that the pass comes to cannot be dealt with. -/
inductive Fails (w : Workspace) (v : Visit) (e : Failure) : Prop where
  | scan (h : (Page.scan v.ctx v.offset v.page).result = .error e)
  | unknown {spans : List Span} (hscan : (Page.scan v.ctx v.offset v.page).result = .ok spans)
      (h : Page.requireKnown v.ctx spans = .error e)
  | block {d : Directive} {active : Bool} (hmeets : v.Meets w d active)
      (h : (Task.ofBlock w v.ctx d active).result = .error e)

theorem Meets.exists_mem_scan {v : Visit} {d : Directive} {active : Bool} (h : v.Meets w d active) :
    ∃ spans start stop, (Page.scan v.ctx v.offset v.page).result = .ok spans ∧
      Span.block d start stop ∈ spans ∧ v.ctx.registry.find? d.kind ≠ none := by
  cases h with
  | @intro before after start stop _ _ hscan hknown =>
    have hmem : Span.block d start stop ∈ before ++ .block d start stop :: after :=
      List.mem_append_right _ List.mem_cons_self
    exact ⟨_, start, stop, hscan, hmem, Page.requireKnown_eq_ok_iff.1 hknown d start stop hmem⟩

/-- The block types are those of the call everywhere. -/
theorem registry_eq_of_reaches {v v' : Visit} (h : v.Reaches w v') :
    v'.ctx.registry = v.ctx.registry := by
  induction h with
  | refl => rfl
  | tail _ henters ih =>
    cases henters with
    | body _ _ => exact ih
    | page _ _ => exact ih

theorem Enters.calls {v v' : Visit} (h : v.Enters w v') : v.Calls w v' := by
  cases h with
  | body hmeets htask =>
    obtain ⟨spans, start, stop, hscan, hmem, -⟩ := hmeets.exists_mem_scan
    exact .body hscan hmem htask
  | page hmeets htask =>
    obtain ⟨spans, start, stop, hscan, hmem, -⟩ := hmeets.exists_mem_scan
    exact .page hscan hmem htask

end Visit

namespace Visit

/-- At an active include of a page the pass goes on to that page, unless it is being worked through
already or lies too deep. -/
theorem Meets.enters_page {w : Workspace} {v : Visit} {d : Directive} {path : Path} {content : Text}
    (h : v.Meets w d true) (hincludes : Task.Includes w v.ctx d path content)
    (hnew : path.toText ∉ v.ctx.includeStack)
    (hroom : (v.ctx.depth : Int) < w.settings.maxIncludeDepth) :
    v.Enters w ⟨v.ctx.enter path, 0, content⟩ := by
  have htask : (Task.ofBlock w v.ctx d true).result = .ok (.page path content hroom) := by
    rw [hincludes.result_ofBlock, Task.enterPage_of_not_mem hnew, dif_pos hroom]
  exact .page h htask

end Visit

namespace Page

variable {w : Workspace}

/-- A block fails if it cannot be dealt with, or if the text fails that it asks for. -/
theorem result_perform_eq_error_iff {visit : Visit → Outcome Text} {ctx : Context} {d : Directive}
    {active : Bool} {e : Failure} :
    (perform w visit ctx d active).result = .error e ↔
      (Task.ofBlock w ctx d active).result = .error e ∨
        (∃ frame, (Task.ofBlock w ctx d active).result = .ok (.body frame) ∧
          (visit ⟨ctx, d.bodyOffset, d.body⟩).result = .error e) ∨
          ∃ path content hroom,
            (Task.ofBlock w ctx d active).result = .ok (.page path content hroom) ∧
              (visit ⟨ctx.enter path, 0, content⟩).result = .error e := by
  rw [perform, Outcome.result_bind_eq_error_iff]
  refine or_congr_right ?_
  constructor
  · rintro ⟨task, htask, hfail⟩
    cases task with
    | done s => cases hfail
    | body frame =>
      rw [finish, Outcome.result_bind_eq_error_iff] at hfail
      rcases hfail with hfail | ⟨body, -, hframe⟩
      · exact .inl ⟨frame, htask, hfail⟩
      · cases hframe
    | page path content hroom => exact .inr ⟨path, content, hroom, htask, hfail⟩
  · rintro (⟨frame, htask, hfail⟩ | ⟨path, content, hroom, htask, hfail⟩)
    · refine ⟨_, htask, ?_⟩
      rw [finish, Outcome.result_bind_eq_error_iff]
      exact .inl hfail
    · exact ⟨_, htask, hfail⟩

/-- An active block becomes what its handler makes of it. -/
theorem result_perform_of_active {ctx : Context} {d : Directive} {b : BlockType}
    (hb : ctx.registry.find? d.kind = some b) :
    (perform w (Visit.expand w) ctx d true).result = (handle w ctx d b.handler).result := by
  rw [perform, Outcome.result_bind, Task.result_ofBlock_of_active hb, handle, Outcome.result_bind]
  refine congrArg _ (funext fun task => ?_)
  cases task <;> rfl

end Page

namespace Visit

variable {w : Workspace} {v : Visit} {e : Failure}

theorem Meets.result_expand_eq_error {d : Directive} {active : Bool} (h : v.Meets w d active)
    (hfail : (Page.perform w (expand w) v.ctx d active).result = .error e) :
    (v.expand w).result = .error e := by
  obtain ⟨hscan, hknown, hflags, hactive, hbefore⟩ := h
  rw [expand_eq_pass, Page.result_pass, hscan]
  show (Page.requireKnown _ _).bind _ = _
  rw [hknown]
  show (Activation.resolve _ _ _).result.bind _ = _
  rw [hflags]
  refine Span.result_assemble_eq_error_iff.2 ⟨_, d, _, _, _, _, rfl, hbefore, ?_⟩
  rw [List.headD_eq_head?_getD, List.head?_drop, hactive]
  exact hfail

/-- Where putting spans together fails, the pass has come to a block. -/
theorem exists_meets_of_assemble_eq_error {spans : List Span} {flags : List Bool}
    (hscan : (Page.scan v.ctx v.offset v.page).result = .ok spans)
    (hknown : Page.requireKnown v.ctx spans = .ok ())
    (hflags : (Activation.resolve v.ctx.registry v.ctx.options.environment spans).result = .ok flags)
    (hlength : flags.length = spans.length)
    (h : (Span.assemble spans flags fun d _ active =>
      Page.perform w (expand w) v.ctx d active).result = .error e) :
    ∃ d active, v.Meets w d active ∧
      (Page.perform w (expand w) v.ctx d active).result = .error e := by
  obtain ⟨before, d, start, stop, after, s, rfl, hbefore, hfail⟩ :=
    Span.result_assemble_eq_error_iff.1 h
  have hlt : before.length < flags.length := by
    rw [hlength, List.length_append, List.length_cons]
    omega
  have hactive : flags[before.length]? = some ((flags.drop before.length).headD false) := by
    rw [List.headD_eq_head?_getD, List.head?_drop, List.getElem?_eq_getElem hlt]
    rfl
  exact ⟨d, _, .intro hscan hknown hflags hactive hbefore, hfail⟩

theorem Fails.result_expand_eq_error (h : v.Fails w e) : (v.expand w).result = .error e := by
  cases h with
  | scan hscan =>
    rw [expand_eq_pass, Page.result_pass]
    exact bind_eq_error_iff.2 (.inl hscan)
  | unknown hscan hunknown =>
    rw [expand_eq_pass, Page.result_pass]
    exact bind_eq_error_iff.2 (.inr ⟨_, hscan, bind_eq_error_iff.2 (.inl hunknown)⟩)
  | block hmeets htask =>
    exact hmeets.result_expand_eq_error (Page.result_perform_eq_error_iff.2 (.inl htask))

theorem Enters.result_expand_eq_error {v' : Visit} (h : v.Enters w v')
    (hfail : (v'.expand w).result = .error e) : (v.expand w).result = .error e := by
  cases h with
  | body hmeets htask =>
    exact hmeets.result_expand_eq_error
      (Page.result_perform_eq_error_iff.2 (.inr (.inl ⟨_, htask, hfail⟩)))
  | page hmeets htask =>
    exact hmeets.result_expand_eq_error
      (Page.result_perform_eq_error_iff.2 (.inr (.inr ⟨_, _, _, htask, hfail⟩)))

/-- **A pass fails** just if it fails by itself, or goes on to a text that fails. -/
theorem result_expand_eq_error_iff_enters :
    (v.expand w).result = .error e ↔
      v.Fails w e ∨ ∃ v', v.Enters w v' ∧ (v'.expand w).result = .error e := by
  constructor
  · intro h
    -- follow the pass to the step that fails
    rw [expand_eq_pass, Page.result_pass] at h
    rcases bind_eq_error_iff.1 h with hscan | ⟨spans, hscan, h⟩
    · exact .inl (.scan hscan)
    rcases bind_eq_error_iff.1 h with hunknown | ⟨_, hknown, h⟩
    · exact .inl (.unknown hscan hunknown)
    -- all types are known, so there is a flag for every span
    have hflags : (Activation.resolve v.ctx.registry v.ctx.options.environment spans).result =
        .ok (Activation.flags v.ctx.registry v.ctx.options.environment .none spans) :=
      Activation.result_resolveFrom _ (Page.requireKnown_eq_ok_iff.1 hknown) .none
    rw [hflags] at h
    obtain ⟨d, active, hmeets, hfail⟩ := exists_meets_of_assemble_eq_error hscan hknown hflags
      (Activation.length_flags _ _ _ _) h
    rcases Page.result_perform_eq_error_iff.1 hfail with
      htask | ⟨frame, htask, hfail⟩ | ⟨path, content, hroom, htask, hfail⟩
    · exact .inl (.block hmeets htask)
    · exact .inr ⟨_, .body hmeets htask, hfail⟩
    · exact .inr ⟨_, .page hmeets htask, hfail⟩
  · rintro (hfails | ⟨v', henters, hfail⟩)
    · exact hfails.result_expand_eq_error
    · exact henters.result_expand_eq_error hfail

/-- **Working through a text fails** just if it comes to a text that fails by itself. -/
theorem result_expand_eq_error_iff :
    (v.expand w).result = .error e ↔ ∃ v', v.Reaches w v' ∧ v'.Fails w e := by
  constructor
  · intro h
    induction v using induction (w := w) with
    | h v ih =>
      rcases result_expand_eq_error_iff_enters.1 h with hfails | ⟨v', henters, hfail⟩
      · exact ⟨v, .refl, hfails⟩
      · obtain ⟨u, hreaches, hfails⟩ := ih v' henters.calls hfail
        exact ⟨u, .head henters hreaches, hfails⟩
  · rintro ⟨u, hreaches, hfails⟩
    induction hreaches using Relation.ReflTransGen.head_induction_on with
    | refl => exact hfails.result_expand_eq_error
    | head henters _ ih => exact henters.result_expand_eq_error ih

end Visit

/-! ## Calls -/

/-- The context that a call begins with has the options and block types of the call. -/
theorem Context.eq_of_top {disk : Disk} {options : Options} {r : Registry} {file : Option Path}
    {top : Context} (h : Context.top disk options r file = .ok top) :
    top.options = options ∧ top.registry = r ∧ top.depth = 0 := by
  cases file with
  | none =>
    cases h
    exact ⟨rfl, rfl, rfl⟩
  | some path =>
    obtain ⟨resolved, -, h⟩ := bind_eq_ok_iff.1 h
    cases h
    exact ⟨rfl, rfl, rfl⟩

namespace Page

variable {w : Workspace} {options : Options} {file : Option Path} {page : Text} {e : Failure}

/-- The text that a call begins with: the whole page, in the context of the call. -/
inductive Starts (w : Workspace) (options : Options) (file : Option Path) (page : Text) :
    Visit → Prop where
  | intro {r : Registry} {ctx : Context}
      (hregistry : (registry w.disk options w.settings.extensionOf).result = .ok r)
      (htop : Context.top w.disk options r file = .ok ctx) :
      Starts w options file page ⟨ctx, 0, page⟩

/-- Without extensions a call has the block types that are always there. -/
theorem Starts.registry_eq {root : Visit} (h : Starts w options file page root)
    (hextensions : options.extensions = []) : root.ctx.registry = .initial := by
  obtain ⟨hregistry, htop⟩ := h
  rw [registry, hextensions] at hregistry
  cases hregistry
  exact (Context.eq_of_top htop).2.1

/-- A call gives a block to its handler in a context: it comes to the block, and the block is
active. -/
def Handles (w : Workspace) (options : Options) (file : Option Path) (page : Text) (ctx : Context)
    (d : Directive) : Prop :=
  ∃ root v, Starts w options file page root ∧ root.Reaches w v ∧ v.ctx = ctx ∧ v.Meets w d true

/-- **A call fails** if its block types cannot be loaded, the path of its file cannot be resolved,
working through its page fails, or a placeholder of the assembled page cannot be filled. -/
theorem result_process_eq_error_iff :
    (process w options file page).result = .error e ↔
      (registry w.disk options w.settings.extensionOf).result = .error e ∨
        (∃ r, (registry w.disk options w.settings.extensionOf).result = .ok r ∧
          Context.top w.disk options r file = .error e) ∨
        ∃ root, Starts w options file page root ∧ ((root.expand w).result = .error e ∨
          ∃ assembled, (root.expand w).result = .ok assembled ∧
            (interpolate options.delimiters.toList options.strict root.ctx.fileText
              (.mapping options.data) assembled).result = .error e) := by
  rw [result_process, bind_eq_error_iff]
  refine or_congr_right ?_
  simp only [bind_eq_error_iff]
  constructor
  · rintro ⟨r, hregistry, htop | ⟨ctx, htop, h⟩⟩
    · exact .inl ⟨r, hregistry, htop⟩
    · exact .inr ⟨⟨ctx, 0, page⟩, .intro hregistry htop, h⟩
  · rintro (⟨r, hregistry, htop⟩ | ⟨root, ⟨hregistry, htop⟩, h⟩)
    · exact ⟨r, hregistry, .inl htop⟩
    · exact ⟨_, hregistry, .inr ⟨_, htop, h⟩⟩

/-- A fault of a block comes from a text that the call comes to. -/
theorem exists_fails_of_process_eq_fault {f : Fault} (hkind : f.kind.isOfBlock = true)
    (h : (process w options file page).result = .error (.fault f)) :
    ∃ root v, Starts w options file page root ∧ root.Reaches w v ∧ v.Fails w (.fault f) := by
  rcases result_process_eq_error_iff.1 h with
    hregistry | ⟨r, -, htop⟩ | ⟨root, hstarts, hexpand | ⟨assembled, -, hfill⟩⟩
  · exact (Extension.noBlockFault_loadAll _ _ _ _ f hregistry hkind).elim
  · cases Context.faultFree_top _ _ _ _ _ htop
  · obtain ⟨v, hreaches, hfails⟩ := Visit.result_expand_eq_error_iff.1 hexpand
    exact ⟨root, v, hstarts, hreaches, hfails⟩
  · exact (noBlockFault_interpolate _ _ _ _ _ f hfill hkind).elim

end Page

/-! ## A page that includes a file -/

theorem Lexeme.lex_eq_pair {word cs cs' : Text} {c c' : Char} {l l' : Lexeme}
    (h : first word c cs = (l, c' :: cs')) (h' : first word c' cs' = (l', [])) :
    lex word (c :: cs) = [l, l'] := by
  rw [lex, h]
  dsimp only
  rw [lex, h']
  dsimp only
  rw [lex]

namespace IncludingPage

/-- A page that is one include of `a.html`. -/
def page : Text := "<!--m:include(a.html)--><!--/m-->".toList

/-- The opening marker of the page. -/
def opening : Opening where
  text := "<!--m:include(a.html)-->".toList
  kind := "include".toList
  targets := none
  params := some "a.html".toList
  value := none

/-- The closing marker of the page. -/
def closing : Text := "<!--/m-->".toList

/-- The block of the page. -/
def block : Directive where
  kind := "include".toList
  targets := []
  params := "a.html".toList
  bodyLines := []
  startLine := 1
  endLine := 1
  openMarker := opening.text
  closeMarker := closing

/-- Options for such pages: the marker word is `m`, and includes are recursive. -/
def options : Options :=
  { marker := "m".toList, recursive := true, delimiters := ⟨⟨[], .empty, 0, false⟩, none⟩ }

theorem first_closing : Lexeme.first "m".toList '<' closing.tail = (.closing closing, []) := by
  rfl

theorem lex_page : Lexeme.lex "m".toList page = [.opening opening, .closing closing] := by
  have hopening : Lexeme.first "m".toList '<' page.tail = (.opening opening, closing) := by
    rfl
  exact Lexeme.lex_eq_pair hopening first_closing

theorem result_scan_page (file : Option Text) :
    (Span.scan "m".toList Registry.initial.isGated file 0 page).result =
      .ok [.block block 0 page.length] := by
  rw [Span.result_scan_of_block lex_page .nil]
  rfl

/-- A pass over the page comes to its block, in every context of such a call. -/
theorem meets_block {w : Workspace} {ctx : Context} (hoptions : ctx.options = options)
    (hregistry : ctx.registry = .initial) : Visit.Meets w ⟨ctx, 0, page⟩ block true := by
  have hscan : (Page.scan ctx 0 page).result = .ok ([] ++ [.block block 0 page.length]) := by
    rw [Page.scan, hoptions, hregistry]
    exact result_scan_page _
  have hfind : ∀ d start stop, Span.block d start stop ∈ [Span.block block 0 page.length] →
      ctx.registry.find? d.kind ≠ none := by
    intro d start stop hd
    cases List.mem_singleton.1 hd
    rw [hregistry, show Registry.initial.find? block.kind = some .includeFile from rfl]
    exact Option.some_ne_none _
  have hflags : (Activation.resolve ctx.registry ctx.options.environment
      [.block block 0 page.length]).result = .ok [true] := by
    rw [Activation.resolve, Activation.result_resolveFrom _ hfind, hregistry]
    rfl
  exact .intro hscan (Page.requireKnown_eq_ok_iff.2 hfind) hflags rfl rfl

/-- The path of the included file. -/
def path : Path := Path.absolute ["a.html".toList]

/-- A workspace with nothing but `a.html`, which lies where relative paths start. -/
def workspace (limit : Int) (content : Bytes) : Workspace where
  settings := { maxIncludeDepth := limit }
  disk := ⟨[(["a.html".toList], .file content)], []⟩

/-- The file of the page. -/
def caller : Path := Path.absolute ["p.html".toList]

/-- The context of a call over the page as the content of its file. -/
def context : Context where
  options := options
  registry := .initial
  includeStack := [caller.toText]
  base := caller.parent
  file := some caller

section

open Disk

variable (limit : Int) (content : Bytes)

theorem locate_caller :
    (workspace limit content).disk.locate caller = .ok (.absent ["p.html".toList]) :=
  locateBy_eq_ok_iff.2 ⟨by decide, .last ⟨rfl, by decide, by decide, by decide⟩ fun _ _ => nofun⟩

theorem resolve_caller : (workspace limit content).disk.resolve caller = .ok caller :=
  resolve_of_locate rfl (resolvePlace_of_name rfl (by decide) fun _ => nofun)
    (locate_caller limit content)

theorem locate_path : (workspace limit content).disk.locate path =
    .ok (.present ["a.html".toList] (.file content)) :=
  locateBy_eq_ok_iff.2
    ⟨by decide, .last_at ⟨rfl, by decide, by decide, by decide⟩ rfl fun _ => nofun⟩

theorem readBytes_path : (workspace limit content).disk.readBytes path = .ok content :=
  readBytes_of_locate rfl (locate_path limit content)

theorem resolve_path : (workspace limit content).disk.resolve path = .ok path :=
  resolve_of_locate rfl (resolvePlace_of_name rfl (by decide) fun _ => nofun)
    (locate_path limit content)

end

theorem starts (limit : Int) (content : Bytes) :
    Page.Starts (workspace limit content) options (some caller) page ⟨context, 0, page⟩ := by
  have hresolve := resolve_caller limit content
  refine .intro (r := .initial) rfl ?_
  rw [Context.top, hresolve]
  rfl

theorem includedFile_block {ctx : Context} (hoptions : ctx.options = options)
    (hbase : ctx.base = Path.absolute []) {limit : Int} {content : Bytes} :
    Task.includedFile (workspace limit content).disk ctx block = .ok path := by
  have hjoin : (options.includeBase.getD (Path.absolute [])).join (Path.ofText block.params) =
      path := rfl
  have hresolve := resolve_path limit content
  have hisFile : (workspace limit content).disk.isFile path = .ok true :=
    Disk.isFile_of_locate rfl (locate_path limit content)
  have hpath : Task.includePath (workspace limit content).disk ctx block.params = .ok path := by
    rw [← hresolve, ← hjoin, ← hoptions, ← hbase]
    rfl
  exact Task.includedFile_eq_ok_iff.2 ⟨rfl, hpath, hisFile⟩

/-- The block includes `a.html`, if that can be read. -/
theorem includes_block {ctx : Context} (hoptions : ctx.options = options)
    (hregistry : ctx.registry = .initial) (hbase : ctx.base = Path.absolute []) {limit : Int}
    {content : Bytes} {s : Text}
    (htext : (workspace limit content).disk.readText "utf-8".toList path = .ok s) :
    Task.Includes (workspace limit content) ctx block path s where
  isInclude := ⟨.includeFile, by rw [hregistry]; rfl, rfl⟩
  file := includedFile_block hoptions hbase
  text := htext
  html := by rfl
  recursive := by rw [hoptions]; rfl

theorem readText_page (limit : Int) :
    (workspace limit (Utf8.encode page)).disk.readText "utf-8".toList path = .ok page := by
  have hdecode : Codec.utf8.decode (Utf8.encode page) = .ok page := by rfl
  rw [Disk.readText_of_readBytes .utf8 (readBytes_path limit _) rfl, hdecode]
  rfl

end IncludingPage
end BuildBlocks
