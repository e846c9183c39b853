import BuildBlocks.Proofs.ContextInvariant
import Mathlib.Data.List.Nodup
import Mathlib.Data.Option.Basic

/-!
# Include walks

An include walk follows active includes from file to file: each file of the walk is included by a
block that the pass over the file before it comes to, in its text or in a body. Walks know nothing
of the guards that end a run; they may go in circles.

The files on the way to a text are such a walk (`IncludeWalk.of_reaches`). So when a guard raises an
alarm, there is a walk that shows why (`Page.includeWalk_of_alarm`): the files on the way and the
file that was not entered. Files that were finished before are no part of it.
-/

namespace BuildBlocks

/-- The file that a text belongs to, as it stands on the way: a page that belongs to no file has
none. -/
def Visit.source (v : Visit) : Option Text := v.ctx.includeStack.getLast?

/-- Working through a text comes to an active include of a page, in the text itself or in bodies
inside it. -/
def Visit.MeetsInclude (w : Workspace) (v : Visit) (path : Path) (content : Text) : Prop :=
  ∃ v' d, v.Reaches w v' ∧ v'.ctx = v.ctx ∧ v'.Meets w d true ∧
    Task.Includes w v'.ctx d path content

/-- The files along active includes, from the text that a call begins with to the text of the last
file. -/
inductive IncludeWalk (w : Workspace) (root : Visit) : List (Option Text) → Visit → Prop where
  | root : IncludeWalk w root [root.source] root
  | step {files : List (Option Text)} {v : Visit} {path : Path} {content : Text}
      (hwalk : IncludeWalk w root files v) (hmeets : v.MeetsInclude w path content) :
      IncludeWalk w root (files ++ [some path.toText]) ⟨v.ctx.enter path, 0, content⟩

/-- A step of an include walk from one file to the next one. -/
inductive IncludeStep (w : Workspace) (root : Visit) : Option Text → Option Text → Prop where
  | intro {files : List (Option Text)} {v : Visit} {path : Path} {content : Text}
      (hwalk : IncludeWalk w root files v) (hmeets : v.MeetsInclude w path content) :
      IncludeStep w root v.source (some path.toText)

theorem Visit.source_enter (ctx : Context) (path : Path) (content : Text) :
    Visit.source ⟨ctx.enter path, 0, content⟩ = some path.toText :=
  List.getLast?_concat

/-! ## Levels of an acyclic include graph -/

namespace IncludeWalk

variable {w : Workspace} {root v : Visit} {files : List (Option Text)} {level : Option Text → Nat}

/-- If every include leads to a lower level, the last file of a walk is the lowest. -/
theorem level_source_le (hlevel : ∀ g h, IncludeStep w root g h → level h < level g)
    (hwalk : IncludeWalk w root files v) : ∀ g ∈ files, level v.source ≤ level g := by
  induction hwalk with
  | root =>
    intro g hg
    rw [List.mem_singleton.1 hg]
  | step hwalk hmeets ih =>
    intro g hg
    rw [Visit.source_enter]
    rcases List.mem_append.1 hg with hg | hg
    · exact (hlevel _ _ (.intro hwalk hmeets)).le.trans (ih g hg)
    · rw [List.mem_singleton.1 hg]

/-- If every include leads to a lower level, levels go down along a walk. -/
theorem pairwise_level (hlevel : ∀ g h, IncludeStep w root g h → level h < level g)
    (hwalk : IncludeWalk w root files v) : files.Pairwise fun g h => level h < level g := by
  induction hwalk with
  | root => exact List.pairwise_singleton _ _
  | step hwalk hmeets ih =>
    refine List.pairwise_append.2 ⟨ih, List.pairwise_singleton _ _, fun g hg h hh => ?_⟩
    rw [List.mem_singleton.1 hh]
    exact (hlevel _ _ (.intro hwalk hmeets)).trans_le (hwalk.level_source_le hlevel g hg)

/-- If every include leads to a lower level, a walk has no more includes than there are levels below
its start. -/
theorem level_add_length_le (hlevel : ∀ g h, IncludeStep w root g h → level h < level g)
    (hwalk : IncludeWalk w root files v) : level v.source + files.length ≤ level root.source + 1 := by
  induction hwalk with
  | root => exact Nat.le_refl _
  | step hwalk hmeets ih =>
    have hlower := hlevel _ _ (.intro hwalk hmeets)
    rw [Visit.source_enter, List.length_append, List.length_singleton]
    omega

end IncludeWalk

/-! ## The files on the way -/

namespace Context

variable {settings : Settings} {file : Option Path} {top ctx : Context}

/-- The files on the way to a text in a call over `file`, with the place of the page that belongs to
no file. -/
def trail (file : Option Path) (ctx : Context) : List (Option Text) :=
  (if file.isSome then [] else [none]) ++ ctx.includeStack.map some

theorem trail_enter (file : Option Path) (ctx : Context) (path : Path) :
    (ctx.enter path).trail file = ctx.trail file ++ [some path.toText] := by
  rw [trail, trail, List.append_assoc]
  exact congrArg _ List.map_append

theorem some_mem_trail {name : Text} : some name ∈ ctx.trail file ↔ name ∈ ctx.includeStack := by
  have hnone : some name ∉ if file.isSome then [] else [none] := by
    split <;> simp
  rw [trail, List.mem_append, List.mem_map_of_injective (Option.some_injective _)]
  exact or_iff_right hnone

theorem Derived.nodup_trail (h : Derived settings file top ctx) : (ctx.trail file).Nodup := by
  refine List.nodup_append.2 ⟨?_, h.nodup.map (Option.some_injective _), fun g hg g' hg' => ?_⟩
  · split
    · exact List.nodup_nil
    · exact List.nodup_singleton _
  · -- no file of the stack is the missing one
    obtain ⟨name, -, rfl⟩ := List.mem_map.1 hg'
    split at hg
    · cases hg
    · rw [List.mem_singleton.1 hg]
      exact (Option.some_ne_none name).symm

theorem Derived.length_trail (h : Derived settings file top ctx) :
    (ctx.trail file).length = ctx.depth + 1 := by
  have hlength := h.length
  rw [trail, List.length_append, List.length_map, hlength]
  cases file with
  | none => exact Nat.add_comm _ _
  | some path => exact Nat.zero_add _

end Context

namespace Page

variable {w : Workspace} {options : Options} {file : Option Path} {page : Text} {root v : Visit}

/-- The way begins with the file of the call. -/
theorem Starts.trail (h : Starts w options file page root) : root.ctx.trail file = [root.source] := by
  obtain ⟨-, htop⟩ := h
  cases file with
  | none =>
    cases htop
    rfl
  | some path =>
    obtain ⟨resolved, -, htop⟩ := bind_eq_ok_iff.1 htop
    cases htop
    rfl

theorem Starts.derived (h : Starts w options file page root)
    (hlimit : 0 ≤ w.settings.maxIncludeDepth) (hreaches : root.Reaches w v) :
    Context.Derived w.settings file root.ctx v.ctx := by
  obtain ⟨-, htop⟩ := h
  exact (Context.derived_top htop hlimit).of_reaches hreaches

end Page

/-- **The files on the way to a text are an include walk**, from the call to the file of the text. -/
theorem IncludeWalk.of_reaches {w : Workspace} {options : Options} {file : Option Path} {page : Text}
    {root v : Visit} (hstarts : Page.Starts w options file page root) (hreaches : root.Reaches w v) :
    ∃ u, IncludeWalk w root (v.ctx.trail file) u ∧ u.ctx = v.ctx ∧ u.Reaches w v := by
  induction hreaches with
  | refl =>
    rw [hstarts.trail]
    exact ⟨root, .root, rfl, .refl⟩
  | tail _ henters ih =>
    obtain ⟨u, hwalk, hctx, hreaches⟩ := ih
    cases henters with
    | body hmeets htask => exact ⟨u, hwalk, hctx, hreaches.tail (.body hmeets htask)⟩
    | page hmeets htask =>
      obtain ⟨rfl, hincludes, -⟩ := Task.includes_of_ofBlock_eq_page htask
      have hstep := IncludeWalk.step hwalk ⟨_, _, hreaches, hctx.symm, hmeets, hincludes⟩
      rw [hctx] at hstep
      rw [Context.trail_enter]
      exact ⟨_, hstep, rfl, .refl⟩

/-! ## Alarms -/

/-- The files on the way from the place of a name to the end. -/
theorem exists_dropWhile_eq_cons {name : Text} {names : List Text} (h : name ∈ names) :
    ∃ before between, names = before ++ name :: between ∧
      names.dropWhile (· ≠ name) = name :: between := by
  obtain ⟨before, between, hnames, hfirst⟩ := List.eq_append_cons_of_mem h
  refine ⟨before, between, hnames, ?_⟩
  rw [hnames, List.dropWhile_append_of_pos, List.dropWhile_cons_of_neg (by simp)]
  intro a ha
  exact decide_eq_true fun heq => hfirst (heq ▸ ha)

namespace Page

variable {w : Workspace} {options : Options} {file : Option Path} {page : Text}

/-- An alarm comes from an include on whose way its file stands already, or which lies too deep: one
more step of the walk that leads to it. -/
theorem exists_includeWalk_of_isIncludeAlarm {f : Fault} (hlimit : 0 ≤ w.settings.maxIncludeDepth)
    (h : (process w options file page).result = .error (.fault f))
    (halarm : f.kind.isIncludeAlarm = true) :
    ∃ root v ctx name, Starts w options file page root ∧
      IncludeWalk w root (ctx.trail file ++ [some name]) v ∧
        Context.Derived w.settings file root.ctx ctx ∧
          ((name ∈ ctx.includeStack ∧
              f.kind = .circularInclude (ctx.includeStack.dropWhile (· ≠ name) ++ [name])) ∨
            (name ∉ ctx.includeStack ∧ w.settings.maxIncludeDepth ≤ ctx.depth ∧
              f.kind = .includeDepth)) := by
  have hkind : f.kind.isOfBlock = true := by
    cases hf : f.kind <;> rw [hf] at halarm <;> first | rfl | cases halarm
  obtain ⟨root, v, hstarts, hreaches, hfails⟩ := exists_fails_of_process_eq_fault hkind h
  -- only the task of a block raises an alarm about includes
  cases hfails with
  | scan hscan =>
    obtain ⟨_, o, _, _, hfault⟩ := Span.exists_lexemes_of_ofPieces_eq_error hscan
    cases hfault
    cases halarm
  | unknown hscan hunknown =>
    obtain ⟨d, _, _, _, _, hfault⟩ := requireKnown_eq_error hunknown
    cases hfault
    cases halarm
  | block hmeets htask =>
    obtain ⟨-, -, -, -, -, hknown⟩ := hmeets.exists_mem_scan
    obtain ⟨rfl, path, content, hincludes, hcases⟩ :=
      Task.includes_of_ofBlock_eq_alarm hknown htask halarm
    obtain ⟨u, hwalk, hctx, hreaches'⟩ := IncludeWalk.of_reaches hstarts hreaches
    exact ⟨root, _, v.ctx, path.toText, hstarts,
      .step hwalk ⟨v, _, hreaches', hctx.symm, hmeets, hincludes⟩, hstarts.derived hlimit hreaches,
      hcases⟩

/-- If a file includes itself, there is a walk of distinct files that comes back to one of them. The
chain of the fault is the circle at its end. -/
theorem exists_circle_of_circularInclude {f : Fault} {chain : List Text}
    (hlimit : 0 ≤ w.settings.maxIncludeDepth)
    (h : (process w options file page).result = .error (.fault f))
    (hkind : f.kind = .circularInclude chain) :
    ∃ root v before name between, Starts w options file page root ∧
      IncludeWalk w root (before ++ chain.map some) v ∧ chain = name :: between ++ [name] ∧
        (before ++ (name :: between).map some).Nodup := by
  obtain ⟨root, v, ctx, name, hstarts, hwalk, hderived, ⟨hmem, hchain⟩ | ⟨-, -, hdepth⟩⟩ :=
    exists_includeWalk_of_isIncludeAlarm hlimit h (hkind ▸ rfl)
  · rw [hkind] at hchain
    cases hchain
    obtain ⟨before, between, hstack, hcircle⟩ := exists_dropWhile_eq_cons hmem
    have htrail : (if file.isSome then [] else [none]) ++ before.map some ++
        (name :: between).map some = ctx.trail file := by
      rw [Context.trail, hstack, List.map_append, List.append_assoc]
    refine ⟨root, v, (if file.isSome then [] else [none]) ++ before.map some, name, between,
      hstarts, ?_, by rw [hcircle], htrail ▸ hderived.nodup_trail⟩
    rw [hcircle, List.map_append, ← List.append_assoc, htrail]
    exact hwalk
  · rw [hkind] at hdepth
    cases hdepth

/-- If includes lie too deep, there is a walk of distinct files with one include more than the
limit. -/
theorem exists_includeWalk_of_includeDepth {f : Fault} {N : Nat}
    (hlimit : w.settings.maxIncludeDepth = N)
    (h : (process w options file page).result = .error (.fault f)) (hkind : f.kind = .includeDepth) :
    ∃ root v files, Starts w options file page root ∧ IncludeWalk w root files v ∧
      files.Nodup ∧ files.length = N + 2 := by
  obtain ⟨root, v, ctx, name, hstarts, hwalk, hderived, ⟨-, hchain⟩ | ⟨hmem, hdepth, -⟩⟩ :=
    exists_includeWalk_of_isIncludeAlarm (hlimit ▸ Int.natCast_nonneg N) h (hkind ▸ rfl)
  · rw [hkind] at hchain
    cases hchain
  · refine ⟨root, v, _, hstarts, hwalk, ?_, ?_⟩
    · rw [← List.concat_eq_append]
      exact hderived.nodup_trail.concat fun hname => hmem (Context.some_mem_trail.1 hname)
    · have hle := hderived.depth_le
      rw [List.length_append, hderived.length_trail, List.length_singleton]
      omega

/-- If every include leads to a lower one of as many levels as the limit allows, there is no
alarm. -/
theorem isIncludeAlarm_eq_false_of_levels {f : Fault} {N : Nat}
    (hlimit : w.settings.maxIncludeDepth = N) {level : Option Text → Nat}
    (hlevels : ∀ root, Starts w options file page root →
      level root.source ≤ N ∧ ∀ g h, IncludeStep w root g h → level h < level g)
    (h : (process w options file page).result = .error (.fault f)) :
    f.kind.isIncludeAlarm = false := by
  cases hkind : f.kind with
  | circularInclude chain =>
    -- the walk would come back to the level of an earlier file
    obtain ⟨root, v, before, name, between, hstarts, hwalk, hchain, -⟩ :=
      exists_circle_of_circularInclude (hlimit ▸ Int.natCast_nonneg N) h hkind
    have hdown := hwalk.pairwise_level (hlevels root hstarts).2
    rw [hchain, List.map_append, List.map_cons, List.cons_append] at hdown
    have hback := (List.pairwise_cons.1 (List.pairwise_append.1 hdown).2.1).1 (some name)
      (List.mem_append_right _ (List.mem_singleton_self _))
    exact absurd hback (Nat.lt_irrefl _)
  | includeDepth =>
    -- the walk would have more includes than levels
    obtain ⟨root, v, files, hstarts, hwalk, -, hlength⟩ :=
      exists_includeWalk_of_includeDepth hlimit h hkind
    obtain ⟨htop, hlevel⟩ := hlevels root hstarts
    have hcount := hwalk.level_add_length_le hlevel
    omega
  | general | unterminated | unknownBlock | includeNotFound _ | loading _ | unresolved _ => rfl

/-- **Alarms are real.** A circular include shows a walk of distinct files that comes back to the
first file of the chain, and the chain is the circle. An include that lies too deep shows a walk of
distinct files with one include more than the limit. So an acyclic include graph of no more levels
than the limit raises no alarm, however often a file is included in it. -/
theorem includeWalk_of_alarm {N : Nat} (hlimit : w.settings.maxIncludeDepth = N) :
    (∀ f chain, (process w options file page).result = .error (.fault f) →
      f.kind = .circularInclude chain →
        ∃ root v before name between, Starts w options file page root ∧
          IncludeWalk w root (before ++ chain.map some) v ∧ chain = name :: between ++ [name] ∧
            (before ++ (name :: between).map some).Nodup) ∧
    (∀ f, (process w options file page).result = .error (.fault f) → f.kind = .includeDepth →
      ∃ root v files, Starts w options file page root ∧ IncludeWalk w root files v ∧
        files.Nodup ∧ files.length = N + 2) ∧
    ∀ level : Option Text → Nat,
      (∀ root, Starts w options file page root →
        level root.source ≤ N ∧ ∀ g h, IncludeStep w root g h → level h < level g) →
      ∀ f, (process w options file page).result = .error (.fault f) →
        f.kind.isIncludeAlarm = false :=
  ⟨fun _ _ h hkind => exists_circle_of_circularInclude (hlimit ▸ Int.natCast_nonneg N) h hkind,
    fun _ h hkind => exists_includeWalk_of_includeDepth hlimit h hkind,
    fun _ hlevels _ h => isIncludeAlarm_eq_false_of_levels hlimit hlevels h⟩

end Page

open IncludingPage

/-- A page that includes `a.html`, which includes itself: with a limit of one the circle is found,
and with a limit of zero the first include lies too deep already. -/
theorem Page.includeWalk_of_alarm_of_include :
    (∃ f, (process (workspace 1 (Utf8.encode page)) options (some caller) page).result =
        .error (.fault f) ∧
      f.kind = .circularInclude [path.toText, path.toText] ∧
      ∃ root v before name between,
        Starts (workspace 1 (Utf8.encode page)) options (some caller) page root ∧
        IncludeWalk (workspace 1 (Utf8.encode page)) root
          (before ++ [path.toText, path.toText].map some) v ∧
        [path.toText, path.toText] = name :: between ++ [name] ∧
        (before ++ (name :: between).map some).Nodup) ∧
    ∃ f, (process (workspace 0 (Utf8.encode page)) options (some caller) page).result =
        .error (.fault f) ∧
      f.kind = .includeDepth ∧
      ∃ root v files,
        Starts (workspace 0 (Utf8.encode page)) options (some caller) page root ∧
        IncludeWalk (workspace 0 (Utf8.encode page)) root files v ∧
        files.Nodup ∧ files.length = 0 + 2 := by
  have hincludes (limit : Int) (ctx : Context) (hoptions : ctx.options = options)
      (hregistry : ctx.registry = .initial) (hbase : ctx.base = Path.absolute []) :
      Task.Includes (workspace limit (Utf8.encode page)) ctx block path page :=
    includes_block hoptions hregistry hbase (readText_page limit)
  constructor
  · have henters : Visit.Enters (workspace 1 (Utf8.encode page)) ⟨context, 0, page⟩
        ⟨context.enter path, 0, page⟩ :=
      (meets_block rfl rfl).enters_page (hincludes 1 _ rfl rfl rfl) (by decide) (by decide)
    have hfails : Visit.Fails (workspace 1 (Utf8.encode page)) ⟨context.enter path, 0, page⟩ _ :=
      .block (meets_block rfl rfl)
        ((hincludes 1 _ rfl rfl rfl).result_ofBlock.trans (Task.enterPage_of_mem (by decide)))
    have hprocess := result_process_eq_error_iff.2 (.inr (.inr ⟨_, starts 1 _,
      .inl (Visit.result_expand_eq_error_iff.2 ⟨_, .single henters, hfails⟩)⟩))
    exact ⟨_, hprocess, rfl, (includeWalk_of_alarm (N := 1) rfl).1 _ _ hprocess rfl⟩
  · have hfails : Visit.Fails (workspace 0 (Utf8.encode page)) ⟨context, 0, page⟩ _ :=
      .block (meets_block rfl rfl) ((hincludes 0 _ rfl rfl rfl).result_ofBlock.trans
        ((Task.enterPage_of_not_mem (by decide)).trans (dif_neg (by decide))))
    have hprocess := result_process_eq_error_iff.2 (.inr (.inr ⟨_, starts 0 _,
      .inl (Visit.result_expand_eq_error_iff.2 ⟨_, .refl, hfails⟩)⟩))
    exact ⟨_, hprocess, rfl, (includeWalk_of_alarm (N := 0) rfl).2.1 _ hprocess rfl⟩

end BuildBlocks
