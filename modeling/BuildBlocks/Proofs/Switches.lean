import BuildBlocks.Proofs.SwitchFlags
import Mathlib.Data.List.Chain

/-!
# Switches

`Activation.resolve` reads the spans of a page once and carries a `Switch` along. Here the same
decisions are described without one. The spans are cut into runs, at every text that is not blank and
at every block that is not gated. The gated blocks of a run are cut into switches: a new switch starts
at a block that has the targets of a block of the current one. In a switch the first block that
applies is active and no other; a block that is not gated is active if it applies.

## The architecture

* **`IsCut`** says which cut of a run into switches is meant, and `isCut_iff` that there is exactly
  one, which `switchesFrom` finds.
* **`Tied`**: what the reading carries along is the current switch of the cut. A block keeps this
  (`Tied.next`), and so does all that ends a run (`tied_closed`).
* **`runsObey_flags`**: so the flags of a page obey every switch of every run, by induction on the
  spans with one lemma for each kind of span (`RunsObey`).
-/

namespace BuildBlocks

theorem Target.sameSet_iff {a b : List Text} : sameSet a b = true ↔ ∀ t, t ∈ a ↔ t ∈ b := by
  simp only [sameSet, Bool.and_eq_true, List.all_eq_true, List.contains_iff_mem]
  exact ⟨fun h t => ⟨h.1 t, h.2 t⟩, fun h => ⟨fun t => (h t).1, fun t => (h t).2⟩⟩

namespace Activation

/-! ## The rule -/

/-- A block applies by itself. -/
def Applies (r : Registry) (environment : Option Text) (d : Directive) : Prop :=
  isActive r environment d = .ok true

/-- Two blocks are meant for the same environments. -/
def SameTargets (d d' : Directive) : Prop := ∀ t, t ∈ d.targets ↔ t ∈ d'.targets

/-- No environment is named by both blocks. -/
def DisjointTargets (d d' : Directive) : Prop := ∀ t ∈ d.targets, t ∉ d'.targets

/-- Whether a span ends the run of gated blocks before it. -/
def endsRun (r : Registry) : Span → Bool
  | .text t => !Text.allBlank t
  | .block d _ _ => !r.isGated d.kind

/-- A block and whether it is active. -/
abbrev Verdict := Directive × Bool

def gatedVerdict? (r : Registry) : Span × Bool → Option Verdict
  | (.text _, _) => none
  | (.block d _ _, active) => if r.isGated d.kind then some (d, active) else none

/-- The gated blocks of a page, cut where a text that is not blank or a block that is not gated stands
between them. -/
def runs (r : Registry) (judged : List (Span × Bool)) : List (List Verdict) :=
  (judged.splitOnP fun x => endsRun r x.1).map (·.filterMap (gatedVerdict? r))

/-- **The cut of a run into switches.** No two blocks of a switch have the same targets, and a new
switch starts only at a block that has the targets of a block of the switch before it. -/
structure IsCut (run : List Verdict) (switches : List (List Verdict)) : Prop where
  flatten : switches.flatten = run
  ne_nil : ∀ switch ∈ switches, switch ≠ []
  apart : ∀ switch ∈ switches, switch.Pairwise fun v v' => ¬ SameTargets v.1 v'.1
  restarts : switches.IsChain fun switch next =>
    ∃ v ∈ switch, ∃ v' ∈ next.head?, SameTargets v'.1 v.1

/-- The first block of a switch that applies is active, and no other. -/
def WonByFirst (r : Registry) (environment : Option Text) (switch : List Verdict) : Prop :=
  ∀ before v after, switch = before ++ v :: after →
    (v.2 = true ↔ Applies r environment v.1 ∧ ∀ u ∈ before, ¬ Applies r environment u.1)

/-- What is decided about a page: the numbers of the spans that are blocks, each with whether the
block is active. -/
def table (spans : List Span) (flags : List Bool) : List (Nat × Bool) :=
  (spans.zip flags).zipIdx.filterMap fun ((span, active), n) =>
    span.directive?.map fun _ => (n, active)

/-! ## Cutting a run -/

/-- Cuts a run into switches, where `current` is the switch that its first block follows. -/
def switchesFrom (current : List Verdict) : List Verdict → List (List Verdict)
  | [] => if current.isEmpty then [] else [current]
  | v :: vs =>
    if current.any fun u => Target.sameSet v.1.targets u.1.targets then
      current :: switchesFrom [v] vs
    else switchesFrom (current ++ [v]) vs

theorem any_sameSet_iff {current : List Verdict} {v : Verdict} :
    (current.any fun u => Target.sameSet v.1.targets u.1.targets) = true ↔
      ∃ u ∈ current, SameTargets v.1 u.1 := by
  simp only [List.any_eq_true, Target.sameSet_iff, SameTargets]

/-- What `switchesFrom` finds is the cut, and the switch before the run is the start of its first
part. -/
theorem isCut_switchesFrom {current : List Verdict} (run : List Verdict) (hne : current ≠ [])
    (hapart : current.Pairwise fun v v' => ¬ SameTargets v.1 v'.1) :
    ∃ more others, switchesFrom current run = (current ++ more) :: others ∧
      IsCut (current ++ run) ((current ++ more) :: others) := by
  induction run generalizing current with
  | nil =>
    -- the run is over, and the current switch is the last one
    refine ⟨[], [], ?_, ?_⟩
    · rw [switchesFrom, if_neg (by simpa using hne), List.append_nil]
    · simpa using ⟨by simp, by simpa using hne, by simpa using hapart, .singleton _⟩
  | cons v vs ih =>
    rw [switchesFrom]
    split
    · next hany =>
      -- a block with the same targets is there, so `v` starts a switch of its own
      obtain ⟨u, hu, hsame⟩ := any_sameSet_iff.1 hany
      obtain ⟨more, others, hcut, hiscut⟩ := ih (List.cons_ne_nil v []) (List.pairwise_singleton _ v)
      refine ⟨[], switchesFrom [v] vs, by rw [List.append_nil], ?_⟩
      rw [List.append_nil, hcut]
      exact {
        flatten := by rw [List.flatten_cons, hiscut.flatten, List.singleton_append]
        ne_nil := List.forall_mem_cons.2 ⟨hne, hiscut.ne_nil⟩
        apart := List.forall_mem_cons.2 ⟨hapart, hiscut.apart⟩
        restarts := .cons_cons ⟨u, hu, v, rfl, hsame⟩ hiscut.restarts }
    · next hany =>
      -- `v` goes into the current switch, whose blocks still differ
      have hnew : ∀ u ∈ current, ¬ SameTargets u.1 v.1 := fun u hu hsame =>
        hany (any_sameSet_iff.2 ⟨u, hu, fun t => (hsame t).symm⟩)
      obtain ⟨more, others, hcut, hiscut⟩ := @ih (current ++ [v]) (by simp)
        (List.pairwise_append.2 ⟨hapart, List.pairwise_singleton _ v, by simpa using hnew⟩)
      rw [List.append_assoc] at hcut hiscut
      rw [List.append_assoc] at hiscut
      exact ⟨[v] ++ more, others, hcut, hiscut⟩

theorem switchesFrom_append {more : List Verdict} (rest : List Verdict) :
    ∀ {current : List Verdict}, ((current ++ more).Pairwise fun v v' => ¬ SameTargets v.1 v'.1) →
      switchesFrom current (more ++ rest) = switchesFrom (current ++ more) rest := by
  induction more with
  | nil =>
    intro current _
    rw [List.nil_append, List.append_nil]
  | cons v more ih =>
    intro current hapart
    have hnew : ¬ (current.any fun u => Target.sameSet v.1.targets u.1.targets) = true := by
      intro hany
      obtain ⟨u, hu, hsame⟩ := any_sameSet_iff.1 hany
      exact (List.pairwise_append.1 hapart).2.2 u hu v List.mem_cons_self fun t => (hsame t).symm
    rw [List.cons_append, switchesFrom, if_neg hnew, ih (by simpa using hapart), List.append_assoc,
      List.singleton_append]

/-- After a switch the cut goes on with the switch that starts at the next block. -/
theorem IsCut.switchesFrom_eq {others : List (List Verdict)} :
    ∀ {run switch : List Verdict}, IsCut run (switch :: others) →
      switchesFrom switch others.flatten = switch :: others := by
  induction others with
  | nil =>
    intro run switch h
    have hne := h.ne_nil switch List.mem_cons_self
    rw [List.flatten_nil, switchesFrom, if_neg (by simpa using hne)]
  | cons other others ih =>
    intro run switch h
    obtain ⟨⟨u, hu, v, hv, hsame⟩, hrestarts⟩ := List.isChain_cons_cons.1 h.restarts
    obtain ⟨vs, rfl⟩ := List.head?_eq_some_iff.1 hv
    have hrest : IsCut _ ((v :: vs) :: others) :=
      ⟨rfl, (List.forall_mem_cons.1 h.ne_nil).2, (List.forall_mem_cons.1 h.apart).2, hrestarts⟩
    have hapart : (([v] ++ vs).Pairwise fun v v' => ¬ SameTargets v.1 v'.1) :=
      hrest.apart _ List.mem_cons_self
    rw [List.flatten_cons, List.cons_append, switchesFrom, if_pos (any_sameSet_iff.2 ⟨u, hu, hsame⟩),
      switchesFrom_append _ hapart, List.singleton_append, ih hrest]

/-- **A run is cut in exactly one way.** -/
theorem isCut_iff {run : List Verdict} {switches : List (List Verdict)} :
    IsCut run switches ↔ switches = switchesFrom [] run := by
  constructor
  · intro h
    cases switches with
    | nil =>
      cases h.flatten
      rfl
    | cons switch others =>
      have hapart := h.apart switch List.mem_cons_self
      rw [← h.flatten, List.flatten_cons, switchesFrom_append _ (by simpa using hapart),
        List.nil_append, h.switchesFrom_eq]
  · rintro rfl
    cases run with
    | nil => exact ⟨rfl, nofun, nofun, .nil⟩
    | cons v vs =>
      obtain ⟨more, others, hcut, hiscut⟩ :=
        isCut_switchesFrom vs (List.cons_ne_nil v []) (List.pairwise_singleton _ v)
      rw [switchesFrom]
      exact hcut ▸ hiscut

/-! ## The switch that is carried along -/

section

variable {r : Registry} {environment : Option Text}

/-- **The switch that is carried along** holds the targets of the blocks of the current switch, and
whether one of them applies. What it says of no blocks does not matter. -/
structure Tied (r : Registry) (environment : Option Text) (s : Switch) (current : List Verdict) :
    Prop where
  targets : s.targets = (current.map (·.1.targets)).reverse
  matched : current ≠ [] → (s.matched = true ↔ ∃ v ∈ current, Applies r environment v.1)

theorem tied_closed (s : Switch) : Tied r environment s.closed [] := ⟨rfl, fun h => absurd rfl h⟩

theorem applies_iff {d : Directive} {b : BlockType} (hb : r.find? d.kind = some b) :
    Applies r environment d ↔ appliesTo environment b d = true := by
  rw [Applies, isActive, Registry.resolve, hb]
  exact ⟨Except.ok.inj, congrArg Except.ok⟩

theorem isGated_eq {d : Directive} {b : BlockType} (hb : r.find? d.kind = some b) :
    r.isGated d.kind = b.gated := by
  rw [Registry.isGated, hb, Option.any_some]

theorem decide_of_not_isGated {s : Switch} {d : Directive} (hknown : r.find? d.kind ≠ none)
    (hgated : r.isGated d.kind = false) :
    ((decide r environment s d).1 = true ↔ Applies r environment d) ∧
      (decide r environment s d).2 = s.closed := by
  obtain ⟨b, hb⟩ := Option.ne_none_iff_exists'.1 hknown
  rw [isGated_eq hb] at hgated
  have hdecide : decide r environment s d = (appliesTo environment b d, s.closed) := by
    rw [decide, hb]
    show s.next b.gated _ _ = _
    rw [hgated]
    rfl
  rw [hdecide, applies_iff hb]
  exact ⟨.rfl, rfl⟩

theorem wonByFirst_nil : WonByFirst r environment [] := by
  intro before v after heq
  simp at heq

theorem wonByFirst_append_singleton {current : List Verdict} {v : Verdict} :
    WonByFirst r environment (current ++ [v]) ↔ WonByFirst r environment current ∧
      (v.2 = true ↔ Applies r environment v.1 ∧ ∀ u ∈ current, ¬ Applies r environment u.1) := by
  constructor
  · intro h
    refine ⟨fun before u after heq => h before u (after ++ [v]) ?_, h current v [] rfl⟩
    rw [heq, List.append_assoc, List.cons_append]
  · rintro ⟨hcurrent, hv⟩ before u after heq
    -- the block is the last one, or stands in `current`
    rcases List.eq_nil_or_concat after with rfl | ⟨after', u', rfl⟩
    · obtain ⟨rfl, hu⟩ := List.append_inj' heq rfl
      cases hu
      exact hv
    · rw [List.concat_eq_append, ← List.cons_append, ← List.append_assoc] at heq
      obtain ⟨hfront, -⟩ := List.append_inj' heq rfl
      exact hcurrent before u after' hfront

/-- The blocks of the current switch that are left when a block joins: none if it starts a switch of
its own. -/
def rivals (current : List Verdict) (d : Directive) : List Verdict :=
  if current.any fun u => Target.sameSet d.targets u.1.targets then [] else current

/-- The switch that a block joins holds what it has to hold of the blocks that are left. -/
theorem Tied.joined {s : Switch} {current : List Verdict} (h : Tied r environment s current)
    (d : Directive) :
    (s.joined d.targets).targets = d.targets :: ((rivals current d).map (·.1.targets)).reverse ∧
      ((s.joined d.targets).matched = true ↔ ∃ u ∈ rivals current d, Applies r environment u.1) := by
  have hany : s.targets.any (Target.sameSet d.targets) =
      current.any fun u => Target.sameSet d.targets u.1.targets := by
    rw [h.targets, List.any_reverse, List.any_map]
    rfl
  have hempty : s.targets.isEmpty = current.isEmpty := by
    rw [h.targets, List.isEmpty_reverse, List.isEmpty_map]
  rw [Switch.joined, hany, hempty, rivals]
  cases hsame : current.any fun u => Target.sameSet d.targets u.1.targets with
  | true => simp
  | false =>
    -- what `s` says of no blocks may be left from before, and `joined` drops it
    cases current with
    | nil => simp
    | cons u current =>
      have hmatched := h.matched (List.cons_ne_nil u current)
      exact ⟨congrArg _ h.targets, hmatched⟩

/-- **A gated block keeps the switch tied**: it is active if it applies and no block does that is left
in the switch. -/
theorem Tied.next {s : Switch} {current : List Verdict} (h : Tied r environment s current)
    {d : Directive} (hknown : r.find? d.kind ≠ none) (hgated : r.isGated d.kind = true) :
    Tied r environment (decide r environment s d).2
        (rivals current d ++ [(d, (decide r environment s d).1)]) ∧
      ((decide r environment s d).1 = true ↔
        Applies r environment d ∧ ∀ u ∈ rivals current d, ¬ Applies r environment u.1) := by
  obtain ⟨b, hb⟩ := Option.ne_none_iff_exists'.1 hknown
  obtain ⟨htargets, hmatched⟩ := h.joined d
  rw [isGated_eq hb] at hgated
  have hdecide : decide r environment s d =
      (appliesTo environment b d && !(s.joined d.targets).matched,
        { s.joined d.targets with
          matched := (s.joined d.targets).matched ||
            (appliesTo environment b d && !(s.joined d.targets).matched) }) := by
    rw [decide, hb]
    show s.next b.gated _ _ = _
    rw [hgated]
    rfl
  have hnone : (s.joined d.targets).matched = false ↔
      ∀ u ∈ rivals current d, ¬ Applies r environment u.1 := by
    rw [← Bool.not_eq_true, hmatched]
    simp only [not_exists, not_and]
  rw [hdecide]
  refine ⟨⟨?_, fun _ => ?_⟩, ?_⟩
  · simp [htargets]
  · have horElse (m a : Bool) : (m || (a && !m)) = (m || a) := by cases m <;> simp
    rw [horElse, Bool.or_eq_true, hmatched, ← applies_iff hb]
    simp only [List.mem_append, List.mem_singleton, or_and_right, exists_or, exists_eq_left]
  · rw [Bool.and_eq_true, applies_iff hb, Bool.not_eq_true', hnone]

/-! ## Flags and switches -/

theorem mem_switchesFrom_nil {current switch : List Verdict} (h : switch ∈ switchesFrom current []) :
    switch = current := by
  rw [switchesFrom] at h
  split at h
  · cases h
  · exact List.mem_singleton.1 h

theorem mem_switchesFrom_cons {current vs switch : List Verdict} {v : Verdict}
    (h : switch ∈ switchesFrom current (v :: vs)) :
    switch = current ∨ switch ∈ switchesFrom (rivals current v.1 ++ [v]) vs := by
  rw [switchesFrom] at h
  rw [rivals]
  split at h
  · next hany =>
    rw [if_pos hany]
    exact List.mem_cons.1 h
  · next hany =>
    rw [if_neg hany]
    exact .inr h

theorem runs_cons (span : Span) (active : Bool) (judged : List (Span × Bool)) :
    runs r ((span, active) :: judged) =
      if endsRun r span then [] :: runs r judged
      else (runs r judged).modifyHead ((gatedVerdict? r (span, active)).toList ++ ·) := by
  rw [runs, List.splitOnP_cons_eq_if_modifyHead]
  split
  · rfl
  · rw [runs]
    cases List.splitOnP (fun x => endsRun r x.1) judged with
    | nil => rfl
    | cons run others =>
      rw [List.modifyHead_cons, List.map_cons, List.map_cons, List.modifyHead_cons,
        List.filterMap_cons]
      cases gatedVerdict? r (span, active) <;> rfl

theorem runs_ne_nil (judged : List (Span × Bool)) : runs r judged ≠ [] := by
  rw [runs, ne_eq, List.map_eq_nil_iff]
  exact List.splitOnP_ne_nil _ _

/-- The runs of judged spans obey their switches, where the first run goes on with the switch
`current`. -/
def RunsObey (r : Registry) (environment : Option Text) (current : List Verdict)
    (judged : List (Span × Bool)) : Prop :=
  ∃ run others, runs r judged = run :: others ∧
    (∀ switch ∈ switchesFrom current run, WonByFirst r environment switch) ∧
      ∀ run ∈ others, ∀ switch ∈ switchesFrom [] run, WonByFirst r environment switch

namespace RunsObey

variable {current : List Verdict} {judged : List (Span × Bool)}

theorem nil (hwon : WonByFirst r environment current) : RunsObey r environment current [] := by
  refine ⟨[], [], rfl, fun switch hswitch => ?_, nofun⟩
  rw [mem_switchesFrom_nil hswitch]
  exact hwon

/-- At a span that ends the run, nothing is left of the switch. -/
theorem ends {span : Span} (h : endsRun r span = true) (active : Bool)
    (hwon : WonByFirst r environment current) (hrest : RunsObey r environment [] judged) :
    RunsObey r environment current ((span, active) :: judged) := by
  obtain ⟨run, others, hruns, hrun, hothers⟩ := hrest
  refine ⟨[], run :: others, by rw [runs_cons, if_pos h, hruns], fun switch hswitch => ?_,
    List.forall_mem_cons.2 ⟨hrun, hothers⟩⟩
  rw [mem_switchesFrom_nil hswitch]
  exact hwon

theorem blank {t : Text} (h : Text.allBlank t = true) (active : Bool)
    (hrest : RunsObey r environment current judged) :
    RunsObey r environment current ((.text t, active) :: judged) := by
  obtain ⟨run, others, hruns, hrun, hothers⟩ := hrest
  refine ⟨run, others, ?_, hrun, hothers⟩
  rw [runs_cons, endsRun, h, hruns]
  rfl

/-- A gated block goes into the switch with the blocks that are left. -/
theorem gated {d : Directive} (h : r.isGated d.kind = true) (start stop : Nat) {active : Bool}
    (hwon : WonByFirst r environment current)
    (hrest : RunsObey r environment (rivals current d ++ [(d, active)]) judged) :
    RunsObey r environment current ((.block d start stop, active) :: judged) := by
  obtain ⟨run, others, hruns, hrun, hothers⟩ := hrest
  refine ⟨(d, active) :: run, others, ?_, fun switch hswitch => ?_, hothers⟩
  · rw [runs_cons, endsRun, h, gatedVerdict?, if_pos h, hruns]
    rfl
  · rcases mem_switchesFrom_cons hswitch with rfl | hswitch
    · exact hwon
    · exact hrun switch hswitch

end RunsObey

/-- **The flags of a page obey the switches of every run**, from any switch that is tied to blocks
on. -/
theorem runsObey_flags {spans : List Span}
    (hknown : ∀ d start stop, Span.block d start stop ∈ spans → r.find? d.kind ≠ none) :
    ∀ {s : Switch} {current : List Verdict}, Tied r environment s current →
      WonByFirst r environment current →
        RunsObey r environment current (spans.zip (flags r environment s spans)) := by
  -- on the spans: the switch is tied to the verdicts so far, and the first that applies wins them
  induction spans with
  | nil =>
    intro s current _ hwon
    exact .nil hwon
  | cons span spans ih =>
    intro s current htied hwon
    have ih := @ih fun d start stop hd => hknown d start stop (List.mem_cons_of_mem _ hd)
    cases span with
    | text t =>
      rw [flags, List.zip_cons_cons, Switch.past]
      cases hblank : Text.allBlank t with
      | true => exact .blank hblank false (ih htied hwon)
      | false =>
        have hends : endsRun r (.text t) = true := by rw [endsRun, hblank]; rfl
        exact .ends hends false hwon (ih (tied_closed s) wonByFirst_nil)
    | block d start stop =>
      have hd := hknown d start stop List.mem_cons_self
      rw [flags, List.zip_cons_cons]
      cases hgated : r.isGated d.kind with
      | true =>
        obtain ⟨hnext, hactive⟩ := htied.next hd hgated
        have hrivals : WonByFirst r environment (rivals current d) := by
          rw [rivals]
          split
          · exact wonByFirst_nil
          · exact hwon
        exact .gated hgated start stop hwon
          (ih hnext (wonByFirst_append_singleton.2 ⟨hrivals, hactive⟩))
      | false =>
        have hends : endsRun r (.block d start stop) = true := by rw [endsRun, hgated]; rfl
        rw [(decide_of_not_isGated hd hgated).2]
        exact .ends hends _ hwon (ih (tied_closed s) wonByFirst_nil)

theorem WonByFirst.pairwise {switch : List Verdict} (h : WonByFirst r environment switch) :
    switch.Pairwise fun u v => ¬ (u.2 = true ∧ v.2 = true) := by
  induction switch using List.reverseRecOn with
  | nil => exact .nil
  | append_singleton current v ih =>
    obtain ⟨hcurrent, hv⟩ := wonByFirst_append_singleton.1 h
    refine List.pairwise_append.2 ⟨ih hcurrent, List.pairwise_singleton _ v, ?_⟩
    rintro u hu v' hv' ⟨huActive, hvActive⟩
    cases List.mem_singleton.1 hv'
    obtain ⟨before, after, heq⟩ := List.mem_iff_append.1 hu
    exact (hv.1 hvActive).2 u hu ((hcurrent before u after heq).1 huActive).1

/-- A block of such a switch is active just if a block of it applies. -/
theorem WonByFirst.exists_active_iff {switch : List Verdict} (h : WonByFirst r environment switch) :
    (∃ v ∈ switch, v.2 = true) ↔ ∃ v ∈ switch, Applies r environment v.1 := by
  induction switch using List.reverseRecOn with
  | nil => simp
  | append_singleton current v ih =>
    obtain ⟨hcurrent, hv⟩ := wonByFirst_append_singleton.1 h
    have ih := ih hcurrent
    simp only [List.mem_append, List.mem_singleton, or_and_right, exists_or, exists_eq_left]
    rw [ih, hv]
    -- if no earlier block applies, the last one is active just if it applies
    constructor
    · rintro (hbefore | ⟨happlies, -⟩)
      · exact .inl hbefore
      · exact .inr happlies
    · rintro (hbefore | happlies)
      · exact .inl hbefore
      · by_cases hbefore : ∃ u ∈ current, Applies r environment u.1
        · exact .inl hbefore
        · exact .inr ⟨happlies, fun u hu hu' => hbefore ⟨u, hu, hu'⟩⟩

theorem mem_table {spans : List Span} {flags : List Bool} {n : Nat} {active : Bool} :
    (n, active) ∈ table spans flags ↔
      ∃ d start stop, (spans.zip flags)[n]? = some (.block d start stop, active) := by
  rw [table, List.mem_filterMap]
  constructor
  · rintro ⟨⟨⟨span, active'⟩, n'⟩, hmem, hsome⟩
    cases span with
    | text t => cases hsome
    | block d start stop =>
      cases hsome
      exact ⟨d, start, stop, List.mem_zipIdx_iff_getElem?.1 hmem⟩
  · rintro ⟨d, start, stop, hget⟩
    exact ⟨((.block d start stop, active), n), List.mem_zipIdx_iff_getElem?.2 hget, rfl⟩

/-- The table has one value for each block of the page, if there is a flag for every span. -/
theorem existsUnique_mem_table_iff {spans : List Span} {flags : List Bool}
    (hlength : flags.length = spans.length) (n : Nat) :
    (∃! active, (n, active) ∈ table spans flags) ↔
      ∃ d start stop, spans[n]? = some (.block d start stop) := by
  simp only [mem_table, List.getElem?_zip_eq_some]
  constructor
  · rintro ⟨active, ⟨d, start, stop, hspan, -⟩, -⟩
    exact ⟨d, start, stop, hspan⟩
  · rintro ⟨d, start, stop, hspan⟩
    have hlt : n < flags.length := hlength ▸ (List.getElem?_eq_some_iff.1 hspan).1
    refine ⟨flags[n], ⟨d, start, stop, hspan, List.getElem?_eq_getElem hlt⟩, ?_⟩
    rintro active ⟨-, -, -, -, hactive⟩
    rw [List.getElem?_eq_getElem hlt] at hactive
    exact (Option.some.inj hactive).symm

theorem active_iff_of_not_isGated {spans : List Span} {d : Directive} {start stop : Nat}
    {active : Bool} (hknown : r.find? d.kind ≠ none) (hgated : r.isGated d.kind = false) :
    ∀ {s : Switch}, (Span.block d start stop, active) ∈ spans.zip (flags r environment s spans) →
      (active = true ↔ Applies r environment d) := by
  induction spans with
  | nil => nofun
  | cons span spans ih =>
    intro s hmem
    cases span with
    | text t =>
      rw [flags, List.zip_cons_cons, List.mem_cons] at hmem
      exact ih (hmem.resolve_left fun heq => by cases heq)
    | block d' start' stop' =>
      rw [flags, List.zip_cons_cons, List.mem_cons] at hmem
      rcases hmem with heq | hmem
      · cases heq
        rw [(decide_of_not_isGated hknown hgated).1]
      · exact ih hmem

end

/-! ## Pages -/

/-- **The flags of a page obey its switches.** -/
structure ObeysSwitches (r : Registry) (environment : Option Text) (spans : List Span)
    (flags : List Bool) : Prop where
  /-- Every block has a value, and nothing else has one. -/
  blocks : ∀ n, (∃! active, (n, active) ∈ table spans flags) ↔
    ∃ d start stop, spans[n]? = some (.block d start stop)
  /-- A block that is not gated is active if it applies. -/
  free : ∀ d start stop active, (Span.block d start stop, active) ∈ spans.zip flags →
    r.isGated d.kind = false → (active = true ↔ Applies r environment d)
  /-- Every run is cut into switches in one way. -/
  cut : ∀ run ∈ runs r (spans.zip flags), ∃! switches, IsCut run switches
  won : ∀ run ∈ runs r (spans.zip flags), ∀ switches, IsCut run switches →
    ∀ switch ∈ switches, WonByFirst r environment switch
  /-- No two blocks of a switch are active. -/
  single : ∀ run ∈ runs r (spans.zip flags), ∀ switches, IsCut run switches →
    ∀ switch ∈ switches, switch.Pairwise fun u v => ¬ (u.2 = true ∧ v.2 = true)
  /-- One block of a switch is active if one applies. -/
  winner : ∀ run ∈ runs r (spans.zip flags), ∀ switches, IsCut run switches →
    ∀ switch ∈ switches, (∃ v ∈ switch, v.2 = true) ↔ ∃ v ∈ switch, Applies r environment v.1

section

variable {r : Registry} {environment : Option Text} {spans : List Span}

/-- In the beginning there is no switch, so the flags of a page obey all its switches. -/
theorem wonByFirst_of_mem_runs
    (hknown : ∀ d start stop, Span.block d start stop ∈ spans → r.find? d.kind ≠ none)
    {run : List Verdict} (hrun : run ∈ runs r (spans.zip (flags r environment .none spans)))
    {switch : List Verdict} (hswitch : switch ∈ switchesFrom [] run) :
    WonByFirst r environment switch := by
  obtain ⟨first, others, hruns, hfirst, hothers⟩ :=
    runsObey_flags hknown (@tied_closed r environment .none) wonByFirst_nil
  rw [show Switch.none = Switch.none.closed from rfl, hruns, List.mem_cons] at hrun
  rcases hrun with rfl | hrun
  · exact hfirst switch hswitch
  · exact hothers run hrun switch hswitch

/-- **Switches decide.** If all blocks of a page are of known types, it is decided for its blocks and
for nothing else whether they are active. A block that is not gated is active if it applies. Gated
blocks with nothing but blanks between them are cut into switches, where a new switch starts at a
block that has the targets of one in the current switch; a gated block is active if it applies and no
block does before it in its switch. So at most one block of a switch is active, and one is if any
applies. -/
theorem result_resolve_obeysSwitches (environment : Option Text)
    (hknown : ∀ d start stop, Span.block d start stop ∈ spans → r.find? d.kind ≠ none) :
    ∃ flags, (resolve r environment spans).result = .ok flags ∧
      ObeysSwitches r environment spans flags := by
  have hwon : ∀ run ∈ runs r (spans.zip (flags r environment .none spans)), ∀ switches,
      IsCut run switches → ∀ switch ∈ switches, WonByFirst r environment switch := by
    intro run hrun switches hcut switch hswitch
    rw [isCut_iff.1 hcut] at hswitch
    exact wonByFirst_of_mem_runs hknown hrun hswitch
  exact ⟨_, result_resolveFrom environment hknown .none, {
    blocks := existsUnique_mem_table_iff (length_flags _ _ _ _)
    free := fun d start stop active hmem hgated =>
      active_iff_of_not_isGated (hknown d start stop (List.of_mem_zip hmem).1) hgated hmem
    cut := fun run _ => ⟨_, isCut_iff.2 rfl, fun _ => isCut_iff.1⟩
    won := hwon
    single := fun run hrun switches hcut switch hswitch =>
      (hwon run hrun switches hcut switch hswitch).pairwise
    winner := fun run hrun switches hcut switch hswitch =>
      (hwon run hrun switches hcut switch hswitch).exists_active_iff }⟩

end

end Activation

namespace Rivals

/-- A block that keeps its body for the targets. -/
def gated (targets : List String) : Span :=
  .block
    { kind := "remove".toList
      targets := targets.map String.toList
      params := []
      bodyLines := []
      startLine := 1
      endLine := 1
      openMarker := []
      closeMarker := [] } 0 0

/-- Three switches: the third block has the targets of the first one, and text stands before the
last one. -/
def rivals : List Span :=
  [gated ["dev"], .text ['\n'], gated ["prod", "dev"], gated ["dev", "dev"], gated ["prod"],
    .text ['x'], gated ["dev", "prod"]]

theorem known_rivals :
    ∀ d start stop, Span.block d start stop ∈ rivals → Registry.initial.find? d.kind ≠ none := by
  intro d start stop hd
  simp only [rivals, gated, List.mem_cons, Span.block.injEq, reduceCtorEq, false_or,
    List.not_mem_nil, or_false] at hd
  rcases hd with ⟨rfl, -⟩ | ⟨rfl, -⟩ | ⟨rfl, -⟩ | ⟨rfl, -⟩ | ⟨rfl, -⟩ <;> decide

end Rivals

namespace Activation

theorem result_resolve_obeysSwitches_of_rivals :
    (∀ d start stop, Span.block d start stop ∈ Rivals.rivals →
        Registry.initial.find? d.kind ≠ none) ∧
      ObeysSwitches .initial (some "dev".toList) Rivals.rivals
        [true, false, false, true, false, false, true] := by
  obtain ⟨flags, hflags, hobeys⟩ :=
    result_resolve_obeysSwitches (some "dev".toList) Rivals.known_rivals
  have hresult : (resolve .initial (some "dev".toList) Rivals.rivals).result =
      .ok [true, false, false, true, false, false, true] := by
    rw [resolve, result_resolveFrom _ Rivals.known_rivals]
    rfl
  rw [hresult] at hflags
  cases hflags
  exact ⟨Rivals.known_rivals, hobeys⟩

end Activation
end BuildBlocks
