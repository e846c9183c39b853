import BuildBlocks.Proofs.ListsAndResults
import BuildBlocks.Proofs.Switches

/-!
# Blocks that do not compete

A switch keeps a block from being active if an earlier block of the switch applies. Between blocks
whose targets are the same or have nothing in common this never happens, however often the same
targets return in a run and start new switches: every block is active if it applies by itself
(`Activation.result_resolve_of_compatible`).

## The architecture

* **`pairwise_of_mem_runs`**: gated blocks of one run are blocks of the page that nothing separates.
* **`not_disjointTargets_of_applies`**: blocks that apply in the same environment share it as a
  target, or name no targets at all.
-/

namespace BuildBlocks

namespace Activation

variable {r : Registry} {environment : Option Text} {spans : List Span}

/-- Gated blocks that nothing separates have the same targets, or none in common. -/
def Compatible (r : Registry) (spans : List Span) : Prop :=
  ∀ before d start stop between d' start' stop' after,
    spans = before ++ .block d start stop :: between ++ .block d' start' stop' :: after →
      r.isGated d.kind = true → r.isGated d'.kind = true →
        (∀ span ∈ between, endsRun r span = false) → SameTargets d d' ∨ DisjointTargets d d'

theorem gatedVerdict?_eq_some_iff {x : Span × Bool} {v : Verdict} :
    gatedVerdict? r x = some v ↔
      ∃ start stop, x = (.block v.1 start stop, v.2) ∧ r.isGated v.1.kind = true := by
  obtain ⟨span, active⟩ := x
  obtain ⟨d, active'⟩ := v
  cases span with
  | text t => simp [gatedVerdict?]
  | block d' start stop =>
    simp only [gatedVerdict?, Option.ite_none_right_eq_some, Option.some.injEq, Prod.mk.injEq,
      Span.block.injEq]
    constructor
    · rintro ⟨hgated, rfl, rfl⟩
      exact ⟨start, stop, ⟨⟨rfl, rfl, rfl⟩, rfl⟩, hgated⟩
    · rintro ⟨_, _, ⟨⟨rfl, -, -⟩, rfl⟩, hgated⟩
      exact ⟨hgated, rfl, rfl⟩

/-- All gated blocks stand in the runs, in order. -/
theorem flatten_runs (judged : List (Span × Bool)) :
    (runs r judged).flatten = judged.filterMap (gatedVerdict? r) := by
  induction judged with
  | nil => rfl
  | cons x judged ih =>
    obtain ⟨span, active⟩ := x
    obtain ⟨run, others, hruns⟩ := List.exists_cons_of_ne_nil (runs_ne_nil (r := r) judged)
    rw [runs_cons, List.filterMap_cons, ← ih, hruns]
    cases span with
    | text t =>
      show (ite _ _ _ : List (List Verdict)).flatten = _
      split <;> rfl
    | block d start stop =>
      rw [endsRun, gatedVerdict?]
      cases r.isGated d.kind <;> rfl

/-- The blocks of a run are gated blocks of the page, and nothing separates them. -/
theorem pairwise_of_mem_runs (h : Compatible r spans) {flags : List Bool}
    (hlength : flags.length = spans.length) {run : List Verdict}
    (hrun : run ∈ runs r (spans.zip flags)) :
    run.Pairwise fun v v' => SameTargets v.1 v'.1 ∨ DisjointTargets v.1 v'.1 := by
  obtain ⟨part, hpart, rfl⟩ := List.mem_map.1 hrun
  obtain ⟨first, others, hparts⟩ := List.exists_cons_of_ne_nil
    (List.splitOnP_ne_nil (fun x => endsRun r x.1) (spans.zip flags))
  -- a run is a stretch of the page with no end of a run in it
  have hstretch : part <:+: spans.zip flags ∧ ∀ x ∈ part, endsRun r x.1 = false := by
    obtain ⟨hfirst, hothers⟩ := prefix_of_splitOnP hparts
    rw [hparts, List.mem_cons] at hpart
    rcases hpart with rfl | hpart
    · exact ⟨hfirst.1.isInfix, hfirst.2⟩
    · exact hothers part hpart
  obtain ⟨⟨left, right, hpage⟩, hfree⟩ := hstretch
  refine List.pairwise_filterMap.2 (pairwise_of_forall_append fun before x between y after heq => ?_)
  intro v hv v' hv'
  obtain ⟨start, stop, rfl, hgated⟩ := gatedVerdict?_eq_some_iff.1 hv
  obtain ⟨start', stop', rfl, hgated'⟩ := gatedVerdict?_eq_some_iff.1 hv'
  have hspans : (spans.zip flags).map Prod.fst = spans := List.map_fst_zip hlength.ge
  refine h ((left ++ before).map Prod.fst) _ start stop (between.map Prod.fst) _ start' stop'
    ((after ++ right).map Prod.fst) ?_ hgated hgated' fun span hspan => ?_
  · rw [← hspans, ← hpage, heq]
    simp
  · obtain ⟨x, hx, rfl⟩ := List.mem_map.1 hspan
    exact hfree x (by rw [heq]; simp [hx])

/-! ## Blocks that apply -/

/-- A gated block applies if it names the environment, or if neither is there. -/
theorem applies_iff_of_isGated {d : Directive} (hgated : r.isGated d.kind = true) :
    Applies r environment d ↔
      (environment = none ∧ d.targets = []) ∨ ∃ e ∈ environment, e ∈ d.targets := by
  obtain ⟨b, hb⟩ : ∃ b, r.find? d.kind = some b := by
    rw [Registry.isGated] at hgated
    cases hfind : r.find? d.kind with
    | none =>
      rw [hfind] at hgated
      cases hgated
    | some b => exact ⟨b, rfl⟩
  rw [isGated_eq hb] at hgated
  rw [applies_iff hb, appliesTo, hgated]
  cases environment with
  | none => cases d.targets <;> simp
  | some e => cases d.targets <;> simp

/-- Blocks that apply in the same environment name it both, or name none. -/
theorem not_disjointTargets_of_applies {d d' : Directive} (hd : Applies r environment d)
    (hd' : Applies r environment d') (hgated : r.isGated d.kind = true)
    (hgated' : r.isGated d'.kind = true) (hother : ¬ SameTargets d d') : ¬ DisjointTargets d d' := by
  rcases (applies_iff_of_isGated hgated).1 hd with ⟨rfl, htargets⟩ | ⟨e, he, htarget⟩
  · rcases (applies_iff_of_isGated hgated').1 hd' with ⟨-, htargets'⟩ | ⟨e', he', -⟩
    · exact absurd (fun t => by rw [htargets, htargets']) hother
    · cases he'
  · rcases (applies_iff_of_isGated hgated').1 hd' with ⟨rfl, -⟩ | ⟨e', he', htarget'⟩
    · cases he
    · cases Option.mem_unique he he'
      exact fun hdisjoint => hdisjoint e htarget htarget'

/-- A block that applies is not kept from being active in a switch that is won by the first one. -/
theorem WonByFirst.active_iff {switch : List Verdict} (hwon : WonByFirst r environment switch)
    (hgated : ∀ v ∈ switch, r.isGated v.1.kind = true)
    (happart : switch.Pairwise fun v v' => ¬ SameTargets v.1 v'.1)
    (hcompatible : switch.Pairwise fun v v' => SameTargets v.1 v'.1 ∨ DisjointTargets v.1 v'.1)
    {v : Verdict} (hv : v ∈ switch) : v.2 = true ↔ Applies r environment v.1 := by
  obtain ⟨before, after, rfl⟩ := List.mem_iff_append.1 hv
  rw [hwon before v after rfl]
  refine and_iff_left_of_imp fun happlies u hu happlies' => ?_
  have hu' : u ∈ before ++ v :: after := List.mem_append_left _ hu
  have hother := (List.pairwise_append.1 happart).2.2 u hu v List.mem_cons_self
  have heither := (List.pairwise_append.1 hcompatible).2.2 u hu v List.mem_cons_self
  exact not_disjointTargets_of_applies happlies' happlies (hgated u hu') (hgated v hv) hother
    (heither.resolve_left hother)

/-- **Switches never decide between independent blocks.** If gated blocks that nothing separates have
the same targets or none in common, every block of a page is active just if it applies by itself, in
every environment. -/
theorem result_resolve_of_compatible (environment : Option Text)
    (hknown : ∀ d start stop, Span.block d start stop ∈ spans → r.find? d.kind ≠ none)
    (hcompatible : Compatible r spans) :
    ∃ flags, (resolve r environment spans).result = .ok flags ∧ flags.length = spans.length ∧
      ∀ d start stop active, (Span.block d start stop, active) ∈ spans.zip flags →
        isActive r environment d = .ok active := by
  have hlength := length_flags r environment .none spans
  refine ⟨_, result_resolveFrom environment hknown .none, hlength,
    fun d start stop active hmem => ?_⟩
  have hd := hknown d start stop (List.of_mem_zip hmem).1
  have hactive : active = true ↔ Applies r environment d := by
    cases hgated : r.isGated d.kind with
    | false => exact active_iff_of_not_isGated hd hgated hmem
    | true =>
      -- the block stands in a switch of a run
      have hverdict : (d, active) ∈
          (runs r (spans.zip (flags r environment .none spans))).flatten := by
        rw [flatten_runs]
        exact List.mem_filterMap.2 ⟨_, hmem, gatedVerdict?_eq_some_iff.2 ⟨start, stop, rfl, hgated⟩⟩
      obtain ⟨run, hrun, hinRun⟩ := List.mem_flatten.1 hverdict
      have hcut : IsCut run (switchesFrom [] run) := isCut_iff.2 rfl
      rw [← hcut.flatten] at hinRun
      obtain ⟨switch, hswitch, hinSwitch⟩ := List.mem_flatten.1 hinRun
      have hsublist : switch.Sublist run := hcut.flatten ▸ List.sublist_flatten_of_mem hswitch
      refine (wonByFirst_of_mem_runs hknown hrun hswitch).active_iff (fun v hv => ?_)
        (hcut.apart switch hswitch) ((pairwise_of_mem_runs hcompatible hlength hrun).sublist hsublist)
        hinSwitch
      have hv' := List.mem_flatten.2 ⟨run, hrun, hsublist.subset hv⟩
      rw [flatten_runs] at hv'
      obtain ⟨x, -, hx⟩ := List.mem_filterMap.1 hv'
      obtain ⟨-, -, -, hvgated⟩ := gatedVerdict?_eq_some_iff.1 hx
      exact hvgated
  obtain ⟨b, hb⟩ := Option.ne_none_iff_exists'.1 hd
  rw [applies_iff hb, ← Bool.eq_iff_iff] at hactive
  rw [isActive, Registry.resolve, hb, hactive]
  rfl

end Activation

namespace Returning

open Rivals

/-- Blocks for two environments and for none, which return in one run. -/
def returning : List Span :=
  [gated ["dev"], gated ["prod"], .text [' '], gated ["dev"], gated [], gated ["prod"], gated []]

theorem of_mem_returning {d : Directive} {start stop : Nat}
    (h : Span.block d start stop ∈ returning) :
    d.kind = "remove".toList ∧
      (d.targets = ["dev".toList] ∨ d.targets = ["prod".toList] ∨ d.targets = []) := by
  simp only [returning, gated, List.mem_cons, Span.block.injEq, reduceCtorEq, false_or,
    List.not_mem_nil, or_false] at h
  rcases h with ⟨rfl, -⟩ | ⟨rfl, -⟩ | ⟨rfl, -⟩ | ⟨rfl, -⟩ | ⟨rfl, -⟩ | ⟨rfl, -⟩ <;> simp

theorem known_returning :
    ∀ d start stop, Span.block d start stop ∈ returning → Registry.initial.find? d.kind ≠ none := by
  intro d start stop hd
  rw [(of_mem_returning hd).1]
  decide

theorem compatible_returning : Activation.Compatible .initial returning := by
  intro before d start stop between d' start' stop' after heq _ _ _
  have hd := (@of_mem_returning d start stop (by simp [heq])).2
  have hd' := (@of_mem_returning d' start' stop' (by simp [heq])).2
  simp only [Activation.SameTargets, Activation.DisjointTargets]
  rcases hd with hd | hd | hd <;> rcases hd' with hd' | hd' | hd' <;> simp [hd, hd']

end Returning

namespace Activation

/-- Without an environment the two blocks without targets are active, though they stand in one run. -/
theorem result_resolve_of_compatible_of_returning :
    (∀ d start stop, Span.block d start stop ∈ Returning.returning →
        Registry.initial.find? d.kind ≠ none) ∧
      Compatible .initial Returning.returning ∧
        (resolve .initial none Returning.returning).result =
            .ok [false, false, false, false, true, false, true] ∧
          ∀ d start stop active,
            (Span.block d start stop, active) ∈
                Returning.returning.zip [false, false, false, false, true, false, true] →
              isActive .initial none d = .ok active := by
  obtain ⟨flags, hflags, -, hactive⟩ :=
    result_resolve_of_compatible none Returning.known_returning Returning.compatible_returning
  have hresult : (resolve .initial none Returning.returning).result =
      .ok [false, false, false, false, true, false, true] := by
    rw [resolve, result_resolveFrom _ Returning.known_returning]
    rfl
  rw [hresult] at hflags
  cases hflags
  exact ⟨Returning.known_returning, Returning.compatible_returning, hresult, hactive⟩

end Activation
end BuildBlocks
