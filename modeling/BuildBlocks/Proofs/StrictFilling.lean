import BuildBlocks.Proofs.Filling

/-!
# Strict filling

A strict run differs from a permissive one in a single respect: a placeholder that leads nowhere ends
it. Where the placeholders are, and what the others become, is the same in both. So a strict run that
comes through gives what the permissive run gives, and one that does not reports the first match
that leads nowhere, with its line in the template (`strict_interpolate_agrees`).

## The architecture

* **`Placeholder.result_fill_of_leadsTo`**, **`Placeholder.result_fill_of_leadsNowhere`**: the runs
  agree at a placeholder that leads somewhere, and part at one that does not.
* **`Segment.strict_or_unresolved`**: so the runs over a list of segments agree up to the first
  placeholder that leads nowhere.
* **`placeholders_cutAt`**: the placeholders of the segments are the chosen matches, with their
  lines.
-/

namespace BuildBlocks

open Expression
open Pattern (inBraces)

variable {ds : List Delimiter} {strict : Bool} {file : Option Text} {data : Value}

namespace Expression

theorem LeadsNowhere.not_leadsTo {expression : Text} (h : LeadsNowhere data expression) (v : Value) :
    ¬ LeadsTo data expression v := by
  intro hlead
  obtain ⟨keys, hparse, hlookup⟩ := hlead
  rcases h with hnone | ⟨keys', hparse', hlookup'⟩
  · cases hnone.symm.trans hparse
  · cases hparse.symm.trans hparse'
    cases hlookup.symm.trans hlookup'

end Expression

/-! ## One placeholder -/

namespace Placeholder

variable {p : Placeholder}

/-- The failure of a strict run at a placeholder that leads nowhere. -/
def unresolved (file : Option Text) (p : Placeholder) : Failure :=
  .fault (.unresolved (Text.trim p.expression) p.line ⟨file, none, some p.text⟩)

/-- What a run puts for a placeholder, from what the placeholder resolves to. -/
theorem result_fill :
    (p.fill strict file data).result = (p.resolve data).bind fun found =>
      match found with
      | some s => .ok s
      | none => if strict then .error (p.unresolved file) else .ok p.text := by
  rw [fill, Outcome.result_bind, Outcome.result_ofExcept]
  refine congrArg _ (funext fun found => ?_)
  cases found with
  | some s => rfl
  | none => cases strict <;> rfl

/-- Both runs put the same for a placeholder that leads somewhere. -/
theorem result_fill_of_leadsTo {v : Value} (h : LeadsTo data p.expression v) :
    (p.fill true file data).result = (p.fill false file data).result := by
  rw [result_fill, result_fill]
  cases hresolve : p.resolve data with
  | error e => rfl
  | ok found =>
    cases found with
    | some s => rfl
    | none => exact absurd h ((resolve_eq_ok_none_iff.1 hresolve).not_leadsTo v)

theorem result_fill_of_leadsNowhere (h : LeadsNowhere data p.expression) :
    (p.fill true file data).result = .error (p.unresolved file) := by
  rw [result_fill, resolve_eq_ok_none_iff.2 h]
  rfl

/-- A placeholder for which a run puts something leads somewhere or nowhere. -/
theorem leads_of_result_fill {r : Text} (h : (p.fill strict file data).result = .ok r) :
    (∃ v, LeadsTo data p.expression v) ∨ LeadsNowhere data p.expression := by
  rw [result_fill] at h
  obtain ⟨found, hresolve, -⟩ := bind_eq_ok_iff.1 h
  cases found with
  | some s =>
    obtain ⟨v, -, hlead, -⟩ := resolve_eq_ok_some_iff.1 hresolve
    exact .inl ⟨v, hlead⟩
  | none => exact .inr (resolve_eq_ok_none_iff.1 hresolve)

end Placeholder

/-! ## Segments in order -/

namespace Segment

variable {s : Segment} {ss : List Segment} {out : Text}

theorem result_fill_of_strict (h : (s.fill true file data).result = .ok out) :
    (s.fill false file data).result = .ok out := by
  cases s with
  | text t => exact h
  | placeholder p =>
    have hstrict : (p.fill true file data).result = .ok out := h
    show (p.fill false file data).result = .ok out
    rcases Placeholder.leads_of_result_fill hstrict with ⟨v, hlead⟩ | hnowhere
    · rw [← Placeholder.result_fill_of_leadsTo hlead, hstrict]
    · rw [Placeholder.result_fill_of_leadsNowhere hnowhere] at hstrict
      cases hstrict

/-- What a strict run comes through with is what the permissive run gives. -/
theorem result_fillAll_of_strict (h : (fillAll true file data ss).result = .ok out) :
    (fillAll false file data ss).result = .ok out := by
  induction ss generalizing out with
  | nil => exact h
  | cons s ss ih =>
    rw [result_fillAll_cons] at h
    obtain ⟨first, hfirst, hrest⟩ := bind_eq_ok_iff.1 h
    obtain ⟨rest, hfill, rfl⟩ := exists_of_map_eq_ok hrest
    rw [result_fillAll_cons, result_fill_of_strict hfirst, ih hfill]
    rfl

/-- A segment for which the permissive run puts something is put by the strict run too, or it is a
placeholder that leads nowhere. -/
theorem strict_or_unresolved_of_fill (h : (s.fill false file data).result = .ok out) :
    ((∀ p ∈ s.placeholder?, ∃ v, LeadsTo data p.expression v) ∧
        (s.fill true file data).result = .ok out) ∨
      ∃ p, s.placeholder? = some p ∧ LeadsNowhere data p.expression ∧
        (s.fill true file data).result = .error (p.unresolved file) := by
  cases s with
  | text t => exact .inl ⟨by simp [placeholder?], h⟩
  | placeholder p =>
    have hpermissive : (p.fill false file data).result = .ok out := h
    rcases Placeholder.leads_of_result_fill hpermissive with ⟨v, hlead⟩ | hnowhere
    · left
      refine ⟨fun q hq => ?_, ?_⟩
      · cases hq
        exact ⟨v, hlead⟩
      · show (p.fill true file data).result = .ok out
        rw [Placeholder.result_fill_of_leadsTo hlead, hpermissive]
    · right
      exact ⟨p, rfl, hnowhere, Placeholder.result_fill_of_leadsNowhere hnowhere⟩

/-- **Where the permissive run comes through**, the strict run gives the same if all placeholders lead
somewhere, and else it ends at the first one that leads nowhere. -/
theorem strict_or_unresolved (h : (fillAll false file data ss).result = .ok out) :
    ((∀ p ∈ ss.filterMap placeholder?, ∃ v, LeadsTo data p.expression v) ∧
        (fillAll true file data ss).result = .ok out) ∨
      ∃ before p after, ss.filterMap placeholder? = before ++ p :: after ∧
        (∀ q ∈ before, ∃ v, LeadsTo data q.expression v) ∧ LeadsNowhere data p.expression ∧
          (fillAll true file data ss).result = .error (p.unresolved file) := by
  induction ss generalizing out with
  | nil => exact .inl ⟨by simp, h⟩
  | cons s ss ih =>
    rw [result_fillAll_cons] at h
    obtain ⟨first, hfirst, hrest⟩ := bind_eq_ok_iff.1 h
    obtain ⟨rest, hfill, rfl⟩ := exists_of_map_eq_ok hrest
    have hsplit : (s :: ss).filterMap placeholder? =
        s.placeholder?.toList ++ ss.filterMap placeholder? := by
      rw [List.filterMap_cons]
      cases s.placeholder? <;> rfl
    rw [hsplit, result_fillAll_cons]
    rcases strict_or_unresolved_of_fill hfirst with ⟨hhere, hstrict⟩ | ⟨p, hp, hnowhere, hfail⟩
    · -- both runs go on, and what follows decides
      have hhere : ∀ q ∈ s.placeholder?.toList, ∃ v, LeadsTo data q.expression v := by simpa using hhere
      rw [hstrict]
      rcases ih hfill with ⟨hall, hsame⟩ | ⟨before, p, after, hlater, hbefore, hnowhere, hfail⟩
      · rw [hsame]
        exact .inl ⟨List.forall_mem_append.2 ⟨hhere, hall⟩, rfl⟩
      · rw [hfail, hlater, ← List.append_assoc]
        exact .inr ⟨_, p, after, rfl, List.forall_mem_append.2 ⟨hhere, hbefore⟩, hnowhere, rfl⟩
    · rw [hp, hfail]
      exact .inr ⟨[], p, _, rfl, by simp, hnowhere, rfl⟩

end Segment

/-! ## The placeholders of a template are the chosen matches -/

section Matches

variable {text : Text} {position : Nat} {m : Match} {ms : List Match}

theorem placeholders_cutBehind (hstart : m.start ≤ m.stop) (hstop : m.stop ≤ text.length)
    (hnext : Successive ds text m.next ms)
    (ih : m.next ≤ text.length →
      (cutAt ds text m.next).filterMap Segment.placeholder? = ms.map (·.placeholderIn text)) :
    (cutBehind ds text m).filterMap Segment.placeholder? = ms.map (·.placeholderIn text) := by
  unfold cutBehind
  split
  · next hlt =>
    have hbehind : m.next = m.stop := if_neg hlt.ne
    rw [hbehind] at ih
    exact ih hstop
  · next hempty =>
    have hbehind : m.next = m.stop + 1 := if_pos (by omega)
    split
    · next hinside => exact ih (by omega)
    · next hend =>
      -- nothing is looked for behind the end of the text
      cases hnext with
      | past => rfl
      | none hposition | next hposition => omega

theorem placeholders_cutAt (hds : ∀ d ∈ ds, d.InBounds) (h : Successive ds text position ms)
    (hposition : position ≤ text.length) :
    (cutAt ds text position).filterMap Segment.placeholder? = ms.map (·.placeholderIn text) := by
  induction h with
  | past hpast => omega
  | none _ hnone =>
    rw [cutAt_of_none (chosen?_eq_none_iff.2 hnone)]
    rfl
  | next _ hchosen hnext ih =>
    obtain ⟨-, hstart, hstop⟩ := hchosen.bounds hds hposition
    rw [cutAt_of_chosen (isChosen_iff.1 hchosen) hstop]
    show _ :: (cutBehind ds text _).filterMap Segment.placeholder? = _
    rw [placeholders_cutBehind hstart hstop hnext ih, List.map_cons]

end Matches

/-! ## Two runs -/

/-- **Strict and permissive runs agree** up to the first chosen match that leads nowhere, whatever the
delimiters are. -/
theorem strict_interpolate_agrees (hds : ∀ d ∈ ds, d.InBounds) (file : Option Text) (data : Value)
    (text : Text) :
    ∃ ms, Successive ds text 0 ms ∧ (∀ ms', Successive ds text 0 ms' → ms' = ms) ∧
      (∀ out, (interpolate ds true file data text).result = .ok out →
        (interpolate ds false file data text).result = .ok out) ∧
      ∀ out, (interpolate ds false file data text).result = .ok out →
        ((interpolate ds true file data text).result = .ok out ↔
          ∀ m ∈ ms, ∃ v, LeadsTo data (m.expressionIn text) v) ∧
        ((interpolate ds true file data text).result = .ok out ∨
          ∃ before m after, ms = before ++ m :: after ∧
            (∀ m' ∈ before, ∃ v, LeadsTo data (m'.expressionIn text) v) ∧
            LeadsNowhere data (m.expressionIn text) ∧
            (interpolate ds true file data text).result = .error (.fault (.unresolved
              (Text.trim (m.expressionIn text)) (1 + Text.newlines (text.take m.start) : Nat)
              ⟨file, none, some (m.textIn text)⟩))) := by
  obtain ⟨ms, hms⟩ : ∃ ms, Successive ds text 0 ms := exists_successive hds 0
  have hplaceholders : (Segment.cut ds text).filterMap Segment.placeholder? =
      ms.map (·.placeholderIn text) := placeholders_cutAt hds hms (Nat.zero_le _)
  refine ⟨ms, hms, fun ms' hms' => hms'.unique hms,
    fun out hout => Segment.result_fillAll_of_strict hout, fun out hout => ?_⟩
  have hcases := Segment.strict_or_unresolved hout
  rw [hplaceholders, List.forall_mem_map] at hcases
  rcases hcases with ⟨hall, hstrict⟩ | ⟨before, p, after, hsplit, hbefore, hnowhere, hfail⟩
  · exact ⟨⟨fun _ => hall, fun _ => hstrict⟩, .inl hstrict⟩
  · obtain ⟨before, rest, rfl, rfl, hrest⟩ := List.map_eq_append_iff.1 hsplit
    obtain ⟨m, after, rfl, rfl, rfl⟩ := List.map_eq_cons_iff.1 hrest
    rw [List.forall_mem_map] at hbefore
    have hfail : (interpolate ds true file data text).result =
        .error ((m.placeholderIn text).unresolved file) := hfail
    refine ⟨⟨fun hok => ?_, fun hall => ?_⟩, .inr ⟨before, m, after, rfl, hbefore, hnowhere, hfail⟩⟩
    · rw [hfail] at hok
      cases hok
    · obtain ⟨v, hlead⟩ := hall m (by simp)
      exact absurd hlead (hnowhere.not_leadsTo v)

/-- With the pattern of braces and a value for `a` only, the strict run ends at the placeholder on the
second line. -/
theorem strict_interpolate_agrees_of_braced :
    ∃ ms, Successive (Delimiters.toList ⟨.braced, none⟩)
        (inBraces ['a'] ++ '\n' :: inBraces ['b']) 0 ms ∧
      (interpolate (Delimiters.toList ⟨.braced, none⟩) false none
        (.mapping [(.text ['a'], .text ['1'])])
        (inBraces ['a'] ++ '\n' :: inBraces ['b'])).result = .ok ('1' :: '\n' :: inBraces ['b']) ∧
      ∃ before m after, ms = before ++ m :: after ∧
        (interpolate (Delimiters.toList ⟨.braced, none⟩) true none
          (.mapping [(.text ['a'], .text ['1'])])
          (inBraces ['a'] ++ '\n' :: inBraces ['b'])).result =
            .error (.fault (.unresolved ['b'] 2 ⟨none, none, some (inBraces ['b'])⟩)) := by
  obtain ⟨ms, hms, -, -, hstrict⟩ := strict_interpolate_agrees
    (Delimiters.inBounds ⟨.braced, none⟩) none (.mapping [(.text ['a'], .text ['1'])])
    (inBraces ['a'] ++ '\n' :: inBraces ['b'])
  have hcut : Segment.cut (Delimiters.toList ⟨.braced, none⟩)
      (inBraces ['a'] ++ '\n' :: inBraces ['b']) =
        [.text [], .placeholder ⟨inBraces ['a'], ['a'], 1, false⟩, .text ['\n'],
          .placeholder ⟨inBraces ['b'], ['b'], 2, false⟩, .text []] := by
    decide +kernel
  have hpermissive : (interpolate (Delimiters.toList ⟨.braced, none⟩) false none
      (.mapping [(.text ['a'], .text ['1'])])
      (inBraces ['a'] ++ '\n' :: inBraces ['b'])).result = .ok ('1' :: '\n' :: inBraces ['b']) := by
    decide +kernel
  have hfail : (interpolate (Delimiters.toList ⟨.braced, none⟩) true none
      (.mapping [(.text ['a'], .text ['1'])])
      (inBraces ['a'] ++ '\n' :: inBraces ['b'])).result =
        .error (.fault (.unresolved ['b'] 2 ⟨none, none, some (inBraces ['b'])⟩)) := by
    have hfirst : Placeholder.resolve (.mapping [(.text ['a'], .text ['1'])])
        ⟨inBraces ['a'], ['a'], 1, false⟩ = .ok (some ['1']) := by
      decide +kernel
    have hsecond : Placeholder.resolve (.mapping [(.text ['a'], .text ['1'])])
        ⟨inBraces ['b'], ['b'], 2, false⟩ = .ok none := by
      decide +kernel
    rw [interpolate, hcut]
    simp only [Segment.result_fillAll_cons, Segment.fill, Placeholder.result_fill, hfirst, hsecond]
    rfl
  rcases (hstrict _ hpermissive).2 with hok | ⟨before, m, after, hsplit, -⟩
  · cases hfail.symm.trans hok
  · exact ⟨ms, hms, hpermissive, before, m, after, hsplit, hfail⟩

end BuildBlocks
