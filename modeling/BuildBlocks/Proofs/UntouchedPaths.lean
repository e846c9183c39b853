import BuildBlocks.Proofs.DiskAccess
import BuildBlocks.Proofs.RelyGuarantee
import BuildBlocks.Proofs.Ways

/-!
# Paths that lead away from what changes

An access is told the same whatever the others do if its path leads to a place that they leave alone
(`Access.Avoids`). So a script that only looks at such places ignores the others
(`Script.Avoids.ignores`).
-/

namespace BuildBlocks
namespace Disk

variable {model disk : Disk} {follow : Bool} {p : Path} {loc : Located}

/-- Resolving a path depends on the links of a disk only. -/
theorem expand_eq_of_links
    (hlinks : ∀ q target, disk.lookup? q = some (.link target) ↔ model.lookup? q = some (.link target))
    (done : List (Place × Place)) (met : List Place) (place : Place) (steps : List Step) :
    disk.expand done met place steps = model.expand done met place steps := by
  -- the two disks only meet in the question whether a link stands at a place
  fun_induction expand model done met place steps with
  | case1 => rw [expand]
  | case2 _ _ _ _ _ ih => rw [expand, ih]
  | case3 _ _ _ _ ih => rw [expand, if_pos rfl, ih]
  | case4 _ _ _ _ _ hup next target hlink known hknown ih =>
    rw [expand_name hup, (hlinks _ _).2 hlink]
    simp only [next] at hknown
    simp only [hknown, ih]
  | case5 _ _ _ _ _ hup next target hlink hunknown hmet =>
    rw [expand_name hup, (hlinks _ _).2 hlink]
    simp only [next] at hunknown hmet
    simp only [hunknown, if_pos hmet, next]
  | case6 _ _ _ _ _ hup next target hlink hunknown hmet start ih =>
    rw [expand_name hup, (hlinks _ _).2 hlink]
    simp only [next] at hunknown hmet
    simp only [hunknown, if_neg hmet]
    exact ih
  | case7 _ _ _ _ _ hup next hnot ih =>
    rw [expand_name hup]
    split
    · next hlink => exact absurd ((hlinks _ _).1 hlink) (hnot _)
    · exact ih

theorem resolvePlace_of_fits (hfits : Fits model disk) (p : Path) :
    disk.resolvePlace p = model.resolvePlace p := by
  rw [resolvePlace, resolvePlace, start, start, hfits.here]
  exact expand_eq_of_links hfits.link_iff _ _ _ _

/-- A path that leads to a place where the same stands leads to the same. -/
theorem locate_of_covers (hcovers : Covers model disk) (hhere : Reached disk disk.here)
    (h : model.locate p = .ok loc) (hsame : disk.lookup? loc.place = model.lookup? loc.place) :
    disk.locate p = model.locate p := by
  have hfound : disk.locate p = .ok (disk.found loc.place) := locateBy_of_covers hcovers hhere h
  have hplace : disk.found loc.place = model.found loc.place := by rw [found, found, hsame]
  rw [hfound, hplace, ← eq_found_of_locateBy h, h]

/-- A path that can be resolved to something is resolved to the same. -/
theorem resolve_of_covers (hcovers : Covers model disk) (hhere : Reached disk disk.here)
    (h : model.locate (.absolute (model.resolvePlace p)) = .ok loc) :
    disk.resolve p = model.resolve p := by
  have hfound : disk.locate (.absolute (model.resolvePlace p)) = .ok (disk.found loc.place) :=
    locateBy_of_covers hcovers hhere h
  rw [resolve, resolve, resolvePlace_of_fits hcovers.toFits]
  dsimp only
  rw [h, hfound]

end Disk

open Disk

namespace Access

variable {model disk : Disk} {a : Access} {makes opens : Place → Prop}

/-- An access that only looks, by a path that leads to none of the places. -/
def Avoids (places : Place → Prop) (disk : Disk) : Access → Prop
  | .find p | .read p => ∃ loc, disk.locate p = .ok loc ∧ ¬ places loc.place
  | .resolve p => ∃ loc, disk.locate (.absolute (disk.resolvePlace p)) = .ok loc
  | .make _ | .empty _ | .fill _ _ => False

theorem Avoids.after {places : Place → Prop} (h : a.Avoids places disk) : a.after disk = disk := by
  cases a with
  | find | read | resolve => rfl
  | make | empty | fill => exact h.elim

theorem Avoids.effect (h : a.Avoids (fun place => makes place ∨ opens place) model)
    (hhere : Reached model model.here) (hopens : ∀ place, opens place → Plain model place)
    (hchanges : Changes makes opens model disk) : a.effect disk = a.effect model := by
  have hcovers := (Grows.refl model).covers.changes hopens hchanges
  have hhere := hcovers.reached hhere
  have hlocate {p : Path} (h : ∃ loc, model.locate p = .ok loc ∧
      ¬ (makes loc.place ∨ opens loc.place)) : disk.locate p = model.locate p := by
    obtain ⟨loc, hloc, hnot⟩ := h
    have hsame := hchanges.lookup?_eq (fun hm => hnot (.inl hm)) fun ho => hnot (.inr ho)
    exact locate_of_covers hcovers hhere hloc hsame
  cases a with
  | find p => rw [Access.effect, Access.effect, find?, find?, hlocate h]
  | read p => rw [Access.effect, Access.effect, readBytes, readBytes, hlocate h]
  | resolve p =>
    obtain ⟨loc, hloc⟩ := h
    rw [Access.effect, Access.effect, resolve_of_covers hcovers hhere hloc]
  | make | empty | fill => exact h.elim

end Access

namespace Script

variable {α β : Type} {disk : Disk} {s : Script α} {places : Place → Prop}

/-- All accesses that the script makes alone only look, by paths that lead to none of the places. -/
def Avoids (places : Place → Prop) : Script α → Disk → Prop
  | .done _, _ => True
  | .access a next, disk => a.Avoids places disk ∧ (next (a.answer disk)).Avoids places disk

theorem Avoids.bind {f : α → Script β} (hs : s.Avoids places disk)
    (hf : (f (s.alone disk).1).Avoids places disk) : (s.bind f).Avoids places disk := by
  induction s with
  | done a => exact hf
  | access a next ih =>
    have ha : a.Avoids places disk := hs.1
    refine ⟨ha, ih _ hs.2 ?_⟩
    rw [alone, ha.after] at hf
    exact hf

/-- **A script that looks at none of the places** ignores what the others do there. -/
theorem Avoids.ignores {makes opens : Place → Prop}
    (h : s.Avoids (fun place => makes place ∨ opens place) disk) (hhere : Reached disk disk.here)
    (hopens : ∀ place, opens place → Plain disk place) :
    s.Ignores (Changes makes opens) disk := by
  induction s with
  | done a => trivial
  | access a next ih =>
    have ha : a.Avoids (fun place => makes place ∨ opens place) disk := h.1
    refine ⟨fun d hd => ha.effect hhere hopens hd, ?_⟩
    rw [ha.after]
    exact ih _ h.2

end Script
end BuildBlocks
