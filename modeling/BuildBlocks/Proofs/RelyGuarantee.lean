import BuildBlocks.Proofs.DiskChanges
import BuildBlocks.Proofs.Script

/-!
# Scripts among others

What a script does while others change its disk is stated by what the others may do between its
accesses (the rely) and what its own accesses do (the guarantee): `Script.Sure`.

## The architecture

* **`Sure.bind`**, **`Sure.mono`**, **`Sure.and_invariant`**, **`Sure.of_rely`**: what is sure of a
  script from what is sure of its parts, whatever the rely and the guarantee.
* **`Ignores.sure`**: a script whose accesses are told the same whatever the others do ends as if it
  ran alone.
-/

namespace BuildBlocks
namespace Access

variable {disk : Disk} {a : Access} {place : Place} {e : Entry}

/-- An access that leaves files alone puts only folders, and only where nothing stands. -/
theorem Spares.put (h : a.Spares) (hput : (a.effect disk).2 = some (place, e)) :
    e = .folder ∧ disk.lookup? place = none := by
  cases a with
  | find p | resolve p | read p => cases hput
  | empty p | fill q content => exact h.elim
  | make p =>
    simp only [effect] at hput
    split at hput
    · next hlocate =>
      cases hput
      exact ⟨rfl, Disk.lookup?_of_locateBy_absent hlocate⟩
    all_goals cases hput

theorem Spares.grows (h : a.Spares) (disk : Disk) : Disk.Grows disk (a.after disk) := by
  unfold after
  split
  · exact .refl disk
  · next hput =>
    obtain ⟨rfl, hnone⟩ := h.put hput
    exact Disk.grows_set hnone

end Access

namespace Script

variable {α β : Type} {R G G' : Disk → Disk → Prop} {disk d : Disk} {s : Script α}

theorem Spares.grows (h : s.Spares) (disk : Disk) : Disk.Grows disk (s.alone disk).2 := by
  induction s generalizing disk with
  | done a => exact .refl disk
  | access a next ih => exact (h.1.grows disk).trans (ih _ (h.2 _) _)

/-- If the disk changes between accesses as `R` allows, then every access changes it as `G` allows,
and when the script is done, `Q` holds of the result and of the disk from then on. -/
def Sure (R G : Disk → Disk → Prop) (Q : α → Disk → Prop) : Script α → Disk → Prop
  | .done a, disk => ∀ d, R disk d → Q a d
  | .access a next, disk => ∀ d, R disk d →
    G d (a.after d) ∧ (next (a.answer d)).Sure R G Q (a.after d)

namespace Sure

variable {Q Q' : α → Disk → Prop}

/-- What is sure stays so while the disk changes. -/
theorem of_rely (htrans : ∀ d d' d'', R d d' → R d' d'' → R d d'') (h : s.Sure R G Q disk)
    (hrely : R disk d) : s.Sure R G Q d := by
  cases s with
  | done a => exact fun d' hd' => h d' (htrans _ _ _ hrely hd')
  | access a next => exact fun d' hd' => h d' (htrans _ _ _ hrely hd')

theorem mono (hG : ∀ d d', G d d' → G' d d') (hQ : ∀ a d, Q a d → Q' a d)
    (h : s.Sure R G Q disk) : s.Sure R G' Q' disk := by
  induction s generalizing disk with
  | done a => exact fun d hd => hQ a d (h d hd)
  | access a next ih => exact fun d hd => ⟨hG _ _ (h d hd).1, ih _ (h d hd).2⟩

/-- A script that goes on with what another one is sure of from its end on. -/
theorem bind {f : α → Script β} {Q' : β → Disk → Prop} (h : s.Sure R G Q disk)
    (hf : ∀ a d, (∀ d', R d d' → Q a d') → (f a).Sure R G Q' d) :
    (s.bind f).Sure R G Q' disk := by
  induction s generalizing disk with
  | done a => exact hf a disk h
  | access a next ih => exact fun d hd => ⟨(h d hd).1, ih _ (h d hd).2⟩

/-- What neither the others nor the accesses of the script break holds at its end. -/
theorem and_invariant {P : Disk → Prop} (hrely : ∀ d d', P d → R d d' → P d')
    (hguarantee : ∀ d d', P d → G d d' → P d') (h : s.Sure R G Q disk) (hP : P disk) :
    s.Sure R G (fun a d => Q a d ∧ P d) disk := by
  induction s generalizing disk with
  | done a => exact fun d hd => ⟨h d hd, hrely _ _ hP hd⟩
  | access a next ih =>
    exact fun d hd => ⟨(h d hd).1, ih _ (h d hd).2 (hguarantee _ _ (hrely _ _ hP hd) (h d hd).1)⟩

end Sure

/-- Every access of the script, run alone, finds out and does the same on every disk to which the
others may have changed the disk. -/
def Ignores (R : Disk → Disk → Prop) : Script α → Disk → Prop
  | .done _, _ => True
  | .access a next, disk => (∀ d, R disk d → a.effect d = a.effect disk) ∧
    (next (a.answer disk)).Ignores R (a.after disk)

theorem ignores_bind_iff {f : α → Script β} : (s.bind f).Ignores R disk ↔
    s.Ignores R disk ∧ (f (s.alone disk).1).Ignores R (s.alone disk).2 := by
  induction s generalizing disk with
  | done a => exact (true_and _).to_iff.symm
  | access a next ih => exact (and_congr_right fun _ => ih _).trans and_assoc.symm

/-- **A script that ignores the others** ends with the result that it has alone, if it leaves all
files as they are. -/
theorem Ignores.sure {makes opens : Place → Prop} (makes' opens' : Place → Prop)
    (h : s.Ignores (Disk.Changes makes opens) disk) (hspares : s.Spares)
    (hmakes : ∀ place, (s.alone disk).2.lookup? place = some .folder → makes' place)
    (hchanges : Disk.Changes makes opens disk d) :
    s.Sure (Disk.Changes makes opens) (Disk.Changes makes' opens')
      (fun a d => a = (s.alone disk).1 ∧ Disk.Changes makes opens (s.alone disk).2 d) d := by
  induction s generalizing disk d with
  | done a => exact fun d' hd' => ⟨rfl, hchanges.trans hd'⟩
  | access a next ih =>
    intro d' hd'
    have hchanges := hchanges.trans hd'
    have heffect := h.1 d' hchanges
    have hgrows := (hspares.2 (a.answer disk)).grows (a.after disk)
    have hanswer : a.answer d' = a.answer disk := congrArg Prod.fst heffect
    -- what the access puts, it puts on both disks
    have hafter : Disk.Changes makes' opens' d' (a.after d') ∧
        Disk.Changes makes opens (a.after disk) (a.after d') := by
      cases hput : (a.effect disk).2 with
      | none =>
        rw [Access.after, Access.after, heffect, hput]
        exact ⟨.refl d', hchanges⟩
      | some put =>
        obtain ⟨place, e⟩ := put
        obtain ⟨rfl, hnone⟩ := hspares.1.put (heffect ▸ hput)
        have hplace := Disk.ne_nil_of_lookup?_eq_none hnone
        have hmade : (a.after disk).lookup? place = some .folder := by
          rw [Access.after, hput]
          exact (Disk.lookup?_set _ _ _ _ hplace).trans (if_pos rfl)
        have hfolder := hmakes place (hgrows.lookup?_eq_some hmade)
        rw [Access.after, Access.after, heffect, hput]
        exact ⟨.set_folder hfolder hnone, hchanges.set hplace⟩
    refine ⟨hafter.1, ?_⟩
    rw [hanswer]
    exact ih _ h.2 (hspares.2 _) hmakes hafter.2

end Script
end BuildBlocks
