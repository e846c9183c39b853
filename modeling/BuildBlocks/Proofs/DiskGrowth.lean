import BuildBlocks.Batch
import BuildBlocks.Proofs.DiskWalks

/-!
# Growing disks

Making the folders above an output changes a disk in one way only: folders come to be where nothing
stood (`Disk.Grows`). Files stay as they are, also when the folders cannot all be made.
-/

namespace BuildBlocks
namespace Disk

/-- The file at a place, if one stands there. -/
def fileAt? (disk : Disk) (place : Place) : Option Entry :=
  (disk.lookup? place).filter Entry.isFile

/-- The second disk is the first one with folders at some places where nothing stood. -/
structure Grows (d d' : Disk) : Prop where
  here : d'.here = d.here
  lookup : ∀ place, d'.lookup? place = d.lookup? place ∨
    d.lookup? place = none ∧ d'.lookup? place = some .folder

namespace Grows

variable {d d' d'' : Disk} {place : Place}

theorem refl (d : Disk) : Grows d d := ⟨rfl, fun _ => .inl rfl⟩

theorem trans (h : Grows d d') (h' : Grows d' d'') : Grows d d'' where
  here := h'.here.trans h.here
  lookup place := by
    rcases h.lookup place with heq | ⟨hnone, hfolder⟩
    · rcases h'.lookup place with heq' | ⟨hnone, hfolder⟩
      · exact .inl (heq'.trans heq)
      · exact .inr ⟨heq ▸ hnone, hfolder⟩
    · rcases h'.lookup place with heq' | ⟨hnone', -⟩
      · exact .inr ⟨hnone, heq'.trans hfolder⟩
      · rw [hfolder] at hnone'
        cases hnone'

/-- What stands at a place stays there. -/
theorem lookup?_eq_some (h : Grows d d') {e : Entry} (he : d.lookup? place = some e) :
    d'.lookup? place = some e := by
  rcases h.lookup place with heq | ⟨hnone, -⟩
  · exact heq.trans he
  · rw [he] at hnone
    cases hnone

/-- Files stay as they are. -/
theorem fileAt?_eq (h : Grows d d') (place : Place) : d'.fileAt? place = d.fileAt? place := by
  rcases h.lookup place with heq | ⟨hnone, hfolder⟩
  · rw [fileAt?, fileAt?, heq]
  · rw [fileAt?, fileAt?, hnone, hfolder]
    rfl

end Grows

section

variable {disk : Disk} {p : Path} {place : Place}

theorem ne_nil_of_lookup?_eq_none (h : disk.lookup? place = none) : place ≠ [] := by
  rintro rfl
  cases h

/-- A single folder is made where nothing stands. -/
theorem makeOneFolder_eq_ok_iff {made : Disk} : disk.makeOneFolder p = .ok made ↔
    ∃ place, disk.locateLast p = .ok (.absent place) ∧ made = disk.set place .folder := by
  unfold makeOneFolder
  split
  · next h => simp [h]
  · next h => simp [h, eq_comm]
  · next h => simp [h]

theorem grows_set (h : disk.lookup? place = none) : Grows disk (disk.set place .folder) where
  here := rfl
  lookup q := by
    rw [lookup?_set _ _ _ _ (ne_nil_of_lookup?_eq_none h)]
    split
    · next hq => exact .inr ⟨hq ▸ h, rfl⟩
    · exact .inl rfl

theorem grows_makeOneFolder {made : Disk} (h : disk.makeOneFolder p = .ok made) :
    Grows disk made := by
  obtain ⟨place, habsent, rfl⟩ := makeOneFolder_eq_ok_iff.1 h
  exact grows_set (lookup?_of_locateBy_absent habsent)

theorem grows_buildLast (disk : Disk) (p : Path) : Grows disk (disk.buildLast p).1 := by
  unfold buildLast
  split
  · next h => exact grows_makeOneFolder h
  all_goals exact .refl _

theorem grows_buildFolders (disk : Disk) (root : Text) (parts : List Text) :
    Grows disk (disk.buildFolders root parts).1 := by
  fun_induction buildFolders disk root parts with
  | case1 _ _ _ h => exact grows_makeOneFolder h
  | case2 | case5 => exact .refl _
  | case3 _ _ _ _ _ _ habove ih =>
    rw [habove] at ih
    exact ih
  | case4 _ _ _ _ _ habove ih =>
    rw [habove] at ih
    exact ih.trans (grows_buildLast _ _)

/-- **Making folders** does nothing else to a disk, whether it succeeds or not. -/
theorem grows_buildFolder (disk : Disk) (p : Path) : Grows disk (disk.buildFolder p).1 := by
  unfold buildFolder
  split
  · exact .refl _
  · exact grows_buildFolders _ _ _

theorem grows_of_buildFolder {built : Disk} {r : Except Failure Unit}
    (h : disk.buildFolder p = (built, r)) : Grows disk built := by
  have hgrows := grows_buildFolder disk p
  rwa [h] at hgrows

/-- A file is opened at a place that is not the root. -/
theorem ne_nil_of_writable (h : disk.writable p = .ok place) : place ≠ [] := by
  unfold writable at h
  split at h
  · cases h
  · split at h
    · next hlocate =>
      cases h
      rintro rfl
      cases lookup?_of_locateBy_present hlocate
    · next hlocate =>
      cases h
      rintro rfl
      cases lookup?_of_locateBy_present hlocate
    · next habsent =>
      cases h
      exact ne_nil_of_lookup?_eq_none (lookup?_of_locateBy_absent habsent)
    all_goals cases h

end

end Disk
end BuildBlocks
