import BuildBlocks.Proofs.DiskGrowth

/-!
# Disks that others change

While a job runs, other jobs make folders and open files on its disk (`Disk.Changes`). What matters to
a path is less than that: which links there are, and where folders stand.

## The architecture

* **`Changes`**: folders come to be at some places, files are opened or filled at others.
* **`Fits`**: a disk with the links of a first one, on which nothing but folders stands where the first
  one has folders. **`Covers`**: none of them is missing.
* **`Fits.changes`** and **`Covers.changes`**: both outlast all changes that open files at plain places
  only (`Plain`).
-/

namespace BuildBlocks
namespace Disk

/-! ## Changes -/

/-- The second disk is the first one with folders at some of the places `makes` where nothing stood,
and files at some of the places `opens`. -/
structure Changes (makes opens : Place → Prop) (d d' : Disk) : Prop where
  here : d'.here = d.here
  lookup : ∀ place, d'.lookup? place = d.lookup? place ∨
    (makes place ∧ d.lookup? place = none ∧ d'.lookup? place = some .folder) ∨
    (opens place ∧ ∃ content, d'.lookup? place = some (.file content))

namespace Changes

variable {makes opens makes' opens' : Place → Prop} {d d' d'' : Disk} {place : Place} {e : Entry}

theorem refl (d : Disk) : Changes makes opens d d := ⟨rfl, fun _ => .inl rfl⟩

theorem trans (h : Changes makes opens d d') (h' : Changes makes opens d' d'') :
    Changes makes opens d d'' where
  here := h'.here.trans h.here
  lookup place := by
    rcases h'.lookup place with hsame' | ⟨hmakes', hnone', hfolder'⟩ | hopened'
    · rw [hsame']
      exact h.lookup place
    · rcases h.lookup place with hsame | ⟨-, -, hfolder⟩ | ⟨-, content, hfile⟩
      · exact .inr (.inl ⟨hmakes', hsame ▸ hnone', hfolder'⟩)
      · rw [hfolder] at hnone'
        cases hnone'
      · rw [hfile] at hnone'
        cases hnone'
    · exact .inr (.inr hopened')

theorem mono (hmakes : ∀ place, makes place → makes' place)
    (hopens : ∀ place, opens place → opens' place) (h : Changes makes opens d d') :
    Changes makes' opens' d d' where
  here := h.here
  lookup place := (h.lookup place).imp id
    (.imp (fun hmade => ⟨hmakes _ hmade.1, hmade.2⟩) fun hopened => ⟨hopens _ hopened.1, hopened.2⟩)

/-- The same entry put on both disks. -/
theorem set (h : Changes makes opens d d') (hplace : place ≠ []) :
    Changes makes opens (d.set place e) (d'.set place e) where
  here := h.here
  lookup q := by
    rw [lookup?_set _ _ _ _ hplace, lookup?_set _ _ _ _ hplace]
    split
    · exact .inl rfl
    · exact h.lookup q

theorem set_folder (hmakes : makes place) (hnone : d.lookup? place = none) :
    Changes makes opens d (d.set place .folder) where
  here := rfl
  lookup q := by
    rw [lookup?_set _ _ _ _ (ne_nil_of_lookup?_eq_none hnone)]
    split
    · next hq => exact .inr (.inl ⟨hq ▸ hmakes, hq ▸ hnone, rfl⟩)
    · exact .inl rfl

theorem set_file {content : Bytes} (hopens : opens place) (hplace : place ≠ []) :
    Changes makes opens d (d.set place (.file content)) where
  here := rfl
  lookup q := by
    rw [lookup?_set _ _ _ _ hplace]
    split
    · next hq => exact .inr (.inr ⟨hq ▸ hopens, content, rfl⟩)
    · exact .inl rfl

/-- What stands at a place where no file is opened stays there. -/
theorem lookup?_eq_some (h : Changes makes opens d d') (hnot : ¬ opens place)
    (he : d.lookup? place = some e) : d'.lookup? place = some e := by
  rcases h.lookup place with hsame | ⟨-, hnone, -⟩ | ⟨hopens, -⟩
  · exact hsame.trans he
  · rw [he] at hnone
    cases hnone
  · exact absurd hopens hnot

/-- Nothing changes where nothing is made or opened. -/
theorem lookup?_eq (h : Changes makes opens d d') (hmakes : ¬ makes place)
    (hopens : ¬ opens place) : d'.lookup? place = d.lookup? place := by
  rcases h.lookup place with hsame | ⟨hmade, -⟩ | ⟨hopened, -⟩
  · exact hsame
  · exact absurd hmade hmakes
  · exact absurd hopened hopens

end Changes

/-! ## Links and folders -/

/-- The second disk has the links of the first one, and nothing but folders stands on it where the
first one has folders. -/
structure Fits (model disk : Disk) : Prop where
  here : disk.here = model.here
  link_iff : ∀ place target,
    disk.lookup? place = some (.link target) ↔ model.lookup? place = some (.link target)
  folder : ∀ place, model.lookup? place = some .folder →
    disk.lookup? place = some .folder ∨ disk.lookup? place = none

/-- The second disk has the links and at least the folders of the first one. -/
structure Covers (model disk : Disk) : Prop extends Fits model disk where
  kept : ∀ place, model.lookup? place = some .folder → disk.lookup? place = some .folder

/-- Neither a folder nor a link stands at a place. -/
structure Plain (disk : Disk) (place : Place) : Prop where
  folder : disk.lookup? place ≠ some .folder
  link : ∀ target, disk.lookup? place ≠ some (.link target)

variable {makes opens : Place → Prop} {disk final built d d' : Disk} {place : Place}

theorem plain_of_lookup? {found : Option Entry} (h : disk.lookup? place = found)
    (hfolder : found ≠ some .folder) (hlink : ∀ target, found ≠ some (.link target)) :
    Plain disk place :=
  ⟨h ▸ hfolder, h ▸ hlink⟩

theorem Plain.of_grows (h : Plain final place) (hgrows : Grows disk final) :
    Plain disk place where
  folder hfolder := h.folder (hgrows.lookup?_eq_some hfolder)
  link target hlink := h.link target (hgrows.lookup?_eq_some hlink)

theorem Plain.changes (h : Plain d place)
    (hd : Changes makes opens d d') (hmakes : ¬ makes place) (hopens : ¬ opens place) :
    Plain d' place := by
  have hsame := hd.lookup?_eq hmakes hopens
  exact ⟨hsame ▸ h.folder, hsame ▸ h.link⟩

theorem Grows.fits (h : Grows disk d) : Fits disk d where
  here := h.here
  link_iff place target := by
    rcases h.lookup place with hsame | ⟨hnone, hfolder⟩
    · rw [hsame]
    · rw [hnone, hfolder]
      exact ⟨nofun, nofun⟩
  folder _ hfolder := .inl (h.lookup?_eq_some hfolder)

theorem Grows.covers (h : Grows disk d) : Covers disk d :=
  ⟨h.fits, fun _ => h.lookup?_eq_some⟩

/-- What fits the later disk fits the earlier one. -/
theorem Fits.of_grows (h : Fits final d) (hgrows : Grows disk final) : Fits disk d where
  here := h.here.trans hgrows.here
  link_iff place target := (h.link_iff place target).trans (hgrows.fits.link_iff place target)
  folder place hfolder := h.folder place (hgrows.lookup?_eq_some hfolder)

/-- What fits the disk on which the folders have been made fits the disk before. -/
theorem Grows.fits_built (h : Grows disk built) : Fits built disk where
  here := h.here.symm
  link_iff place target := (h.fits.link_iff place target).symm
  folder place hfolder := by
    rcases h.lookup place with hsame | ⟨hnone, -⟩
    · exact .inl (hsame.symm.trans hfolder)
    · exact .inr hnone

/-! ## Changes outlasted -/

theorem Fits.changes (h : Fits disk d) (hopens : ∀ place, opens place → Plain disk place)
    (hchanges : Changes makes opens d d') : Fits disk d' where
  here := hchanges.here.trans h.here
  link_iff place target := by
    rw [← h.link_iff]
    refine ⟨fun hlink => ?_, fun hlink => ?_⟩
    · rcases hchanges.lookup place with hsame | ⟨-, -, hfolder⟩ | ⟨-, content, hfile⟩
      · exact hsame.symm.trans hlink
      · rw [hfolder] at hlink
        cases hlink
      · rw [hfile] at hlink
        cases hlink
    · exact hchanges.lookup?_eq_some
        (fun hopened => (hopens place hopened).link target ((h.link_iff place target).1 hlink)) hlink
  folder place hfolder := by
    -- the place of a folder is never opened as an output
    have hnot (hopened : opens place) : False := (hopens place hopened).folder hfolder
    rcases h.folder place hfolder with hthere | hnone
    · exact .inl (hchanges.lookup?_eq_some hnot hthere)
    · rcases hchanges.lookup place with hsame | ⟨-, -, hmade⟩ | ⟨hopened, -⟩
      · exact .inr (hsame.trans hnone)
      · exact .inl hmade
      · exact (hnot hopened).elim

theorem Covers.changes (h : Covers disk d) (hopens : ∀ place, opens place → Plain disk place)
    (hchanges : Changes makes opens d d') : Covers disk d' where
  toFits := h.toFits.changes hopens hchanges
  kept place hfolder := hchanges.lookup?_eq_some
    (fun hopened => (hopens place hopened).folder hfolder) (h.kept place hfolder)

theorem Covers.changes_of_grows (h : Covers disk d) (hgrows : Grows disk final)
    (hopens : ∀ place, opens place → Plain final place) (hchanges : Changes makes opens d d') :
    Covers disk d' :=
  h.changes (fun place hplace => (hopens place hplace).of_grows hgrows) hchanges

theorem Covers.set_folder (h : Covers disk d) (hplace : place ≠ []) :
    Covers (disk.set place .folder) (d.set place .folder) where
  here := h.here
  link_iff q target := by
    rw [lookup?_set _ _ _ _ hplace, lookup?_set _ _ _ _ hplace]
    split
    · exact ⟨nofun, nofun⟩
    · exact h.link_iff q target
  folder q hq := by
    rw [lookup?_set _ _ _ _ hplace] at hq ⊢
    split
    · exact .inl rfl
    · next hne => exact h.folder q (by rwa [if_neg hne] at hq)
  kept q hq := by
    rw [lookup?_set _ _ _ _ hplace] at hq ⊢
    split
    · rfl
    · next hne => exact h.kept q (by rwa [if_neg hne] at hq)

theorem Covers.of_folder (h : Covers disk d) (hplace : place ≠ [])
    (hfits : Fits (disk.set place .folder) d) (hfolder : d.lookup? place = some .folder) :
    Covers (disk.set place .folder) d := by
  refine ⟨hfits, fun q hq => ?_⟩
  rw [lookup?_set _ _ _ _ hplace] at hq
  split at hq
  · next heq => exact heq ▸ hfolder
  · exact h.kept q hq

theorem Covers.set_file (h : Covers disk d) (hplain : Plain disk place) (hplace : place ≠ [])
    (content : Bytes) : Covers disk (d.set place (.file content)) := by
  have hchanges : Changes (fun _ => False) (· = place) d (d.set place (.file content)) :=
    .set_file rfl hplace
  refine h.changes (fun q hq => ?_) hchanges
  rw [hq]
  exact hplain

end Disk
end BuildBlocks
