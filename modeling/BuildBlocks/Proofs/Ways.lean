import BuildBlocks.Proofs.DiskChanges

/-!
# Ways on disks that are nearly the same

A path that leads somewhere on one disk leads to the same place on a disk with the same links and the
same folders, whatever files have come and gone. If some folders are still missing there, it leads to
that place or to nothing at all.

## The architecture

* **`Walks.of_fits`** compares the walks; **`locateBy_of_covers`** is what comes of it for a path.
-/

namespace BuildBlocks
namespace Disk

/-- A place and all places above it are folders. -/
def Reached (disk : Disk) (place : Place) : Prop :=
  ∀ n, disk.lookup? (place.take n) = some .folder

section

variable {model disk : Disk} {follow : Bool} {links : Nat} {place : Place} {name : Text}
  {names rest : List Text} {loc : Located}

/-! ## Walks on two disks -/

theorem Reached.dropLast (h : Reached disk place) : Reached disk place.dropLast := fun n => by
  rw [List.dropLast_eq_take, List.take_take]
  exact h _

theorem reached_root (disk : Disk) : Reached disk [] := fun n => by
  rw [List.take_nil]
  rfl

theorem Reached.snoc (h : Reached disk place)
    (hname : disk.lookup? (place ++ [name]) = some .folder) : Reached disk (place ++ [name]) := by
  intro n
  rcases Nat.lt_or_ge place.length n with hn | hn
  · rwa [List.take_of_length_le (by rwa [List.length_append])]
  · rw [List.take_append_of_le_length hn]
    exact h n

theorem Reached.lookup? (h : Reached disk place) : disk.lookup? place = some .folder := by
  have htake := h place.length
  rwa [List.take_length] at htake

/-- **A walk on a disk that fits** ends where it ends on the model, or finds nothing because some
folder is missing. -/
theorem Walks.of_fits (hfits : Fits model disk) (h : Walks model follow links place names loc)
    (hreached : Reached disk place) :
    Walks disk follow links place names (disk.found loc.place) ∨
      disk.walk follow links place names = .error .notFound ∧
        ∃ q, model.lookup? q = some .folder ∧ disk.lookup? q = none := by
  have hlooks {place : Place} {name : Text} (hreached : Reached disk place)
      (here : LooksFor model place name) : LooksFor disk place name :=
    { here with folder := hreached.lookup? }
  induction h with
  | arrived =>
    rw [place_found]
    exact .inl (.arrived hreached.lookup?)
  | dot _ _ ih =>
    rw [walk_dot hreached.lookup?]
    exact (ih hreached).imp (.dot hreached.lookup?) id
  | up _ _ ih =>
    rw [walk_up hreached.lookup?]
    exact (ih hreached.dropLast).imp (.up hreached.lookup?) id
  | last here unfollowed =>
    rw [place_found]
    refine .inl (.last (hlooks hreached here) fun hfollow target hlink => ?_)
    exact unfollowed hfollow target ((hfits.link_iff _ _).1 hlink)
  | @link links place name target rest loc here next followed _ ih =>
    have hlink := (hfits.link_iff _ _).2 next
    have hstart : Reached disk (if Path.rootOf target = [] then place else []) := by
      split
      · exact hreached
      · exact reached_root disk
    refine (ih hstart).imp (.link (hlooks hreached here) hlink followed) fun hmissing => ?_
    rw [(hlooks hreached here).walk_link hlink followed]
    exact hmissing
  | folder here next more _ ih =>
    -- the folder is on the other disk as well, or it is the one that is missing
    rcases hfits.folder _ next with hfolder | hnone
    · refine (ih (hreached.snoc hfolder)).imp (.folder (hlooks hreached here) hfolder more) ?_
      rw [(hlooks hreached here).walk_folder hfolder more]
      exact id
    · rw [(hlooks hreached here).walk_cons, hnone]
      exact .inr ⟨if_neg (List.isEmpty_eq_false_iff.2 more ▸ Bool.false_ne_true), _, next, hnone⟩

end

/-! ## Paths -/

section

variable {model disk : Disk} {follow : Bool} {p : Path} {loc : Located} {q : Place}

theorem reached_start (hhere : Reached disk disk.here) (p : Path) : Reached disk (disk.start p) := by
  unfold start
  split
  · exact reached_root disk
  · exact hhere

theorem Covers.reached (h : Covers model disk) (hhere : Reached model model.here) :
    Reached disk disk.here := fun n => by
  rw [h.here]
  exact h.kept _ (hhere n)

theorem locateBy_of_fits (hfits : Fits model disk) (hhere : Reached disk disk.here)
    (h : model.locateBy follow p = .ok loc) :
    disk.locateBy follow p = .ok (disk.found loc.place) ∨
      disk.locateBy follow p = .error .notFound ∧
        ∃ q, model.lookup? q = some .folder ∧ disk.lookup? q = none := by
  obtain ⟨hshort, hwalks⟩ := locateBy_eq_ok_iff.1 h
  have hstart : model.start p = disk.start p := by rw [start, start, hfits.here]
  rw [hstart] at hwalks
  refine (hwalks.of_fits hfits (reached_start hhere p)).imp
    (fun hwalks => locateBy_eq_ok_iff.2 ⟨hshort, hwalks⟩) fun hmissing => ?_
  rw [locateBy, if_neg hshort]
  exact hmissing

/-- **A path on a disk that covers the model** leads where it leads on the model. -/
theorem locateBy_of_covers (hcovers : Covers model disk) (hhere : Reached disk disk.here)
    (h : model.locateBy follow p = .ok loc) :
    disk.locateBy follow p = .ok (disk.found loc.place) := by
  rcases locateBy_of_fits hcovers.toFits hhere h with hsame | ⟨-, q, hfolder, hnone⟩
  · exact hsame
  · rw [hcovers.kept q hfolder] at hnone
    cases hnone

end

end Disk
end BuildBlocks
