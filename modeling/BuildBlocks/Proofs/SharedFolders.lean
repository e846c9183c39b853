import BuildBlocks.Proofs.DiskAccess
import BuildBlocks.Proofs.JobScript
import BuildBlocks.Proofs.RelyGuarantee
import BuildBlocks.Proofs.Ways

/-!
# Folders that several jobs make

Several jobs may make the same folders at once. What a job finds made already it leaves alone, so each
of them gets the folders it would have got alone, whoever made them (`Program.sure_buildFolders`).

## The architecture

* **`Settles`** and **`Builds`**: how a single folder, and a folder with those above it, comes to be
  there when a job runs alone.
* **`Builds.covers`**: once the path of the folder leads to a folder, nothing on its way is missing.
* **`Settles.effect_make`**: on a disk that has the folders above, making the folder finds it made or
  makes it, and it is then there.
* **`Program.sure_make`**, **`Program.sure_buildFolders`**: the same of the scripts, for one folder and
  then for those above it by induction.
-/

namespace BuildBlocks
namespace Disk

variable {disk built final d d' : Disk} {p : Path} {root : Text} {parts : List Text}

/-! ## Folders of a job that runs alone -/

/-- The folder at a path is made, or it is there. -/
inductive Settles (disk : Disk) (p : Path) : Disk → Prop
  | made {place : Place} (hlast : disk.locateLast p = .ok (.absent place)) :
      Settles disk p (disk.set place .folder)
  | there {place place' : Place} {e : Entry} (hlast : disk.locateLast p = .ok (.present place e))
      (hfolder : disk.locate p = .ok (.present place' .folder)) : Settles disk p disk

/-- The folder at a path and those above it are made, or they are there. -/
inductive Builds (root : Text) (disk : Disk) : List Text → Disk → Prop
  | settles {parts : List Text} {built : Disk} (h : Settles disk ⟨root, parts⟩ built) :
      Builds root disk parts built
  | above {parts : List Text} {above built : Disk} (hne : parts ≠ [])
      (habove : Builds root disk parts.dropLast above) (h : Settles above ⟨root, parts⟩ built) :
      Builds root disk parts built

theorem hasBarred_parent (h : hasBarred p = false) : hasBarred p.parent = false := by
  rw [hasBarred, List.any_eq_false] at h ⊢
  exact fun name hname => h name (List.dropLast_subset _ hname)

theorem find?_of_keepFolder {why : Refusal} (h : disk.keepFolder p why = .ok ()) :
    disk.find? p = .ok (some .folder) := by
  unfold keepFolder isFolder at h
  obtain ⟨isFolder, hfind, hkept⟩ := bind_eq_ok_iff.1 h
  cases hfound : disk.find? p with
  | error e =>
    rw [hfound] at hfind
    cases hfind
  | ok found =>
    rw [hfound] at hfind
    cases hfind
    split at hkept
    · next hfolder => rw [beq_iff_eq.1 hfolder]
    · cases hkept

/-- A folder that is there although it could not be made. -/
theorem settles_of_keepFolder {why : Refusal} (hlast : disk.makeOneFolder p = .error why)
    (hkeep : disk.keepFolder p why = .ok ()) : Settles disk p disk := by
  obtain ⟨-, place', hfolder⟩ := find?_eq_some_iff.1 (find?_of_keepFolder hkeep)
  unfold makeOneFolder at hlast
  split at hlast
  · next hpresent => exact .there hpresent hfolder
  · cases hlast
  · next herror =>
    -- the path leads to a folder, so it leads somewhere if its last name is not followed
    rcases locateLast_of_locate hfolder with ⟨q, target, hlink⟩ | hsame
    · rw [herror] at hlink
      cases hlink
    · rw [herror] at hsame
      cases hsame

theorem settles_of_buildLast (h : disk.buildLast p = (built, .ok ())) : Settles disk p built := by
  unfold buildLast at h
  split at h
  · next hmade =>
    cases h
    obtain ⟨place, habsent, rfl⟩ := makeOneFolder_eq_ok_iff.1 hmade
    exact .made habsent
  · cases h
  · next hlast =>
    obtain ⟨rfl, hkeep⟩ := Prod.mk.inj h
    exact settles_of_keepFolder hlast hkeep

theorem builds_of_buildFolders (h : disk.buildFolders root parts = (built, .ok ())) :
    Builds root disk parts built := by
  fun_induction buildFolders disk root parts generalizing built with
  | case1 =>
    rename_i hmade
    cases h
    obtain ⟨place, habsent, rfl⟩ := makeOneFolder_eq_ok_iff.1 hmade
    exact .settles (.made habsent)
  | case2 | case3 => cases h
  | case4 =>
    rename_i hne above habove ih
    exact .above hne (ih habove) (settles_of_buildLast h)
  | case5 =>
    rename_i hlast
    obtain ⟨rfl, hkeep⟩ := Prod.mk.inj h
    exact .settles (settles_of_keepFolder hlast hkeep)

theorem Settles.grows (h : Settles disk p built) : Grows disk built := by
  cases h with
  | made hlast => exact grows_set (lookup?_of_locateBy_absent hlast)
  | there => exact .refl disk

theorem Builds.grows (h : Builds root disk parts built) : Grows disk built := by
  induction h with
  | settles h => exact h.grows
  | above _ _ h ih => exact ih.trans h.grows

/-- The path of a folder that is there, or has just been made, leads to a folder. -/
theorem Settles.locate (h : Settles disk p built) (hhere : Reached disk disk.here) :
    ∃ place, built.locate p = .ok (.present place .folder) := by
  cases h with
  | there _ hfolder => exact ⟨_, hfolder⟩
  | @made place hlast =>
    have hgrows := Settles.grows (.made hlast)
    have hcovers := hgrows.covers
    have hfound := locateBy_of_covers hcovers (hcovers.reached hhere) hlast
    have hplace : (disk.set place .folder).found place = .present place .folder := by
      have hnone := lookup?_of_locateBy_absent hlast
      rw [found, lookup?_set _ _ _ _ (ne_nil_of_lookup?_eq_none hnone), if_pos rfl]
    rw [Located.place, hplace] at hfound
    exact ⟨place, locate_of_locateLast hfound (by simp)⟩

theorem Settles.exists_locateLast (h : Settles disk p built) (hhere : Reached disk disk.here) :
    ∃ loc, built.locateLast p = .ok loc := by
  obtain ⟨place, hfolder⟩ := h.locate hhere
  rcases locateLast_of_locate hfolder with ⟨q, target, hlink⟩ | hsame
  · exact ⟨_, hlink⟩
  · exact ⟨_, hsame⟩

theorem Builds.locate (h : Builds root disk parts built) (hhere : Reached disk disk.here) :
    ∃ place, built.locate ⟨root, parts⟩ = .ok (.present place .folder) := by
  cases h with
  | settles h => exact h.locate hhere
  | above _ habove h => exact h.locate (habove.grows.covers.reached hhere)

/-! ## Nothing is missing on the way to a folder -/

theorem Settles.covers (h : Settles disk p built) (hcovers : Covers disk d) (hfits : Fits built d)
    (hhere : Reached d d.here) {place : Place} (hfolder : d.locate p = .ok (.present place .folder)) :
    Covers built d := by
  cases h with
  | there => exact hcovers
  | @made made hlast =>
    have hmade := ne_nil_of_lookup?_eq_none (lookup?_of_locateBy_absent hlast)
    refine hcovers.of_folder hmade hfits ?_
    rcases hfits.folder made ((lookup?_set _ _ _ _ hmade).trans (if_pos rfl)) with hthere | hnone
    · exact hthere
    · -- otherwise the path would lead to nothing
      have hfound := locateBy_of_covers hcovers hhere hlast
      rw [Located.place, found, hnone] at hfound
      rw [locate_of_locateLast hfound (by simp)] at hfolder
      cases hfolder

/-- **On a disk on which the path of a folder leads to a folder**, no folder above it is missing. -/
theorem Builds.covers (h : Builds root disk parts built) (hstart : Reached disk disk.here)
    (hcovers : Covers disk d) (hfits : Fits built d) {place : Place}
    (hfolder : d.locate ⟨root, parts⟩ = .ok (.present place .folder)) : Covers built d := by
  have hhere := hcovers.reached hstart
  induction h generalizing place with
  | settles h => exact h.covers hcovers hfits hhere hfolder
  | @above parts above built hne habove h ih =>
    obtain ⟨_, hthere⟩ := habove.locate hstart
    obtain ⟨_, hparent⟩ := locate_parent (p := ⟨root, parts⟩) hfolder hne hthere
    exact h.covers (ih (hfits.of_grows h.grows) hparent) hfits hhere hfolder

/-! ## Folders of a job that runs among others -/

/-- What making a folder does if the job would have got it alone: it is made, or it is there. -/
theorem Settles.effect_make (h : Settles disk p built) (hstart : Reached disk disk.here)
    (hcovers : Covers disk d) (hfits : Fits built d) :
    (∃ place, (Access.make p).effect d = (.ok (), some (place, .folder)) ∧
      built.lookup? place = some .folder ∧ d.lookup? place = none ∧
      Covers built (d.set place .folder)) ∨
    (Access.make p).effect d = (.error .exists, none) ∧ Covers built d := by
  have hhere := hcovers.reached hstart
  cases h with
  | @made place hlast =>
    have hplace := ne_nil_of_lookup?_eq_none (lookup?_of_locateBy_absent hlast)
    have hmade : (disk.set place .folder).lookup? place = some .folder :=
      (lookup?_set _ _ _ _ hplace).trans (if_pos rfl)
    have hfound : d.locateLast p = .ok (d.found place) := locateBy_of_covers hcovers hhere hlast
    simp only [Access.effect, hfound, found]
    rcases hfits.folder place hmade with hthere | hnone
    · rw [hthere]
      exact .inr ⟨rfl, hcovers.of_folder hplace hfits hthere⟩
    · rw [hnone]
      exact .inl ⟨place, rfl, hmade, hnone, hcovers.set_folder hplace⟩
  | @there place place' e hlast hfolder =>
    have hfound : d.locateLast p = .ok (d.found place) := locateBy_of_covers hcovers hhere hlast
    have hthere : disk.lookup? place = some e := lookup?_of_locateBy_present hlast
    -- what stands there is a link or a folder, so it is there on both disks
    have hsame : d.lookup? place = some e := by
      rcases locateLast_of_locate hfolder with ⟨q, target, hlink⟩ | hsame
      · rw [hlast] at hlink
        cases hlink
        exact (hcovers.link_iff _ _).2 hthere
      · rw [hlast] at hsame
        cases hsame
        exact hcovers.kept _ hthere
    simp only [Access.effect, hfound, found, hsame]
    exact .inr ⟨trivial, hcovers⟩

end Disk

namespace Program

open Disk

variable {makes opens makes' opens' : Place → Prop} {disk built final d d' : Disk} {p : Path}
  {root : Text} {parts : List Text}

/-- The folders of a job are there: what is sure when they have been made. -/
structure Ready (final built : Disk) (r : Except Failure Unit) (d : Disk) : Prop where
  ok : r = .ok ()
  fits : Fits final d
  covers : Covers built d

section

variable (hmakes : ∀ place, final.lookup? place = some .folder → makes' place)
  (hopens : ∀ place, opens place → Plain final place)

include hopens

theorem sure_done (hgrows : Grows built final) (hfits : Fits final d) (hcovers : Covers built d) :
    (lift (.ok ())).Sure (Changes makes opens) (Changes makes' opens') (Ready final built) d :=
  fun _ hd => ⟨rfl, hfits.changes hopens hd,
    hcovers.changes_of_grows hgrows hopens hd⟩

theorem sure_keepFolder {why : Refusal} {place : Place} (hgrows : Grows built final)
    (hfits : Fits final d) (hcovers : Covers built d) (hhere : Reached built built.here)
    (hbarred : hasBarred p = false) (hfolder : built.locate p = .ok (.present place .folder)) :
    (keepFolder p why).Sure (Changes makes opens) (Changes makes' opens') (Ready final built) d := by
  intro d' hd'
  have hcovers := hcovers.changes_of_grows hgrows hopens hd'
  have hfind : d'.find? p = .ok (some .folder) := by
    refine find?_eq_some_iff.2 ⟨hbarred, place, ?_⟩
    have hfound := locateBy_of_covers hcovers (hcovers.reached hhere) hfolder
    rwa [Located.place, found, hcovers.kept _ (lookup?_of_locateBy_present hfolder)] at hfound
  refine ⟨.refl d', ?_⟩
  have hanswer : (Access.find p).answer d' = .ok (some .folder) := hfind
  rw [hanswer]
  exact sure_done hopens hgrows (hfits.changes hopens hd') hcovers

include hmakes

/-- Making a folder that the job would have got alone. -/
theorem sure_afterMake (hsettles : Settles disk p built) (hgrows : Grows built final)
    (hstart : Reached disk disk.here) (hbarred : hasBarred p = false) (hfits : Fits final d)
    (hcovers : Covers disk d) (missing : Program Unit) :
    Changes makes' opens' d ((Access.make p).after d) ∧
      (afterMake p missing ((Access.make p).answer d)).Sure (Changes makes opens)
        (Changes makes' opens') (Ready final built) ((Access.make p).after d) := by
  rcases hsettles.effect_make hstart hcovers (hfits.of_grows hgrows) with
    ⟨place, heffect, hmade, hnone, hcovers⟩ | ⟨heffect, hcovers⟩
  · rw [Access.after, Access.answer, heffect]
    have hgrown : Changes makes' (fun _ => False) d (d.set place .folder) :=
      .set_folder (hmakes place (hgrows.lookup?_eq_some hmade)) hnone
    exact ⟨hgrown.mono (fun _ => id) fun _ => False.elim,
      sure_done hopens hgrows (hfits.changes (fun _ => False.elim) hgrown) hcovers⟩
  · obtain ⟨place, hfolder⟩ := hsettles.locate hstart
    rw [Access.after, Access.answer, heffect]
    exact ⟨.refl d, sure_keepFolder hopens hgrows hfits hcovers
      (hsettles.grows.covers.reached hstart) hbarred hfolder⟩

theorem sure_make (hsettles : Settles disk p built) (hgrows : Grows built final)
    (hstart : Reached disk disk.here) (hbarred : hasBarred p = false) (hfits : Fits final d)
    (hcovers : Covers disk d) (missing : Program Unit) :
    (Script.access (.make p) (afterMake p missing)).Sure (Changes makes opens)
      (Changes makes' opens') (Ready final built) d := fun _ hd =>
  sure_afterMake hmakes hopens hsettles hgrows hstart hbarred (hfits.changes hopens hd)
    (hcovers.changes_of_grows (hsettles.grows.trans hgrows) hopens hd) missing

/-- **The folders of a job among others** come to be there as they do when it runs alone. -/
theorem sure_buildFolders (hbuilds : Builds root disk parts built) (hgrows : Grows built final)
    (hstart : Reached disk disk.here) (hbarred : hasBarred ⟨root, parts⟩ = false)
    (hfits : Fits final d) (hcovers : Covers disk d) :
    (buildFolders root parts).Sure (Changes makes opens) (Changes makes' opens')
      (Ready final built) d := by
  induction hbuilds generalizing d with
  | @settles parts built hsettles =>
    rw [buildFolders]
    exact sure_make hmakes hopens hsettles hgrows hstart hbarred hfits hcovers _
  | @above parts above built hne habove hsettles ih =>
    have hstart' := habove.grows.covers.reached hstart
    rw [buildFolders]
    intro d' hd'
    have hcovers :=
      hcovers.changes_of_grows (habove.grows.trans (hsettles.grows.trans hgrows)) hopens hd'
    have hfits := hfits.changes hopens hd'
    cases hlast : d'.locateLast ⟨root, parts⟩ with
    | ok loc =>
      -- the folder above is there, so nothing is missing on the way to it
      obtain ⟨_, hthere⟩ := habove.locate hstart
      obtain ⟨_, hparent⟩ := locate_parent hlast hne hthere
      have hcovers := habove.covers hstart hcovers
        (hfits.of_grows (hsettles.grows.trans hgrows)) hparent
      exact sure_afterMake hmakes hopens hsettles hgrows hstart' hbarred hfits hcovers _
    | error why =>
      -- a folder on the way is missing
      obtain ⟨loc, hloc⟩ := hsettles.exists_locateLast hstart'
      have hnotFound : why = .notFound := by
        rcases locateBy_of_fits (hfits.of_grows hgrows) (hcovers.reached hstart) hloc with
          hsame | ⟨hmissing, -⟩
        · rw [locateLast, hsame] at hlast
          cases hlast
        · rw [locateLast, hmissing] at hlast
          exact (Except.error.inj hlast).symm
      rw [Access.after, Access.answer, Access.effect, hlast, hnotFound]
      refine ⟨.refl d', ?_⟩
      simp only [afterMake, dif_neg hne]
      refine Script.Sure.bind
        (ih (hsettles.grows.trans hgrows) (hasBarred_parent hbarred) hfits hcovers) fun r d hready => ?_
      obtain ⟨rfl, hfits, hcovers⟩ := hready d (.refl d)
      exact sure_make hmakes hopens hsettles hgrows hstart' hbarred hfits hcovers _

end

end Program
end BuildBlocks
