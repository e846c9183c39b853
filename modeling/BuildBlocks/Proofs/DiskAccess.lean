import BuildBlocks.Disk.Access
import BuildBlocks.Proofs.DiskWalks

/-!
# What a disk tells of a path

A disk answers what is asked about a path by following it. So what it tells is settled by where the
path leads: whether it is a file or a folder, what can be read or written there, and whether a folder
has to be made. A path is resolved name by name, and a name that is no link resolves to itself.
-/

namespace BuildBlocks
namespace Disk

variable {disk : Disk} {p : Path} {place : Place} {e : Entry} {loc : Located} {name : Text}

/-- What stands at a place is among the entries, or it is a folder. -/
theorem mem_entries_of_lookup? (h : disk.lookup? place = some e) (hfolder : e ≠ .folder) :
    (place, e) ∈ disk.entries := by
  unfold lookup? at h
  split at h
  · cases h
    exact absurd rfl hfolder
  · obtain ⟨before, after, hentries, -⟩ := List.lookup_eq_some_iff.1 h
    rw [hentries]
    exact List.mem_append_right _ List.mem_cons_self

/-! ## Files and folders -/

theorem find?_eq_some_iff : disk.find? p = .ok (some e) ↔
    hasBarred p = false ∧ ∃ place, disk.locate p = .ok (.present place e) := by
  unfold find?
  split
  · next hbarred => simp [hbarred]
  · next hbarred =>
    simp only [hbarred, true_and]
    split <;> simp_all

theorem isFile_of_locate (hbarred : hasBarred p = false)
    (h : disk.locate p = .ok (.present place e)) : disk.isFile p = .ok e.isFile := by
  rw [isFile, find?_eq_some_iff.2 ⟨hbarred, place, h⟩]
  rfl

theorem isFolder_of_locate (hbarred : hasBarred p = false)
    (h : disk.locate p = .ok (.present place e)) : disk.isFolder p = .ok (e == .folder) := by
  rw [isFolder, find?_eq_some_iff.2 ⟨hbarred, place, h⟩]
  rfl

theorem readBytes_of_locate {content : Bytes} (hbarred : hasBarred p = false)
    (h : disk.locate p = .ok (.present place (.file content))) : disk.readBytes p = .ok content := by
  rw [readBytes, hbarred, h]
  rfl

/-- A text is read by the codec of the encoding, and its line ends are unified. -/
theorem readText_of_readBytes {encoding : Encoding} (codec : Codec) {content : Bytes}
    (h : disk.readBytes p = .ok content) (hcodec : encoding.codec = .ok codec) :
    disk.readText encoding p = match codec.decode content with
      | .ok s => .ok (Text.unifyNewlines s)
      | .error why => .error (.undecodable why) := by
  rw [readText, h]
  show Except.bind encoding.codec _ = _
  rw [hcodec]
  rfl

/-! ## Folders that are made -/

/-- A folder that is there is left alone. -/
theorem buildFolder_of_locate (hbarred : hasBarred p = false)
    (h : disk.locate p = .ok (.present place .folder)) : disk.buildFolder p = (disk, .ok ()) := by
  have hmake : disk.makeOneFolder p = .error .exists := by
    unfold makeOneFolder
    rcases locateLast_of_locate h with ⟨q, target, hlink⟩ | hlast
    · rw [hlink]
    · rw [hlast]
  have hkeep : disk.keepFolder p .exists = .ok () := by
    rw [keepFolder, isFolder_of_locate hbarred h]
    rfl
  rw [buildFolder, hbarred, if_neg Bool.false_ne_true, buildFolders, hmake]
  exact congrArg (Prod.mk disk) hkeep

/-- A folder is made where nothing stands, if the folder above is there. -/
theorem buildFolder_of_absent (hbarred : hasBarred p = false)
    (h : disk.locateLast p = .ok (.absent place)) :
    disk.buildFolder p = (disk.set place .folder, .ok ()) := by
  have hmake : disk.makeOneFolder p = .ok (disk.set place .folder) := by
    rw [makeOneFolder, h]
  rw [buildFolder, hbarred, if_neg Bool.false_ne_true, buildFolders, hmake]

theorem makeFolder_of_locate (hbarred : hasBarred p = false)
    (h : disk.locate p = .ok (.present place .folder)) : disk.makeFolder p = .ok disk := by
  rw [makeFolder, buildFolder_of_locate hbarred h]
  rfl

/-! ## Resolved paths -/

theorem expand_name {done : List (Place × Place)} {met : List Place} {rest : List Step}
    (hup : name ≠ ['.', '.']) :
    disk.expand done met place (.name name :: rest) =
      match disk.lookup? (place ++ [name]) with
      | some (.link target) =>
        match done.lookup (place ++ [name]) with
        | some known => disk.expand done met known rest
        | none =>
          if place ++ [name] ∈ met then climb (place ++ [name]) (Step.names rest)
          else disk.expand done ((place ++ [name]) :: met)
            (if Path.rootOf target = [] then place else [])
            ((Path.partsOf target).map .name ++ .expanded (place ++ [name]) :: rest)
      | _ => disk.expand done met (place ++ [name]) rest := by
  rw [expand, if_neg hup]
  dsimp only
  split
  · next hlink =>
    rw [hlink]
    cases done.lookup (place ++ [name]) with
    | some known => rfl
    | none =>
      dsimp only
      split <;> rfl
  · next hnot =>
    split
    · next hlink => exact absurd hlink (hnot _)
    · rfl

theorem expand_up {done : List (Place × Place)} {met : List Place} {rest : List Step} :
    disk.expand done met place (.name ['.', '.'] :: rest) =
      disk.expand done met place.dropLast rest := by
  rw [expand, if_pos rfl]

/-- A name that is no link resolves to itself. -/
theorem expand_name_of_not_link {done : List (Place × Place)} {met : List Place} {rest : List Step}
    (hup : name ≠ ['.', '.']) (hlink : ∀ target, disk.lookup? (place ++ [name]) ≠ some (.link target)) :
    disk.expand done met place (.name name :: rest) =
      disk.expand done met (place ++ [name]) rest := by
  rw [expand_name hup]
  split
  · next heq => exact absurd heq (hlink _)
  · rfl

theorem resolvePlace_of_name (hparts : p.parts = [name]) (hup : name ≠ ['.', '.'])
    (hlink : ∀ target, disk.lookup? (disk.start p ++ [name]) ≠ some (.link target)) :
    disk.resolvePlace p = disk.start p ++ [name] := by
  rw [resolvePlace, hparts, List.map_singleton, expand_name_of_not_link hup hlink, expand]

/-- A path can be resolved if its resolved form leads somewhere. -/
theorem resolve_of_locate (hbarred : hasBarred p = false) (hplace : disk.resolvePlace p = place)
    (h : disk.locate (.absolute place) = .ok loc) : disk.resolve p = .ok (.absolute place) := by
  rw [resolve, hbarred, if_neg Bool.false_ne_true, hplace]
  dsimp only
  rw [h]

end Disk
end BuildBlocks
