import BuildBlocks.Batch

/-!
# Actions of the command

An action works on the disk, notes what it does, and has a result unless the command ends in it. The
command ends either with a status and a message, or because of a failure that nobody handles.
-/

namespace BuildBlocks
namespace Cli

/-- How the command ends before its work is done. -/
inductive Halt where
  /-- It leaves with a status and says why. -/
  | exit (status : Nat) (message : String)
  /-- A failure that nobody handles. -/
  | crash (e : Failure)
  deriving Repr

/-- What an action left on the disk, what it noted, and its result. -/
structure Done (α : Type) where
  disk : Disk
  notes : List Note
  result : Except Halt α

/-- An action on a disk. -/
def Action (α : Type) : Type := Disk → Done α

namespace Action

variable {α β : Type}

/-- An action that only has a result. -/
protected def pure (a : α) : Action α := fun disk => ⟨disk, [], .ok a⟩

/-- One action after another. -/
protected def bind (x : Action α) (f : α → Action β) : Action β := fun disk =>
  let first := x disk
  match first.result with
  | .error h => ⟨first.disk, first.notes, .error h⟩
  | .ok a =>
    let second := f a first.disk
    ⟨second.disk, first.notes ++ second.notes, second.result⟩

instance : Monad Action where
  pure := Action.pure
  bind := Action.bind

/-- Ends the command. -/
def halt (h : Halt) : Action α := fun disk => ⟨disk, [], .error h⟩

/-- Leaves with status one and says why. -/
def exit (message : String) : Action α := halt (.exit 1 message)

/-- Notes something. -/
def note (level : Int) (text : String) : Action Unit := fun disk => ⟨disk, [⟨level, text⟩], .ok ()⟩

/-- Looks at the disk; a failure ends the command. -/
def look (f : Disk → Except Failure α) : Action α := fun disk =>
  ⟨disk, [], (f disk).mapError .crash⟩

/-- Changes the disk; a failure ends the command. -/
def change (f : Disk → Except Failure Disk) : Action Unit := fun disk =>
  match f disk with
  | .ok disk => ⟨disk, [], .ok ()⟩
  | .error e => ⟨disk, [], .error (.crash e)⟩

/-- Runs a step that works on the disk; `handle` says how a failure ends the command. -/
def perform (handle : Failure → Halt) (f : Disk → Effect α) : Action α := fun disk =>
  let effect := f disk
  ⟨effect.disk, effect.outcome.notes, effect.outcome.result.mapError handle⟩

end Action
end Cli
end BuildBlocks
