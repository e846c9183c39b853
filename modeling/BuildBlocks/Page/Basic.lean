import BuildBlocks.Block.Extension
import BuildBlocks.Page.Expansion
import BuildBlocks.Template.Interpolation

/-!
# Pages

A page is processed in two passes: its blocks are worked through, and then the placeholders of the
assembled page are filled once. A call gets the complete page or the failure that ended it.
-/

namespace BuildBlocks
namespace Page

/-- The block types of a call. -/
def registry (disk : Disk) (options : Options)
    (extensionOf : Entry → Extension := Extension.ofEntry) : Outcome Registry :=
  Extension.loadAll disk .initial extensionOf options.extensions

/-- An environment as it is shown in a note. -/
def showEnvironment : Option Text → Text
  | none => "None".toList
  | some e => Text.quoted e

/-- The processed page. `file` is where it comes from. -/
def process (w : Workspace) (options : Options) (file : Option Path) (page : Text) :
    Outcome Text := do
  let r ← registry w.disk options w.settings.extensionOf
  let ctx ← Outcome.ofExcept (Context.top w.disk options r file)
  let shown := ctx.fileText.getD "<string>".toList
  Outcome.note 2 s!"Processing {shown} for environment {showEnvironment options.environment}"
  let assembled ← expand w ctx 0 page
  interpolate options.delimiters.toList options.strict ctx.fileText (.mapping options.data) assembled

/-- The processed page of a file. -/
def processFile (w : Workspace) (options : Options) (file : Path) : Outcome Text := do
  let page ← Outcome.ofExcept (w.disk.readText w.settings.encoding file)
  Outcome.note 3 s!"Read {page.length} characters from {file.name}"
  process w options (some file) page

end Page
end BuildBlocks
