import BuildBlocks.Block.Lexeme
import BuildBlocks.Block.Target

/-!
# Directives

A directive is one block of a page: what its opening marker says, the body as it is written, and the
lines of its markers in the file.
-/

namespace BuildBlocks

/-- A block of a page. -/
structure Directive where
  kind : Text
  targets : List Text
  params : Text
  bodyLines : List Text
  startLine : Int
  endLine : Int
  openMarker : Text
  closeMarker : Text
  deriving DecidableEq, Repr

namespace Directive

/-- The body as it is written. -/
def body (d : Directive) : Text := d.bodyLines.flatten

/-- The number of lines of the file before the first line of the body. -/
def bodyOffset (d : Directive) : Int := d.startLine - 1 + Text.newlines d.openMarker

/-- The block as it is written. -/
def text (d : Directive) : Text := d.openMarker ++ d.body ++ d.closeMarker

/-- The parameter that an opening marker gives: the one in parentheses, or else the bare value. -/
def paramsOf (o : Opening) : Text := Text.trim ((o.params.orElse fun _ => o.value).getD [])

/-- The targets that an opening marker gives. A gated block without targets of its own has its
parameter for a target list. -/
def targetsOf (gated : Bool) (o : Opening) : List Text :=
  match o.targets with
  | some t => Target.parse t
  | none => if gated then Target.parse (paramsOf o) else []

/-- The block between an opening marker on line `line` and a closing marker. -/
def ofParts (gated : Bool) (line : Int) (o : Opening) (body closing : Text) : Directive where
  kind := o.kind
  targets := targetsOf gated o
  params := paramsOf o
  bodyLines := Text.lines body
  startLine := line
  endLine := line + Text.newlines o.text + Text.newlines body
  openMarker := o.text
  closeMarker := closing

@[simp] theorem body_ofParts (gated : Bool) (line : Int) (o : Opening) (body closing : Text) :
    (ofParts gated line o body closing).body = body := by
  simp [ofParts, Directive.body]

@[simp] theorem text_ofParts (gated : Bool) (line : Int) (o : Opening) (body closing : Text) :
    (ofParts gated line o body closing).text = o.text ++ body ++ closing := by
  simp [Directive.text]
  simp [ofParts]

end Directive
end BuildBlocks
