import BuildBlocks.Outcome
import BuildBlocks.Template.Expression
import BuildBlocks.Template.Segment
import BuildBlocks.Text.Escape

/-!
# Filling templates

Every placeholder of a template is filled with the value that its expression leads to. A placeholder
that leads nowhere stays as it is written, or is a fault if the run is strict. Values are put in as
they are and not looked at again, so a value that looks like a placeholder stays one.
-/

namespace BuildBlocks

namespace Placeholder

/-- The text that the value of a placeholder is shown as, if its expression leads to one. -/
def resolve (data : Value) (p : Placeholder) : Except Failure (Option Text) :=
  match Expression.parse p.expression with
  | .error e => .error (.longNumber e.digits)
  | .ok none => .ok none
  | .ok (some keys) =>
    match data.lookup? keys with
    | none => .ok none
    | some v =>
      match v.render? with
      | none => .error .longValue
      | some s => .ok (some (if p.escapes then Text.escapeMarkup s else s))

/-- What a placeholder that leads nowhere becomes: itself, or a fault. -/
def leave (strict : Bool) (file : Option Text) (p : Placeholder) : Outcome Text :=
  let shown := Text.trim p.expression
  if strict then
    Outcome.fail (.fault (.unresolved shown p.line ⟨file, none, some p.text⟩))
  else do
    Outcome.note 3 s!"Unresolved expression '{shown}' at output line {p.line} left as-is"
    pure p.text

/-- What a placeholder becomes. -/
def fill (strict : Bool) (file : Option Text) (data : Value) (p : Placeholder) : Outcome Text := do
  match ← Outcome.ofExcept (p.resolve data) with
  | some s => pure s
  | none => p.leave strict file

end Placeholder

namespace Segment

/-- What a segment becomes. -/
def fill (strict : Bool) (file : Option Text) (data : Value) : Segment → Outcome Text
  | .text s => pure s
  | .placeholder p => p.fill strict file data

/-- What segments become, one after another. -/
def fillAll (strict : Bool) (file : Option Text) (data : Value) : List Segment → Outcome Text
  | [] => pure []
  | s :: ss => do
    let first ← s.fill strict file data
    let rest ← fillAll strict file data ss
    pure (first ++ rest)

end Segment

/-- The template with its placeholders filled. `file` is where the template comes from. -/
def interpolate (ds : List Delimiter) (strict : Bool) (file : Option Text) (data : Value)
    (template : Text) : Outcome Text :=
  Segment.fillAll strict file data (Segment.cut ds template)

end BuildBlocks
