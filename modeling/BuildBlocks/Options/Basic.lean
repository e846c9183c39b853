import BuildBlocks.Options.Check
import BuildBlocks.Settings.Basic
import BuildBlocks.Template.Segment

/-!
# Options

The options of one call: the data of the page, the environment, the marker word and how blocks,
placeholders and includes are treated. Options are given as a mapping; some have two names, and then
the first one counts. What is not given comes from the settings. Keys that name no option are
ignored.
-/

namespace BuildBlocks

/-- The options of one call. -/
structure Options where
  data : List (Value × Value) := []
  environment : Option Text := none
  /-- The marker word of blocks. -/
  marker : Text
  /-- Whether the markers of inactive blocks are dropped. -/
  strip : Bool := false
  /-- Whether the blocks of included pages are worked through. -/
  recursive : Bool := false
  delimiters : Delimiters
  /-- The files that register further block types. -/
  extensions : List Text := []
  /-- Where relative paths of includes start; the folder of the including file if it is not given. -/
  includeBase : Option Path := none
  /-- Whether a placeholder that leads nowhere is a fault. -/
  strict : Bool := false
  deriving Repr

namespace Options

/-- The names of an option, the one that counts first. -/
abbrev Names := List String

/-- The option that is given under one of its names, and the name it is given under. -/
def given? (names : Names) (es : List (Value × Value)) : Option (Text × Value) :=
  names.findSome? fun n => (Value.field? n.toList es).map (n.toList, ·)

/-- Checks an option, or gives what holds without it. -/
def checkField {α : Type} (es : List (Value × Value)) (names : Names) (missing : α)
    (check : List OptionStep → Value → Check α) : Check α :=
  match given? names es with
  | some (key, v) => check [.key key] v
  | none => .ok missing

/-- The names of the options that have more than one or whose name is needed more than once. -/
def templateNames : Names := ["templateSettings", "template_settings"]

/-- Whether the pattern of placeholders is given. -/
def givesPattern (es : List (Value × Value)) : Bool :=
  match given? templateNames es with
  | some (_, .mapping fields) => (given? ["interpolate"] fields).isSome
  | some _ => true
  | none => false

/-- Checks the delimiters of placeholders below a place. `missing` holds if no pattern is given. -/
def checkDelimiters (missing : Pattern) (loc : List OptionStep) (v : Value) : Check Delimiters :=
  match v with
  | .mapping fields =>
    let field {α : Type} (name : String) (missing : α)
        (check : List OptionStep → Value → Check α) : Check α :=
      match given? [name] fields with
      | some (key, v) => check (loc ++ [.key key]) v
      | none => .ok missing
    Check.seq (Check.seq (.ok Delimiters.mk) (field "interpolate" missing Check.pattern))
      (field "escape" none (Check.optional Check.pattern))
  | v => Check.problem loc .groupType v

/-- Checks options that are given as a mapping. `missing` is the pattern of placeholders if none is
given. -/
def check (settings : Settings) (missing : Pattern) (es : List (Value × Value)) : Check Options :=
  let field {α : Type} := @checkField α es
  let environment : Check (Option Text) :=
    field ["environment"] none fun _ v => .ok (Check.name v)
  let made := Check.seq (.ok Options.mk) (field ["data"] [] Check.entries)
  let made := made.seq environment
  let made := made.seq (field ["commentMarker", "comment_marker"] settings.commentMarker Check.marker)
  let made := made.seq (field ["strip"] false Check.bool)
  let made := made.seq (field ["recursive"] false Check.bool)
  let made := made.seq (field templateNames ⟨missing, none⟩ (checkDelimiters missing))
  let made := made.seq (field ["customBlockTypes", "custom_block_types"] [] Check.texts)
  let made := made.seq
    (field ["includeBase", "include_base"] none (Check.optional Check.path))
  made.seq (field ["strict"] settings.strict Check.bool)

/-- The pattern of placeholders that the settings give. -/
def settingsPattern (settings : Settings) : Except Failure Pattern :=
  match Pattern.read settings.interpolate with
  | .ok p => .ok p
  | .error why => .error (.unreadablePattern settings.interpolate why)

/-- The options that a mapping gives. -/
def ofEntries (settings : Settings) (es : List (Value × Value)) : Except Failure Options := do
  let missing ← if givesPattern es then .ok ⟨[], .empty, 0, false⟩ else settingsPattern settings
  (check settings missing es).mapError Rejection.failure

/-- The options that a value gives: nothing and the empty text give none, a mapping gives its
entries, and anything else is no options. -/
def ofValue (settings : Settings) (v : Value) : Except Failure Options :=
  match v with
  | .null | .text [] => ofEntries settings []
  | .mapping es => ofEntries settings es
  | v => .error (.notOptions v.kindOf)

end Options
end BuildBlocks
