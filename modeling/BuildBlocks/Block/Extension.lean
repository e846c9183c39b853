import BuildBlocks.Block.Registry
import BuildBlocks.Disk.Access

/-!
# Extensions

A run can take block types from extension files. Loading one looks the file up, reads it and lets it
register its types; anything that goes wrong on the way is a fault that names the file.

What an extension does is data: the requests that it makes, in order, or the way in which it fails.
Which extension a file is cannot be read off the file, so loading takes it as a parameter. A run that
is given nothing else knows the extensions that `Extension.catalogue` lists by name.
-/

namespace BuildBlocks

/-- What loading an extension file does. -/
inductive Extension where
  /-- The file cannot be read as an extension. -/
  | unreadable (reason : String)
  /-- The file offers no way to register anything. -/
  | noRegister
  /-- The file makes these requests. -/
  | requests (qs : List Registry.Request)
  /-- The file gives up instead of making requests. -/
  | givesUp (reason : String)
  deriving Repr

namespace Extension

/-- An extension that registers one block type made of parts. -/
def ofParts (name : String) (ps : List Part) : Extension :=
  .requests [⟨name.toList, [], .handler (.parts ps), false, []⟩]

/-- The extensions that are known by name. -/
def catalogue : List (String × Extension) := [
  ("upper", ofParts "upper" [.upperBody]),
  ("env", ofParts "env" [.params, .literal [':'], .environment]),
  ("only", .requests [⟨"only".toList, [], .handler (.parts [.body]), true, []⟩]),
  ("info", ofParts "info" [.kind, .literal ['|'], .targets, .literal ['|'], .params, .literal ['|'],
    .startLine, .literal ['|'], .endLine, .literal ['|'], .bodyOffset, .literal ['|'],
    .bodyLineCount, .literal ['|'], .includeDepth, .literal ['|'], .includeStackLength]),
  ("override_js", ofParts "js" [.literal "[js ".toList, .params, .literal [']'], .body]),
  ("attr_src", ofParts "[src]" [.literal "[src=".toList, .params, .literal [']'], .body]),
  ("multi", .requests [
    ⟨"one".toList, [], .handler (.parts [.literal ['1'], .body]), false, []⟩,
    ⟨"two".toList, [], .handler (.parts [.literal ['2'], .body]), false, []⟩]),
  ("raises", .requests [⟨"raises".toList, [], .handler .missingKey, false, []⟩]),
  ("no_register", .noRegister),
  ("register_not_callable", .noRegister),
  ("boom", .unreadable "boom"),
  ("register_boom", .givesUp "no"),
  ("not_callable", .requests [⟨"bad".toList, [], .other, false, []⟩]),
  ("empty_register", .requests [])]

/-- The extension that a file holds, if it is known by name. Any other file offers nothing. -/
def ofEntry : Entry → Extension
  | .source name => (catalogue.lookup (String.ofList name)).getD .noRegister
  | _ => .noRegister

/-- Makes the requests one after another. -/
def makeRequests (r : Registry) : List Registry.Request → Outcome Registry
  | [] => pure r
  | q :: qs => do
    let r ← r.acceptCustom q
    makeRequests r qs

/-- The fault of an extension file that cannot be loaded. -/
def fault (reason : String) (file : Text) : Failure := .fault (.loading reason file {})

/-- A failure while requests are made is a fault of the file. -/
def blame (file : Text) (x : Outcome Registry) : Outcome Registry :=
  ⟨x.notes, match x.result with
    | .ok r => .ok r
    | .error e => .error (fault s!"register() failed ({e.message})" file)⟩

/-- Lets an extension register its types. -/
def apply (file : Text) (e : Extension) (r : Registry) : Outcome Registry :=
  match e with
  | .unreadable reason =>
    Outcome.fail (fault s!"Failed to import custom block type ({reason})" file)
  | .noRegister =>
    Outcome.fail (fault "Custom block type source defines no callable register(registry)" file)
  | .givesUp reason => Outcome.fail (fault s!"register() failed ({reason})" file)
  | .requests qs => blame file (makeRequests r qs)

/-- The names that `after` has and `before` has not, in order. -/
def added (before after : Registry) : List Text :=
  (after.names.filter (!before.names.contains ·)).mergeSort Text.le

/-- Names as they are listed in a note. -/
def showNames (names : List Text) : Text :=
  '[' :: Text.join [',', ' '] (names.map Text.quoted) ++ [']']

/-- The end of the name of an extension file. -/
def suffix : Text := ".py".toList

/-- Loads one extension file. -/
def load (disk : Disk) (r : Registry) (file : Text)
    (extensionOf : Entry → Extension := ofEntry) : Outcome Registry := do
  let path := Path.ofText file
  match ← Outcome.ofExcept (disk.find? path) with
  | none => Outcome.fail (fault "Custom block type source not found" file)
  | some e =>
    if !e.isFile then Outcome.fail (fault "Custom block type source not found" file)
    else if !Text.endsWith path.toText suffix then
      Outcome.fail (fault "Custom block type source is not a Python module" file)
    else
      let after ← (extensionOf e).apply file r
      Outcome.note 2 s!"Loaded custom block types {showNames (added r after)} from {path}"
      pure after

/-- Loads extension files one after another. -/
def loadAll (disk : Disk) (r : Registry) (extensionOf : Entry → Extension) :
    List Text → Outcome Registry
  | [] => pure r
  | file :: files => do
    let r ← load disk r file extensionOf
    loadAll disk r extensionOf files

end Extension
end BuildBlocks
