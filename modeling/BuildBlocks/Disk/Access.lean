import BuildBlocks.Disk.Resolve
import BuildBlocks.Failure

/-!
# Reading and writing files

What a run does with its disk: ask whether a path leads to a file or a folder, resolve a path, read
the text of a file, make a folder and write a file. Line ends are unified when a file is read and
kept as they are when it is written.

Writing replaces what the file held before its text is encoded, so a text that cannot be encoded
leaves an empty file behind.
-/

namespace BuildBlocks

/-- The codec of an encoding, or the failure that its name stands for none. -/
def Encoding.codec (e : Encoding) : Except Failure Codec :=
  match e.codec? with
  | some codec => .ok codec
  | none => .error (.unknownEncoding e.name)

namespace Disk

/-- Whether no path can hold a character: the null character, or a surrogate other than those that
stand for bytes of a path that are no text. -/
def isBarred (c : Char) : Bool :=
  c = Char.ofNat 0 ||
    Text.isSurrogate c && !(0xdc80 ≤ Text.codeOf c && Text.codeOf c < 0xdd00)

/-- Whether a path holds a character that no path can hold. -/
def hasBarred (p : Path) : Bool := p.parts.any (·.any isBarred)

/-- What a path leads to. A path that leads nowhere leads to nothing; only a name that is too long
is a failure. -/
def find? (disk : Disk) (p : Path) : Except Failure (Option Entry) :=
  if hasBarred p then .ok none
  else match disk.locate p with
    | .ok (.present _ e) => .ok (some e)
    | .ok (.absent _) => .ok none
    | .error .nameTooLong => .error (.refused .nameTooLong p.toText)
    | .error _ => .ok none

/-- Whether a path leads to a file. -/
def isFile (disk : Disk) (p : Path) : Except Failure Bool :=
  (disk.find? p).map fun e => e.any Entry.isFile

/-- Whether a path leads to a folder. -/
def isFolder (disk : Disk) (p : Path) : Except Failure Bool :=
  (disk.find? p).map fun e => e == some .folder

/-- The resolved form of a path. Links that lead in a circle are a failure. -/
def resolve (disk : Disk) (p : Path) : Except Failure Path :=
  if hasBarred p then .error .nullInPath
  else
    let resolved := Path.absolute (disk.resolvePlace p)
    match disk.locate resolved with
    | .error .tooManyLinks => .error (.linkLoop resolved.toText)
    | _ => .ok resolved

/-- The bytes of the file at a path. -/
def readBytes (disk : Disk) (p : Path) : Except Failure Bytes :=
  if hasBarred p then .error .nullInPath
  else match disk.locate p with
    | .ok (.present _ (.file content)) => .ok content
    | .ok (.present _ (.source _)) => .ok []
    | .ok (.present _ _) => .error (.refused .isFolder p.toText)
    | .ok (.absent _) => .error (.refused .notFound p.toText)
    | .error why => .error (.refused why p.toText)

/-- The text of the file at a path. -/
def readText (disk : Disk) (encoding : Encoding) (p : Path) : Except Failure Text := do
  let content ← disk.readBytes p
  let codec ← encoding.codec
  match codec.decode content with
  | .ok s => .ok (Text.unifyNewlines s)
  | .error e => .error (.undecodable e)

/-- Makes the folder at a path whose parent is there. -/
def makeOneFolder (disk : Disk) (p : Path) : Except Refusal Disk :=
  match disk.locateLast p with
  | .ok (.present _ _) => .error .exists
  | .ok (.absent place) => .ok (disk.set place .folder)
  | .error why => .error why

/-- A folder that could not be made is no failure if it is there. -/
def keepFolder (disk : Disk) (p : Path) (why : Refusal) : Except Failure Unit := do
  if ← disk.isFolder p then .ok () else .error (.refused why p.toText)

/-- Makes the folder at a path when the folders above it have been made: the disk afterwards, and the
failure if there was one. -/
def buildLast (disk : Disk) (p : Path) : Disk × Except Failure Unit :=
  match disk.makeOneFolder p with
  | .ok made => (made, .ok ())
  | .error .notFound => (disk, .error (.refused .notFound p.toText))
  | .error why => (disk, disk.keepFolder p why)

-- The condition `h` is used by `decreasing_by` only.
set_option linter.unusedVariables false in
/-- Makes the folder with names `parts` and the folders above it: the disk afterwards, and the failure
if there was one. A folder that is there already is left alone, and folders that were made before a
failure stay. -/
def buildFolders (disk : Disk) (root : Text) (parts : List Text) : Disk × Except Failure Unit :=
  let p : Path := ⟨root, parts⟩
  match disk.makeOneFolder p with
  | .ok made => (made, .ok ())
  | .error .notFound =>
    if h : parts = [] then (disk, .error (.refused .notFound p.toText))
    else
      match disk.buildFolders root parts.dropLast with
      | (above, .error e) => (above, .error e)
      | (above, .ok ()) => above.buildLast p
  | .error why => (disk, disk.keepFolder p why)
termination_by parts.length
decreasing_by
  have := List.length_pos_iff.2 h
  rw [List.length_dropLast]
  omega

/-- Makes the folder at a path and the folders above it. -/
def buildFolder (disk : Disk) (p : Path) : Disk × Except Failure Unit :=
  if hasBarred p then (disk, .error .nullInPath) else disk.buildFolders p.root p.parts

/-- The disk with the folder at a path and the folders above it. -/
def makeFolder (disk : Disk) (p : Path) : Except Failure Disk :=
  let (built, made) := disk.buildFolder p
  made.map fun _ => built

/-- The place at which a file can be written. -/
def writable (disk : Disk) (p : Path) : Except Failure Place :=
  if hasBarred p then .error .nullInPath
  else match disk.locate p with
    | .ok (.present place (.file _)) | .ok (.present place (.source _)) => .ok place
    | .ok (.absent place) => .ok place
    | .ok (.present _ _) => .error (.refused .isFolder p.toText)
    | .error why => .error (.refused why p.toText)

/-- Writes a text to the file at a path: the disk afterwards, and the failure if there was one. -/
def writeText (disk : Disk) (encoding : Encoding) (p : Path) (s : Text) :
    Disk × Except Failure Unit :=
  match disk.writable p with
  | .error e => (disk, .error e)
  | .ok place =>
    let emptied := disk.set place (.file [])
    match encoding.codec with
    | .error e => (emptied, .error e)
    | .ok codec => match codec.encode s with
      | .ok bytes => (disk.set place (.file bytes), .ok ())
      | .error e => (emptied, .error (.unencodable e))

end Disk
end BuildBlocks
