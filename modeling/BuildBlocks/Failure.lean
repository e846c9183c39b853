import BuildBlocks.Disk.Walk
import BuildBlocks.Fault
import BuildBlocks.Moment.Bounds
import BuildBlocks.Options.Invalid
import BuildBlocks.Pattern.Flaw

/-!
# Failures

Everything that can end a run: a fault of a page, a refusal of the system, bytes that are no text, a
number that is too long, options that cannot be used. Each failure is a cause; `Failure.message`
holds the wording.
-/

namespace BuildBlocks

/-- Why a run ended without a result. -/
inductive Failure where
  /-- The page is wrong. -/
  | fault (f : Fault)
  /-- The system refused a path. -/
  | refused (why : Refusal) (path : Text)
  /-- The bytes of a file are no text. -/
  | undecodable (e : DecodeError)
  /-- A text has no bytes in the encoding. -/
  | unencodable (e : EncodeError)
  /-- No encoding has this name. -/
  | unknownEncoding (name : Text)
  /-- A path holds a character that no path can hold. -/
  | nullInPath
  /-- Links lead in a circle. -/
  | linkLoop (path : Text)
  /-- A written number has too many digits to be read. -/
  | longNumber (digits : Nat)
  /-- A number has too many digits to be written. -/
  | longValue
  /-- A handler of a block type looked for a key that is not there. -/
  | missingKey (key : Text)
  /-- A block type was registered with a handler that is none. -/
  | notHandler (block : Text)
  /-- Options of a kind that holds no options. -/
  | notOptions (k : Kind)
  /-- A text that should be a pattern and is none. -/
  | unreadablePattern (source : Text) (why : Pattern.Problem)
  /-- Options that cannot be used. -/
  | invalid (problems : List InvalidOption)
  /-- A setting that is no list. -/
  | unreadableSetting (setting origin : String)
  /-- A value that should be a path and is none. -/
  | notPath (k : Kind)
  /-- A value that should be a pattern for files and is none. -/
  | notGlob (k : Kind)
  /-- Nothing where a pattern for files should be. -/
  | emptyGlob (shown : Text)
  /-- A pattern for files that does not start at the input folder. -/
  | absoluteGlob
  /-- A pattern for files that holds no names. -/
  | pointGlob (slash : Bool)
  /-- Two stars in a pattern for files that do not stand alone. -/
  | recursiveGlob
  /-- A number of workers below one. -/
  | noWorkers
  /-- A data file that is malformed. -/
  | malformedData
  /-- A text that should be a whole number and is none. -/
  | notWhole (base : Nat) (s : Text)
  /-- A text that should be a number and is none. -/
  | notDecimal (s : Text)
  /-- Nothing where a number should be. -/
  | emptyNumber
  /-- A number in base sixty with too many places. -/
  | manyPlaces
  /-- A code point beyond the last one. -/
  | noSuchCode (huge : Bool)
  /-- A mapping where the parts of a moment should be. -/
  | momentInMapping
  /-- A mapping that stands for a value which is that mapping again. -/
  | endlessDefault
  /-- A text that should be a moment and is none. -/
  | notMoment
  /-- A moment that does not exist. -/
  | noSuchMoment (why : Moment.Problem)
  deriving Repr

namespace Failure

/-- How much of a text is shown that is no whole number. -/
def maxShown : Nat := 200

/-- The wording of a failure. -/
def message : Failure → String
  | .fault f => f.message
  | .refused why path => s!"[Errno {why.code}] {why.wording}: {Text.quoted path}"
  | .undecodable e => e.message
  | .unencodable e => e.message
  | .unknownEncoding name => s!"unknown encoding: {name}"
  | .nullInPath => "embedded null byte"
  | .linkLoop path => s!"Symlink loop from {Text.quoted path}"
  | .longNumber digits =>
    s!"Exceeds the limit ({Whole.maxDigits} digits) for integer string conversion: value has " ++
      s!"{digits} digits; use sys.set_int_max_str_digits() to increase the limit"
  | .longValue =>
    s!"Exceeds the limit ({Whole.maxDigits} digits) for integer string conversion; use " ++
      "sys.set_int_max_str_digits() to increase the limit"
  | .missingKey key => String.ofList (Text.quoted key)
  | .notHandler block => s!"Handler for block type '{block}' is not callable"
  | .notOptions k => s!"Unsupported options type: {k.name}"
  | .unreadablePattern source why => why.message source
  | .invalid problems => s!"{problems.length} invalid options"
  | .unreadableSetting setting origin =>
    s!"error parsing value for field \"{setting}\" from source \"{origin}\""
  | .notPath k => s!"expected str, bytes or os.PathLike object, not {k.name}"
  | .notGlob k => s!"'{k.name}' object is not subscriptable"
  | .emptyGlob shown => s!"Unacceptable pattern: {shown}"
  | .absoluteGlob => "Non-relative patterns are unsupported"
  | .pointGlob slash =>
    if slash then "'_TerminatingSelector' object has no attribute 'select_from'"
    else "tuple index out of range"
  | .recursiveGlob => "Invalid pattern: '**' can only be an entire path component"
  | .noWorkers => "max_workers must be greater than 0"
  | .malformedData => "malformed data file"
  | .notWhole base s =>
    let shown := (Text.quoted s).take maxShown
    s!"invalid literal for int() with base {base}: {shown}"
  | .notDecimal s => s!"could not convert string to float: {Text.quoted s}"
  | .emptyNumber => "string index out of range"
  | .manyPlaces => "int too large to convert to float"
  | .noSuchCode huge =>
    if huge then "Python int too large to convert to C int" else "chr() arg not in range(0x110000)"
  | .momentInMapping => "expected string or bytes-like object, got 'list'"
  | .endlessDefault => "maximum recursion depth exceeded"
  | .notMoment => "'NoneType' object has no attribute 'groupdict'"
  | .noSuchMoment why => why.message

/-- The fault of a page that a failure reports, if it reports one. -/
def fault? : Failure → Option Fault
  | .fault f => some f
  | _ => none

end Failure
end BuildBlocks
