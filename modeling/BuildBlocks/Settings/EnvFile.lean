import BuildBlocks.Text.Basic

/-!
# Files of variables

A file of variables binds names to values, one binding a line: a name, an equals sign and a value,
which may stand in quotes. Lines that begin with a number sign are comments, and a line that is no
binding is skipped. A value in quotes may go over several lines and hold escapes; a value without
quotes ends before a comment.

Names in braces after a dollar sign, in values, stand for the variables bound before them or in the
environment.
-/

namespace BuildBlocks
namespace EnvFile

/-- A name and its value; a name may stand alone. -/
abbrev Binding := Text × Option Text

/-- Whether a character is blank and does not end a line. -/
def isInlineBlank (c : Char) : Bool := Text.isBlank c && c ≠ '\n' && c ≠ '\r'

/-- The text without the blanks at its start, up to the end of the line. -/
def skipInline (s : Text) : Text := s.dropWhile isInlineBlank

/-- Whether a character ends a line. -/
def endsLine (c : Char) : Bool := c = '\n' || c = '\r'

/-- What follows the end of the line at the start of a text. -/
def afterLine : Text → Option Text
  | [] => some []
  | '\r' :: '\n' :: rest => some rest
  | c :: rest => if endsLine c then some rest else none

/-- What follows the current line. -/
def nextLine (s : Text) : Text := (s.dropWhile (!endsLine ·)).drop 1

/-! ## Names and values -/

/-- What stands up to the closing quote, and what follows it. A quote after a backslash does not
close. -/
def untilQuote (quote : Char) : Text → Option (Text × Text)
  | [] => none
  | ['\\'] => none
  | '\\' :: c :: rest =>
    (untilQuote quote rest).map fun (body, after) => ('\\' :: c :: body, after)
  | c :: rest =>
    if c = quote then some ([], rest)
    else (untilQuote quote rest).map fun (body, after) => (c :: body, after)

/-- The character that a backslash and a letter stand for in double quotes. -/
def escape? : Char → Option Char
  | '\\' => some '\\'
  | '\'' => some '\''
  | '"' => some '"'
  | 'a' => some '\x07'
  | 'b' => some '\x08'
  | 'f' => some '\x0c'
  | 'n' => some '\n'
  | 'r' => some '\r'
  | 't' => some '\t'
  | 'v' => some '\x0b'
  | _ => none

/-- The text with its escapes replaced. In single quotes only backslashes and single quotes are
escaped. -/
def unescape (double : Bool) : Text → Text
  | '\\' :: c :: rest =>
    match (if double || c = '\\' || c = '\'' then escape? c else none) with
    | some e => e :: unescape double rest
    | none => '\\' :: unescape double (c :: rest)
  | c :: rest => c :: unescape double rest
  | [] => []

/-- A value without quotes: what stands before blanks and a number sign. -/
def beforeComment : Text → Text
  | [] => []
  | c :: rest =>
    if Text.isBlank c && ((c :: rest).dropWhile Text.isBlank).head? = some '#' then []
    else c :: beforeComment rest

/-- The value after an equals sign and what follows it, or the place of a quote that is not closed. -/
def value (s : Text) : Except Text (Text × Text) :=
  let quotedBy (quote : Char) (rest : Text) : Except Text (Text × Text) :=
    match untilQuote quote rest with
    | some (v, after) => .ok (unescape (quote = '"') v, after)
    | none => .error (quote :: rest)
  match skipInline s with
  | '\'' :: rest => quotedBy '\'' rest
  | '"' :: rest => quotedBy '"' rest
  | _ => .ok (Text.trim (beforeComment (s.takeWhile (!endsLine ·))), s.dropWhile (!endsLine ·))

/-- What follows a word and the blanks after it, if the text begins with both. -/
def skipExport (s : Text) : Text :=
  match Text.dropPrefix? "export".toList s with
  | some rest => if rest.head?.any isInlineBlank then skipInline rest else s
  | none => s

/-- The name at the start of a text, and what follows it. A comment has no name. -/
def name? (s : Text) : Option (Option Text × Text) :=
  match s with
  | '#' :: _ => some (none, s)
  | '\'' :: rest =>
    let name := rest.takeWhile (· ≠ '\'')
    match rest.dropWhile (· ≠ '\'') with
    | _ :: after => if name.isEmpty then none else some (some name, after)
    | [] => none
  | s =>
    let inName (c : Char) : Bool := c ≠ '=' && c ≠ '#' && !Text.isBlank c
    if (s.takeWhile inName).isEmpty then none
    else some (some (s.takeWhile inName), s.dropWhile inName)

/-- The text after a comment at its start, if there is one. -/
def skipRemark (s : Text) : Text :=
  match skipInline s with
  | '#' :: rest => rest.dropWhile (!endsLine ·)
  | _ => s

/-- The binding at the start of a text and what follows its line, or the place at which the text is no
binding any more. -/
def binding (s : Text) : Except Text (Option Binding × Text) := do
  let s := skipExport s
  match name? s with
  | none => .error s
  | some (name, rest) =>
    let (v, rest) ← match skipInline rest with
      | '=' :: rest => (value rest).map fun (v, after) => (some v, after)
      | rest => .ok (none, rest)
    let rest := skipRemark rest
    match afterLine (skipInline rest) with
    | some after => .ok (name.map (·, v), after)
    | none => .error rest

/-- The bindings of a text, of which at most `fuel` lines are read. -/
def bindingsFrom : (fuel : Nat) → Text → List Binding
  | 0, _ => []
  | fuel + 1, s =>
    match Text.trimStart s with
    | [] => []
    | s => match binding s with
      | .ok (some b, rest) => b :: bindingsFrom fuel rest
      | .ok (none, rest) => bindingsFrom fuel rest
      | .error rest => bindingsFrom fuel (nextLine rest)

/-! ## Variables in values -/

/-- A variable in braces at the start of a text: its name, what stands in for it, and what follows. -/
def reference? (s : Text) : Option (Text × Text × Text) := do
  let rest ← Text.dropPrefix? "$\x7b".toList s
  let inName (c : Char) : Bool := c ≠ '\x7d' && c ≠ ':'
  let name := rest.takeWhile inName
  match rest.dropWhile inName with
  | '\x7d' :: after => some (name, [], after)
  | ':' :: '-' :: more => match more.dropWhile (· ≠ '\x7d') with
    | _ :: after => some (name, more.takeWhile (· ≠ '\x7d'), after)
    | [] => none
  | _ => none

/-- A value with its variables replaced, of which at most `fuel` characters are read. -/
def resolveFrom (known : List Binding) : (fuel : Nat) → Text → Text
  | 0, s => s
  | _ + 1, [] => []
  | fuel + 1, c :: cs =>
    match reference? (c :: cs) with
    | some (name, otherwise, after) =>
      let value := match known.lookup name with
        | some v => v.getD []
        | none => otherwise
      value ++ resolveFrom known fuel after
    | none => c :: resolveFrom known fuel cs

/-- Bindings with the variables in their values replaced; `known` holds those bound before. -/
def resolve (known : List Binding) : List Binding → List Binding
  | [] => []
  | (name, value) :: rest =>
    let value := value.map fun v => resolveFrom known (v.length + 1) v
    (name, value) :: resolve ((name, value) :: known) rest

/-- The bindings of a file of variables in an environment. A mark of the byte order in front of them
does not count. -/
def parse (environment : List (Text × Text)) (s : Text) : List Binding :=
  let known := environment.reverse.map fun (name, value) => (name, some value)
  let s := if s.head? = some '\ufeff' then s.drop 1 else s
  resolve known (bindingsFrom (s.length + 1) s)

end EnvFile
end BuildBlocks
