import BuildBlocks.Value.Basic

/-!
# Values in JSON

`Value.ofJson?` reads a value that is written in JSON. The entries of an object keep their order, and
a key that comes again replaces the value under it. Besides the numbers of the format, `NaN` and the
infinities are understood.

Every step takes a character or goes one level deeper, so the number of steps is bounded by the
length of the text.
-/

namespace BuildBlocks
namespace Json

/-- The text without the blanks at its start. -/
def skip (s : Text) : Text := s.dropWhile fun c => c = ' ' || c = '\t' || c = '\n' || c = '\r'

/-- The value of a digit in base sixteen. -/
def hexDigit? (c : Char) : Option Nat :=
  if c.isDigit then some (c.toNat - 48)
  else if 'a' ≤ c && c ≤ 'f' then some (c.toNat - 87)
  else if 'A' ≤ c && c ≤ 'F' then some (c.toNat - 55)
  else none

/-- The code unit of four digits in base sixteen, and what follows them. -/
def unit? : Text → Option (Nat × Text)
  | a :: b :: c :: d :: rest => do
    let n := (((← hexDigit? a) * 16 + (← hexDigit? b)) * 16 + (← hexDigit? c)) * 16 + (← hexDigit? d)
    some (n, rest)
  | _ => none

/-- The character of a code unit, or of two that belong together, and what follows. -/
def charOfUnits (first : Nat) (rest : Text) : Char × Text :=
  match rest with
  | '\\' :: 'u' :: more =>
    match unit? more with
    | some (second, after) =>
      if 0xd800 ≤ first && first < 0xdc00 && 0xdc00 ≤ second && second < 0xe000 then
        (Char.ofNat (0x10000 + (first - 0xd800) * 0x400 + (second - 0xdc00)), after)
      else (Text.charOfCode first, rest)
    | none => (Text.charOfCode first, rest)
  | _ => (Text.charOfCode first, rest)

/-- The character that a backslash and a letter stand for. -/
def escape? : Char → Option Char
  | '"' => some '"'
  | '\\' => some '\\'
  | '/' => some '/'
  | 'b' => some '\x08'
  | 'f' => some '\x0c'
  | 'n' => some '\n'
  | 'r' => some '\r'
  | 't' => some '\t'
  | _ => none

/-- The characters of a string up to its closing quote, and what follows it. -/
def string? : (fuel : Nat) → Text → Option (Text × Text)
  | 0, _ => none
  | fuel + 1, s =>
    match s with
    | [] => none
    | '"' :: rest => some ([], rest)
    | '\\' :: 'u' :: rest => do
      let (first, rest) ← unit? rest
      let (c, rest) := charOfUnits first rest
      let (cs, rest) ← string? fuel rest
      some (c :: cs, rest)
    | '\\' :: e :: rest => do
      let c ← escape? e
      let (cs, rest) ← string? fuel rest
      some (c :: cs, rest)
    | c :: rest =>
      if c.toNat < 0x20 || c = '\\' then none
      else do
        let (cs, rest) ← string? fuel rest
        some (c :: cs, rest)

/-- The digits at the start of a text, and what follows them. -/
def digits (s : Text) : Text × Text := (s.takeWhile Char.isDigit, s.dropWhile Char.isDigit)

/-- A point and the digits after it, or nothing, and what follows. -/
def fraction (s : Text) : Text × Text :=
  match s with
  | '.' :: rest => if (digits rest).1.isEmpty then ([], s) else ('.' :: (digits rest).1, (digits rest).2)
  | _ => ([], s)

/-- The sign at the start of a text, if there is one, and what follows. -/
def sign (s : Text) : Text × Text :=
  match s with
  | '+' :: rest => (['+'], rest)
  | '-' :: rest => (['-'], rest)
  | _ => ([], s)

/-- The mark of an exponent and its digits, or nothing, and what follows. -/
def exponent (s : Text) : Text × Text :=
  match s with
  | e :: rest =>
    if e = 'e' || e = 'E' then
      let (signed, after) := sign rest
      if (digits after).1.isEmpty then ([], s) else (e :: signed ++ (digits after).1, (digits after).2)
    else ([], s)
  | [] => ([], s)

/-- The whole number that digits write. -/
def natOf (ds : Text) : Nat := ds.foldl (fun n c => n * 10 + (c.toNat - 48)) 0

/-- A number at the start of a text, and what follows it. -/
def number? (s : Text) : Option (Value × Text) :=
  let (negative, body) := match s with
    | '-' :: rest => (true, rest)
    | _ => (false, s)
  let (whole, rest) := match body with
    | '0' :: rest => (['0'], rest)
    | _ => digits body
  if whole.isEmpty then none
  else
    let (frac, rest) := fraction rest
    let (exp, rest) := exponent rest
    if frac.isEmpty && exp.isEmpty then
      let n : Int := natOf whole
      some (.int (if negative then -n else n), rest)
    else
      (Double.readUnsigned? negative (whole ++ frac ++ exp)).map fun d => (.double d, rest)

/-- A word that stands for a value, and what follows it. -/
def word? (s : Text) : Option (Value × Text) :=
  [("null", .null), ("true", .bool true), ("false", .bool false), ("NaN", .double .nan),
    ("Infinity", .double (.infinite false)), ("-Infinity", .double (.infinite true))].findSome?
    fun (w, v) => (Text.dropPrefix? w.toList s).map (v, ·)

mutual

/-- A value at the start of a text, and what follows it. -/
def value? (fuel : Nat) (s : Text) : Option (Value × Text) :=
  match fuel with
  | 0 => none
  | fuel + 1 =>
    match s with
    | '"' :: rest => (string? (rest.length + 1) rest).map fun (t, rest) => (.text t, rest)
    | '[' :: rest =>
      match skip rest with
      | ']' :: rest => some (.list [], rest)
      | rest => (items? fuel rest).map fun (vs, rest) => (.list vs, rest)
    | '\x7b' :: rest =>
      match skip rest with
      | '\x7d' :: rest => some (.mapping [], rest)
      | rest => (members? fuel rest []).map fun (es, rest) => (.mapping es, rest)
    | s => (word? s).orElse fun _ => number? s

/-- The items of a list up to its closing bracket, and what follows it. -/
def items? (fuel : Nat) (s : Text) : Option (List Value × Text) :=
  match fuel with
  | 0 => none
  | fuel + 1 => do
    let (v, rest) ← value? fuel (skip s)
    match skip rest with
    | ']' :: rest => some ([v], rest)
    | ',' :: rest =>
      let (vs, rest) ← items? fuel rest
      some (v :: vs, rest)
    | _ => none

/-- The entries of an object up to its closing brace, added to those before, and what follows it. -/
def members? (fuel : Nat) (s : Text) (before : List (Value × Value)) :
    Option (List (Value × Value) × Text) :=
  match fuel with
  | 0 => none
  | fuel + 1 =>
    match skip s with
    | '"' :: rest => do
      let (key, rest) ← string? (rest.length + 1) rest
      match skip rest with
      | ':' :: rest =>
        let (v, rest) ← value? fuel (skip rest)
        let entries := Value.setEntry (.text key) v before
        match skip rest with
        | '\x7d' :: rest => some (entries, rest)
        | ',' :: rest => members? fuel rest entries
        | _ => none
      | _ => none
    | _ => none

end

end Json

/-- The value that a text writes in JSON, with nothing but blanks around it. -/
def Value.ofJson? (s : Text) : Option Value := do
  let (v, rest) ← Json.value? (2 * s.length + 1) (Json.skip s)
  if (Json.skip rest).isEmpty then some v else none

end BuildBlocks
