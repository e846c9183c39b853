import BuildBlocks.Text.Digit

/-!
# Whole numbers in writing

A whole number is written with an optional sign and digits, between which single underscores may
stand, and with blanks around it. The digits may be those of any script. A number in base two, eight
or sixteen may carry the mark of its base.

The number of decimal digits is limited: a number with more of them is refused before anything that
follows the digits is looked at.
-/

namespace BuildBlocks

namespace Text

/-- Whether `c` is one of the blanks of ASCII that may surround a number. -/
def isNumberBlank (c : Char) : Bool :=
  c = ' ' || c = '\t' || c = '\n' || c = '\r' || c = '\x0b' || c = '\x0c'

/-- A number in a text that is not all ASCII, with its blanks and digits put into ASCII. It is cut
off at the first character that can belong to no number. -/
def digitsToAscii : Text → Text
  | [] => []
  | c :: cs =>
    if c.toNat < 127 then c :: digitsToAscii cs
    else if isBlank c then ' ' :: digitsToAscii cs
    else match digitValue? c with
      | some d => Char.ofNat (48 + d) :: digitsToAscii cs
      | none => ['?']

/-- A text that writes a number, in ASCII. -/
def asciiNumber (s : Text) : Text := if s.all (·.toNat < 128) then s else digitsToAscii s

/-- The text without the blanks around it that may surround a number. -/
def trimNumber (s : Text) : Text :=
  ((s.dropWhile isNumberBlank).reverse.dropWhile isNumberBlank).reverse

end Text

namespace Whole

/-- The most digits that a whole number may have to be read or written. -/
def maxDigits : Nat := 4300

/-- Why a text writes no whole number. -/
inductive Problem where
  | malformed
  | long (digits : Nat)
  deriving DecidableEq, Repr

/-- The value of a digit in bases up to sixteen. -/
def digit? (c : Char) : Option Nat :=
  if c.isDigit then some (c.toNat - 48)
  else if 'a' ≤ c && c ≤ 'f' then some (c.toNat - 87)
  else if 'A' ≤ c && c ≤ 'F' then some (c.toNat - 55)
  else none

/-- The digits of a base at the start of a text and what follows them. Single underscores may stand
between digits; `gap` tells that one has just been passed. -/
def digits? (base : Nat) (gap : Bool) : Text → Option (List Nat × Text)
  | [] => if gap then none else some ([], [])
  | c :: cs =>
    if c = '_' then (if gap then none else digits? base true cs)
    else match digit? c with
      | some d =>
        if d < base then (digits? base false cs).map fun (ds, rest) => (d :: ds, rest)
        else if gap then none else some ([], c :: cs)
      | none => if gap then none else some ([], c :: cs)

/-- The letter that marks a base. -/
def mark? : Nat → Option Char
  | 2 => some 'b'
  | 8 => some 'o'
  | 16 => some 'x'
  | _ => none

/-- The text without the mark of its base, after which one underscore may stand. -/
def dropMark (base : Nat) (s : Text) : Text :=
  match s, mark? base with
  | '0' :: c :: rest, some m =>
    if c.toLower = m then (if rest.head? = some '_' then rest.drop 1 else rest) else s
  | s, _ => s

/-- The whole number that an ASCII text writes after its sign. -/
def readUnsigned (base : Nat) (s : Text) : Except Problem Nat :=
  let body := dropMark base s
  if body.head? = some '_' then .error .malformed
  else match digits? base false body with
    | none => .error .malformed
    | some (ds, rest) =>
      if (mark? base).isNone ∧ maxDigits < ds.length then .error (.long ds.length)
      else if ds.isEmpty || !rest.all Text.isNumberBlank then .error .malformed
      else .ok (ds.foldl (fun n d => n * base + d) 0)

/-- The whole number that a text writes in a base. -/
def read (base : Nat) (s : Text) : Except Problem Int :=
  match (Text.asciiNumber s).dropWhile Text.isNumberBlank with
  | '-' :: rest => (readUnsigned base rest).map fun n => -(n : Int)
  | '+' :: rest => (readUnsigned base rest).map fun n => (n : Int)
  | rest => (readUnsigned base rest).map fun n => (n : Int)

end Whole
end BuildBlocks
