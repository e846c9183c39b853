/-!
# Texts

A text is a list of characters: positions and lengths count code points. Pages, markers, names and
rendered values are texts; `String` is left to the fixed wording of messages.

## Contents

- blanks, and trimming them off both ends;
- splitting at separators, joining, and taking a known beginning off;
- lines with their ends kept (`lines`), which put together give the text again (`flatten_lines`);
- code points, and the characters that stand for surrogates.
-/

namespace BuildBlocks

/-- A text is the list of its characters. -/
abbrev Text := List Char

/-- In a message a text stands for its characters. -/
instance : ToString Text := ⟨String.ofList⟩

namespace Text

/-! ## Blanks -/

/-- The code points of blank characters: ASCII controls that move the print position, the
information separators, and the space separators of Unicode. -/
def isBlank (c : Char) : Bool :=
  let n := c.toNat
  (0x9 ≤ n && n ≤ 0xd) || (0x1c ≤ n && n ≤ 0x20) || n == 0x85 || n == 0xa0 || n == 0x1680 ||
    (0x2000 ≤ n && n ≤ 0x200a) || n == 0x2028 || n == 0x2029 || n == 0x202f || n == 0x205f ||
    n == 0x3000

/-- The text without the blanks at its start. -/
def trimStart (s : Text) : Text := s.dropWhile isBlank

/-- The text without the blanks at its end. -/
def trimEnd (s : Text) : Text := (s.reverse.dropWhile isBlank).reverse

/-- The text without the blanks at its ends. -/
def trim (s : Text) : Text := trimEnd (trimStart s)

/-- Whether the text holds nothing but blanks. -/
def allBlank (s : Text) : Bool := s.all isBlank

/-! ## Characters by code point -/

/-- Whether the code point of `c` lies in one of the closed ranges. -/
def inRanges (ranges : Array (Nat × Nat)) (c : Char) : Bool :=
  ranges.any fun (lo, hi) => lo ≤ c.toNat && c.toNat ≤ hi

/-- Whether `c` is one of the ASCII digits. -/
def isAsciiDigit (c : Char) : Bool := c.isDigit

/-! ## Surrogates

A surrogate alone is no character, but escapes in data can ask for one. Such a text holds the character
of the same number in the first plane for private use instead. No codec that is built here has bytes
for it.
-/

/-- Whether a character stands for a surrogate. -/
def isSurrogate (c : Char) : Bool := 0xfd800 ≤ c.toNat && c.toNat < 0xfe000

/-- The character of a code point, or the one that stands for it. -/
def charOfCode (n : Nat) : Char :=
  if 0xd800 ≤ n && n < 0xe000 then Char.ofNat (0xf0000 + n) else Char.ofNat n

/-- The code point of a character, or of the surrogate that it stands for. -/
def codeOf (c : Char) : Nat := if isSurrogate c then c.toNat - 0xf0000 else c.toNat

/-! ## Order -/

/-- Whether `s` comes before `t` or equals it, by the code points of the first characters in which
they differ. -/
def le : (s t : Text) → Bool
  | [], _ => true
  | _ :: _, [] => false
  | a :: s, b :: t => if a = b then le s t else a.toNat < b.toNat

/-! ## Cutting and joining -/

/-- What follows `start` in `s`, if `s` begins with it. -/
def dropPrefix? : (start s : Text) → Option Text
  | [], s => some s
  | _ :: _, [] => none
  | p :: ps, c :: cs => if p = c then dropPrefix? ps cs else none

/-- Whether `s` begins with `start`. -/
def startsWith (s start : Text) : Bool := (dropPrefix? start s).isSome

/-- Whether `s` ends with `tail`. -/
def endsWith (s tail : Text) : Bool := startsWith s.reverse tail.reverse

/-- The pieces between the characters that satisfy `sep`; there is one more piece than there are
separators. -/
def splitBy (sep : Char → Bool) : Text → List Text
  | [] => [[]]
  | c :: cs =>
    if sep c then [] :: splitBy sep cs
    else match splitBy sep cs with
      | [] => [[c]]
      | w :: ws => (c :: w) :: ws

/-- The pieces put together with `sep` between them. -/
def join (sep : Text) : List Text → Text
  | [] => []
  | [w] => w
  | w :: ws => w ++ sep ++ join sep ws

/-- What follows the last `sep` of the text, or the whole text if there is none. -/
def afterLast (sep : Char) (s : Text) : Text :=
  (s.reverse.takeWhile (· != sep)).reverse

/-- The text cut at the first `sep`, which belongs to neither part. -/
def cutAt (sep : Char) (s : Text) : Option (Text × Text) :=
  match s.span (· != sep) with
  | (_, []) => none
  | (before, _ :: after) => some (before, after)

/-! ## Lines -/

/-- The number of newline characters in the text. -/
def newlines (s : Text) : Nat := s.count '\n'

/-- The characters that end a line. -/
def isLineEnd (c : Char) : Bool :=
  let n := c.toNat
  (0xa ≤ n && n ≤ 0xd) || (0x1c ≤ n && n ≤ 0x1e) || n == 0x85 || n == 0x2028 || n == 0x2029

/-- A first character put in front of the first line. -/
def extendLine (c : Char) : List Text → List Text
  | [] => [[c]]
  | l :: ls => (c :: l) :: ls

/-- The lines of the text, each with the character that ends it; a carriage return and the newline
after it end a line together. -/
def lines : Text → List Text
  | [] => []
  | '\r' :: '\n' :: cs => ['\r', '\n'] :: lines cs
  | c :: cs => if isLineEnd c then [c] :: lines cs else extendLine c (lines cs)

theorem flatten_extendLine (c : Char) (ls : List Text) :
    (extendLine c ls).flatten = c :: ls.flatten := by
  cases ls <;> simp [extendLine]

/-- The lines put together are the text. -/
@[simp] theorem flatten_lines (s : Text) : (lines s).flatten = s := by
  fun_induction lines s with
  | case1 => rfl
  | case2 cs ih => simp [ih]
  | case3 c cs _ _ ih => simp [ih]
  | case4 c cs _ _ ih => simp [flatten_extendLine, ih]

/-- Carriage returns, alone or before a newline, read as newlines. -/
def unifyNewlines : Text → Text
  | [] => []
  | '\r' :: '\n' :: cs => '\n' :: unifyNewlines cs
  | c :: cs => (if c = '\r' then '\n' else c) :: unifyNewlines cs

end Text
end BuildBlocks
