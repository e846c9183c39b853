import BuildBlocks.Text.Printable

/-!
# Quoted texts

How a text is shown inside a list, a mapping or a message about it: between quotes, with the
characters that would not read back written as escapes. Single quotes are used unless the text
holds single quotes and no double ones.
-/

namespace BuildBlocks
namespace Text

/-- The quote that encloses `s`. -/
def quoteFor (s : Text) : Char :=
  if s.contains '\'' && !s.contains '"' then '"' else '\''

/-- `n` in base sixteen with lower-case digits, filled with zeros to `width` places. -/
def hexPadded (width n : Nat) : Text :=
  let ds := Nat.toDigits 16 n
  List.replicate (width - ds.length) '0' ++ ds

/-- A character that is not printable, as the shortest escape that can hold its code point. -/
def escapeByCode (c : Char) : Text :=
  let n := codeOf c
  if n ≤ 0xff then '\\' :: 'x' :: hexPadded 2 n
  else if n ≤ 0xffff then '\\' :: 'u' :: hexPadded 4 n
  else '\\' :: 'U' :: hexPadded 8 n

/-- One character of a text enclosed in `quote`. -/
def quoteChar (quote c : Char) : Text :=
  if c = quote || c = '\\' then ['\\', c]
  else if c = '\n' then ['\\', 'n']
  else if c = '\r' then ['\\', 'r']
  else if c = '\t' then ['\\', 't']
  else if isPrintable c then [c]
  else escapeByCode c

/-- The text between quotes. -/
def quoted (s : Text) : Text :=
  let q := quoteFor s
  q :: s.flatMap (quoteChar q) ++ [q]

end Text
end BuildBlocks
