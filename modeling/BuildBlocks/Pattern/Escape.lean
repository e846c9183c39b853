import BuildBlocks.Pattern.Reader
import BuildBlocks.Text.CharacterName

/-!
# Characters of a pattern

A character of a pattern stands for itself, or an escape gives it: by a letter that stands for a
control character or a class, by its code point, or by its name. Sets hold characters, ranges and
classes.
-/

namespace BuildBlocks
namespace Pattern

/-- Whether `c` is a digit in base sixteen. -/
def isHexDigit (c : Char) : Bool :=
  c.isDigit || ('a' ≤ c && c ≤ 'f') || ('A' ≤ c && c ≤ 'F')

/-- Whether `c` is a digit in base eight. -/
def isOctalDigit (c : Char) : Bool := '0' ≤ c && c ≤ '7'

/-- The value of a digit in base sixteen. -/
def hexValue (c : Char) : Nat :=
  if c.isDigit then c.toNat - 48 else c.toLower.toNat - 87

/-- The number that digits write in a base. -/
def numberIn (base : Nat) (ds : Text) : Nat := ds.foldl (fun n c => n * base + hexValue c) 0

/-- The code point of a backslash and a letter that stands for a control character. -/
def controlCode? : Char → Option Nat
  | 'a' => some 7
  | 'f' => some 12
  | 'n' => some 10
  | 'r' => some 13
  | 't' => some 9
  | 'v' => some 11
  | '\\' => some 92
  | _ => none

/-- The class of a backslash and a letter that stands for a class. -/
def class? : Char → Option SetItem
  | 'd' => some (.named .digit false)
  | 'D' => some (.named .digit true)
  | 's' => some (.named .blank false)
  | 'S' => some (.named .blank true)
  | 'w' => some (.named .word false)
  | 'W' => some (.named .word true)
  | _ => none

/-- The code point given by exactly `n` digits in base sixteen after a backslash and the letter
`c`. -/
def hexCode (c : Char) (n : Nat) : Reader Nat := do
  let ds ← Reader.takeWhile isHexDigit n
  let written := '\\' :: c :: ds
  if ds.length ≠ n then Reader.flawBefore written.length (.incompleteEscape written)
  let code := numberIn 16 ds
  if 0x7fffffff < code then throw .hugeCode
  else if 0x10ffff < code then Reader.flawBefore written.length (.badEscape written)
  else return code

/-- The code point of a character given by its name in braces. -/
def namedCode : Reader Nat := do
  if !(← Reader.accept '\x7b') then Reader.flaw .missingBrace
  let name ← Reader.name '\x7d' "character name"
  match CharacterName.code? name with
  | some n => return n
  | none => Reader.flawBefore (name.length + 4) (.undefinedCharacter name)

/-- The code point of an escape that gives it by number or by name, if `c` begins one. -/
def codeEscape? (c : Char) : Reader (Option Nat) := do
  match c with
  | 'x' => return some (← hexCode c 2)
  | 'u' => return some (← hexCode c 4)
  | 'U' => return some (← hexCode c 8)
  | 'N' => return some (← namedCode)
  | _ => return none

/-- A code point given in base eight, which must be one of the first 256. -/
def octalCode (digits : Text) : Reader Nat := do
  let n := numberIn 8 digits
  if 0xff < n then Reader.flawBefore (digits.length + 1) (.octalRange ('\\' :: digits)) else return n

/-- An escape inside a set. -/
def setEscape (c : Char) : Reader SetItem := do
  if c = 'b' then return .one 8
  match controlCode? c, class? c with
  | some n, _ => return .one n
  | _, some k => return k
  | _, _ =>
    match ← codeEscape? c with
    | some n => return .one n
    | none =>
      if isOctalDigit c then return .one (← octalCode (c :: (← Reader.takeWhile isOctalDigit 2)))
      else if c.isAlphanum then Reader.flawBefore 2 (.badEscape ['\\', c])
      else return .one c.toNat

/-- The entry that a token of a set stands for. -/
def setToken : Token → Reader SetItem
  | .plain c => return .one c.toNat
  | .escaped c => setEscape c

/-- The entries of a set that begins at `start`, up to its closing bracket. The bracket closes the set
only after its first entry. -/
def setItems (start : Nat) : (fuel : Nat) → (items : List SetItem) → Reader (List SetItem)
  | 0, _ => Reader.flawAt .unterminatedSet start
  | fuel + 1, items => do
    match ← Reader.next with
    | none => Reader.flawAt .unterminatedSet start
    | some t =>
      if t = .plain ']' && !items.isEmpty then return items.reverse
      else
        let first ← setToken t
        if ← Reader.accept '-' then
          match ← Reader.next with
          | none => Reader.flawAt .unterminatedSet start
          | some (.plain ']') => return (.one '-'.toNat :: first :: items).reverse
          | some u =>
            let bad : Reader (List SetItem) :=
              Reader.flawBefore (t.text.length + 1 + u.text.length) (.badRange t.text u.text)
            match first, ← setToken u with
            | .one lo, .one hi =>
              if lo ≤ hi then setItems start fuel (.range lo hi :: items) else bad
            | _, _ => bad
        else setItems start fuel (first :: items)

/-- The test of a set. A set of one character is that character. -/
def CharTest.ofSet (negated : Bool) (items : List SetItem) : CharTest :=
  match items.eraseDups with
  | [.one n] => .one negated n
  | items => .set negated items

end Pattern
end BuildBlocks
