import BuildBlocks.Text.Case
import BuildBlocks.Text.Digit
import BuildBlocks.Text.Word

/-!
# Patterns

The delimiters of placeholders are described by patterns: characters and classes of characters, in
sequence and as alternatives, repeated, grouped, and bound to places in the text. This module holds
the form of a pattern and the tests on single characters; how a pattern is read and how it matches
are separate.
-/

namespace BuildBlocks
namespace Pattern

/-- What a pattern takes for granted while it is read. -/
structure Flags where
  /-- Letters match in either case. -/
  ignoreCase : Bool := false
  /-- Line starts and line ends count as starts and ends of the text. -/
  multiLine : Bool := false
  /-- The point matches a newline too. -/
  dotAll : Bool := false
  /-- Blanks and comments in the pattern do not count. -/
  verbose : Bool := false
  /-- Classes and letter case go no further than ASCII. -/
  ascii : Bool := false
  /-- It has been said that they go beyond ASCII. -/
  beyondAscii : Bool := false
  /-- Repetitions are refused. -/
  noRounds : Bool := false
  deriving DecidableEq, Repr

/-- The named classes of characters. -/
inductive CharClass where
  | digit
  | blank
  | word
  deriving DecidableEq, Repr

/-- Whether a character belongs to a class. -/
def CharClass.contains (k : CharClass) (ascii : Bool) (c : Char) : Bool :=
  match k with
  | .digit => if ascii then c.isDigit else Text.isDigit c
  | .blank => if ascii then c.toNat < 128 && Text.isBlank c && !(0x1c ≤ c.toNat && c.toNat ≤ 0x1f)
    else Text.isBlank c
  | .word => if ascii then c.isAlphanum || c = '_' else Text.isWord c

/-- One entry of a set of characters, by code points. -/
inductive SetItem where
  | one (code : Nat)
  | range (lo hi : Nat)
  | named (k : CharClass) (negated : Bool)
  deriving DecidableEq, Repr

/-- A test on one character: it is a given one, or one of a set. -/
inductive CharTest where
  | one (negated : Bool) (code : Nat)
  | set (negated : Bool) (items : List SetItem)
  deriving DecidableEq, Repr

/-! ## Letter case

Characters are compared by their lower case. A test knows letter case only if it names a character
that has another case. Beyond the first 65536 code points a set is more literal than a single
character: an entry is compared with the lower case of a character as it stands, and a range with its
upper case too. -/

namespace CharTest

/-- The lower case of a code point, as far as the test knows letter case. -/
def foldCode (ascii : Bool) (n : Nat) : Nat :=
  if ascii then (if 0x41 ≤ n && n ≤ 0x5a then n + 32 else n)
  else if 0xd800 ≤ n && n ≤ 0xdfff then n
  else (Text.foldChar (Char.ofNat n)).toNat

/-- The code points whose lower case is `n`. -/
def unfoldCode (ascii : Bool) (n : Nat) : List Nat :=
  if ascii then (if 0x61 ≤ n && n ≤ 0x7a then [n, n - 32] else if 0x41 ≤ n && n ≤ 0x5a then [] else [n])
  else
    let self := if foldCode false n = n then [n] else []
    let others := Text.lowerRuns.filterMap fun r =>
      let m := ((n : Int) - r.shift).toNat
      if r.shift? m = some n then some m else none
    self ++ others ++ (if n = 0x69 then [0x130] else [])

/-- The code points that count as the lower-case code point `n`. -/
def variants (ascii : Bool) (n : Nat) : List Nat :=
  if ascii then [n]
  else n :: (Text.caseVariants.filterMap fun (m, others) => if others.contains n then some m else none)

/-- Whether a code point has another case. -/
def isCasedCode (ascii : Bool) (n : Nat) : Bool :=
  if n < 128 then (0x41 ≤ n && n ≤ 0x5a) || (0x61 ≤ n && n ≤ 0x7a)
  else !ascii && Text.casedRanges.any fun (lo, hi) => lo ≤ n && n ≤ hi

/-- The first code point that a set compares literally. -/
def literalFrom : Nat := 0x10000

end CharTest

namespace SetItem

open CharTest

/-- Whether an entry makes a set know letter case. -/
def hasCased (ascii : Bool) : SetItem → Bool
  | .one n => literalFrom ≤ n || isCasedCode ascii n
  | .range lo hi =>
    literalFrom ≤ hi || (lo ≤ 0x5a && 0x41 ≤ hi) || (lo ≤ 0x7a && 0x61 ≤ hi) ||
      (!ascii && Text.casedRanges.any fun (a, b) => lo ≤ b && a ≤ hi)
  | .named _ _ => false

/-- Whether an entry holds a character. -/
def contains (ascii : Bool) (c : Char) : SetItem → Bool
  | .one n => c.toNat == n
  | .range lo hi => lo ≤ c.toNat && c.toNat ≤ hi
  | .named k negated => k.contains ascii c != negated

/-- Whether an entry holds a letter that counts as the lower-case letter `c`. -/
def containsFolded (ascii : Bool) (c : Char) : SetItem → Bool
  | .one n =>
    if literalFrom ≤ n then c.toNat == n
    else (variants ascii c.toNat).contains (foldCode ascii n)
  | .range lo hi =>
    let upper := (Text.upperChar c).headD c
    (literalFrom ≤ hi &&
        ((lo ≤ c.toNat && c.toNat ≤ hi) || (lo ≤ upper.toNat && upper.toNat ≤ hi))) ||
      (variants ascii c.toNat).any fun m =>
        (unfoldCode ascii m).any fun n => lo ≤ n && n ≤ hi && n < literalFrom
  | .named k negated => k.contains ascii c != negated

end SetItem

namespace CharTest

/-- Whether a character passes the test. -/
def passes (ignoreCase ascii : Bool) (c : Char) : CharTest → Bool
  | .one negated n =>
    let folded := foldCode ascii c.toNat
    (if ignoreCase && isCasedCode ascii n then (variants ascii folded).contains (foldCode ascii n)
      else c.toNat == n) != negated
  | .set negated items =>
    (if ignoreCase && items.any (SetItem.hasCased ascii) then
        items.any (SetItem.containsFolded ascii (Char.ofNat (foldCode ascii c.toNat)))
      else items.any (SetItem.contains ascii c)) != negated

end CharTest

/-- The places in a text that a pattern can be bound to. -/
inductive Anchor where
  | textStart
  | lineStart
  | textEnd
  /-- The end of the text, or before a newline that ends it. -/
  | lastLineEnd
  | lineEnd
  | wordBoundary (ascii : Bool)
  | noWordBoundary (ascii : Bool)
  deriving DecidableEq, Repr

/-- How a repetition chooses the number of its rounds. -/
inductive Greed where
  | greedy
  | reluctant
  /-- As many as possible, and never fewer once the repetition is over. -/
  | possessive
  deriving DecidableEq, Repr

/-- A pattern. -/
inductive Node where
  | empty
  | char (t : CharTest) (ignoreCase ascii : Bool)
  | any (newlines : Bool)
  | anchor (a : Anchor)
  | seq (a b : Node)
  | alt (a b : Node)
  | group (index : Nat) (body : Node)
  | rounds (least : Nat) (most : Option Nat) (greed : Greed) (body : Node)
  | again (index : Nat) (ignoreCase ascii : Bool)
  | look (behind : Option Nat) (negated : Bool) (body : Node)
  | atomic (body : Node)
  | ifGroup (index : Nat) (yes no : Node)
  deriving DecidableEq, Repr

/-- The set of characters that a pattern begins with, if it begins with a set that does not depend on
letter case: whether the set is negated, and its entries. -/
def Node.opening? : Node → Option (Bool × List SetItem)
  | .char (.set negated items) ignoreCase ascii =>
    if ignoreCase && items.any (SetItem.hasCased ascii) then none else some (negated, items)
  | .seq a _ => a.opening?
  | .group _ body => body.opening?
  | _ => none

end Pattern

/-- A pattern, the text it was read from, the number of its groups, and whether the pattern as a whole
goes no further than ASCII. -/
structure Pattern where
  source : Text
  node : Pattern.Node
  groups : Nat
  ascii : Bool
  deriving DecidableEq, Repr

/-- Whether a match may begin before the characters `after`, by the set that the pattern begins with.
Here classes have the meaning that they have for the whole pattern, also where a group gives them
another one. -/
def Pattern.mayBegin (p : Pattern) (after : Text) : Bool :=
  match p.node.opening?, after with
  | none, _ => true
  | some _, [] => false
  | some (negated, items), c :: _ => (items.any (·.contains p.ascii c)) != negated

end BuildBlocks
