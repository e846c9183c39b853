import BuildBlocks.Pattern.Flaw
import BuildBlocks.Pattern.Syntax

/-!
# Reading a pattern token by token

A backslash and the character after it are one token; any other character is a token of its own. The
reader looks one token ahead and no further, so a backslash at the end of the pattern is found as soon
as the token before it is taken.
-/

namespace BuildBlocks
namespace Pattern

/-- A character of a pattern, with or without a backslash before it. -/
inductive Token where
  | plain (c : Char)
  | escaped (c : Char)
  deriving DecidableEq, Repr

/-- A token as it is written. -/
def Token.text : Token → Text
  | .plain c => [c]
  | .escaped c => ['\\', c]

/-- The least and the greatest number of characters that a pattern can match. -/
structure Width where
  least : Nat
  most : Option Nat
  deriving DecidableEq, Repr

namespace Width

/-- The width of nothing. -/
def zero : Width := ⟨0, some 0⟩

/-- The width of one character. -/
def one : Width := ⟨1, some 1⟩

/-- The width of two patterns in sequence. -/
def add (a b : Width) : Width := ⟨a.least + b.least, do some ((← a.most) + (← b.most))⟩

/-- The width of one of two patterns. -/
def or (a b : Width) : Width := ⟨min a.least b.least, do some (max (← a.most) (← b.most))⟩

/-- The width of a repeated pattern. -/
def rounds (least : Nat) (most : Option Nat) (a : Width) : Width :=
  ⟨a.least * least,
    if most = some 0 ∨ a.most = some 0 then some 0 else do some ((← a.most) * (← most))⟩

end Width

/-- How far a pattern has been read and what has been learnt: the token ahead, what follows it and
the position there; the groups met so far with the widths of those that are closed, and their names;
the flags of the whole pattern; the first group that is out of reach while looking behind; the groups
that conditions ask for, with the position; and problems that count only if the rest is in order. -/
structure Reading where
  ahead : Option Token := none
  rest : Text
  index : Nat := 0
  groups : Nat := 1
  closed : List (Nat × Width) := []
  names : List (Text × Nat) := []
  flags : Flags := {}
  behindFrom : Option Nat := none
  conditions : List (Nat × Nat) := []
  later : List (Nat × Problem) := []

/-- A step of reading. -/
abbrev Reader := StateT Reading (Except Problem)

namespace Reader

/-- The position of the token ahead. -/
def position : Reader Nat := do
  let s ← get
  return s.index - (s.ahead.map (·.text.length)).getD 0

/-- Ends reading with a flaw at the token ahead. -/
def flaw {α : Type} (f : Flaw) : Reader α := do throw (.flaw f (← position))

/-- Ends reading with a flaw `back` characters before the token ahead. -/
def flawBefore {α : Type} (back : Nat) (f : Flaw) : Reader α := do
  throw (.flaw f ((← position) - back))

/-- Ends reading with a flaw at a position. -/
def flawAt {α : Type} (f : Flaw) (position : Nat) : Reader α := throw (.flaw f position)

/-- Looks at the next token. -/
def advance : Reader Unit := do
  let s ← get
  match s.rest with
  | [] => set { s with ahead := none }
  | ['\\'] => throw (.flaw .endsInBackslash s.index)
  | '\\' :: c :: rest => set { s with ahead := some (.escaped c), rest, index := s.index + 2 }
  | c :: rest => set { s with ahead := some (.plain c), rest, index := s.index + 1 }

/-- The token ahead, without taking it. -/
def peek : Reader (Option Token) := do return (← get).ahead

/-- Takes the token ahead. -/
def next : Reader (Option Token) := do
  let t ← peek
  advance
  return t

/-- Takes the token ahead if it is the plain character `c`. -/
def accept (c : Char) : Reader Bool := do
  if (← peek) = some (.plain c) then
    advance
    return true
  else return false

/-- Takes at most `n` plain characters that satisfy `p`. -/
def takeWhile (p : Char → Bool) : (n : Nat) → Reader Text
  | 0 => return []
  | n + 1 => do
    match ← peek with
    | some (.plain c) =>
      if p c then
        advance
        return c :: (← takeWhile p n)
      else return []
    | _ => return []

/-- Takes everything up to the plain character `stop`, which is taken too but not given. There must
be something before it: `what` is missing otherwise. -/
def takeUntil (stop : Char) (what : String) (taken : Text) : (fuel : Nat) → Reader Text
  | 0 => flawBefore taken.length (.unterminatedName stop)
  | fuel + 1 => do
    match ← next with
    | none => if taken.isEmpty then flaw (.missing what) else flawBefore taken.length (.unterminatedName stop)
    | some t =>
      if t = .plain stop then
        if taken.isEmpty then flawBefore 1 (.missing what) else return taken
      else takeUntil stop what (taken ++ t.text) fuel

/-- Takes a name up to the plain character `stop`. -/
def name (stop : Char) (what : String) : Reader Text := do
  takeUntil stop what [] ((← get).rest.length + 2)

/-- Notes a problem that belongs to a position. -/
def noteLater (position : Nat) (p : Problem) : Reader Unit :=
  modify fun s => { s with later := (position, p) :: s.later }

end Reader
end Pattern
end BuildBlocks
