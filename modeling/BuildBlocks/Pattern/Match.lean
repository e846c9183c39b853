import BuildBlocks.Pattern.Syntax

/-!
# Matching patterns

A pattern is matched at a place in a text by trying its parts in order and going back to the last
choice when a part fails. What is still to be matched after a part is handed to it as a
continuation, so a part succeeds only together with everything after it.

Rounds of a repetition end because each of them, beyond those that are required, has to start at a
new place: the number of further rounds is bounded by the length of the text that is left.
-/

namespace BuildBlocks
namespace Pattern

/-- A place in a text: the characters before it, the nearest one first, those after it, and how far it
is from where the match started. -/
structure Cursor where
  before : Text
  after : Text
  position : Int := 0
  deriving DecidableEq, Repr

namespace Cursor

/-- The place one character further on. -/
def forward? (c : Cursor) : Option (Char × Cursor) :=
  match c.after with
  | [] => none
  | x :: xs => some (x, ⟨x :: c.before, xs, c.position + 1⟩)

/-- The place `n` characters further back. -/
def back? (c : Cursor) (n : Nat) : Option Cursor :=
  if n ≤ c.before.length then
    some ⟨c.before.drop n, (c.before.take n).reverse ++ c.after, c.position - n⟩
  else none

/-- The text from an earlier place up to this one. -/
def since (c start : Cursor) : Text := (c.before.take (c.position - start.position).toNat).reverse

end Cursor

/-- What a group has matched, given by the places at which it started and ended. -/
structure Capture where
  start : Cursor
  stop : Cursor
  deriving DecidableEq, Repr

/-- The text that a group has matched. -/
def Capture.text (c : Capture) : Text := c.stop.since c.start

/-- What groups have matched, the latest first. -/
abbrev Captures := List (Nat × Capture)

/-- Where a match ends and what its groups have matched. -/
abbrev Ending := Cursor × Captures

/-- The rest of a match. -/
abbrev Rest := Cursor → Captures → Option Ending

/-- A way to match a part and then the rest. -/
abbrev Matcher := Cursor → Captures → Rest → Option Ending

/-- Whether a place is of the kind that an anchor asks for. -/
def Anchor.holds (a : Anchor) (c : Cursor) : Bool :=
  let boundary := fun ascii =>
    c.before.head?.any (CharClass.word.contains ascii) != c.after.head?.any (CharClass.word.contains ascii)
  let nothing := c.before.isEmpty && c.after.isEmpty
  match a with
  | .textStart => c.before.isEmpty
  | .lineStart => c.before.head?.all (· = '\n')
  | .textEnd => c.after.isEmpty
  | .lastLineEnd => c.after.isEmpty || c.after = ['\n']
  | .lineEnd => c.after.head?.all (· = '\n')
  | .wordBoundary ascii => !nothing && boundary ascii
  | .noWordBoundary ascii => !nothing && !boundary ascii

/-- Matches a given text, in either case if `fold` is given. -/
def literally (fold : Char → Char) : Text → Cursor → Option Cursor
  | [], c => some c
  | x :: xs, c =>
    match c.forward? with
    | some (y, c') => if fold x = fold y then literally fold xs c' else none
    | none => none

/-- Further rounds, as many as possible first. `last` is where the last further round started. -/
def greedyRounds (m : Matcher) (rest : Rest) :
    (fuel : Nat) → (most : Option Nat) → (last : Option Int) → Cursor → Captures → Option Ending
  | 0, _, _, c, g => rest c g
  | fuel + 1, most, last, c, g =>
    if most ≠ some 0 ∧ last ≠ some c.position then
      (m c g fun c' g' => greedyRounds m rest fuel (most.map (· - 1)) (some c.position) c' g').orElse
        fun _ => rest c g
    else rest c g

/-- Further rounds, as few as possible first. -/
def reluctantRounds (m : Matcher) (rest : Rest) :
    (fuel : Nat) → (most : Option Nat) → (last : Option Int) → Cursor → Captures → Option Ending
  | 0, _, _, c, g => rest c g
  | fuel + 1, most, last, c, g =>
    (rest c g).orElse fun _ =>
      if most ≠ some 0 ∧ last ≠ some c.position then
        m c g fun c' g' => reluctantRounds m rest fuel (most.map (· - 1)) (some c.position) c' g'
      else none

/-- A number of rounds that are required, then the rest. -/
def requiredRounds (m : Matcher) (rest : Rest) : (n : Nat) → Cursor → Captures → Option Ending
  | 0, c, g => rest c g
  | n + 1, c, g => m c g fun c' g' => requiredRounds m rest n c' g'

/-- The required rounds and then further ones. -/
def allRounds (m : Matcher) (least : Nat) (most : Option Nat) (greed : Greed) : Matcher :=
  fun c g rest =>
    let further := most.map (· - least)
    requiredRounds m (fun c' g' =>
      let fuel := c'.after.length + 2
      match greed with
      | .reluctant => reluctantRounds m rest fuel further none c' g'
      | _ => greedyRounds m rest fuel further none c' g') least c g

/-- Matches a part once and for all, then the rest. -/
def once (m : Matcher) : Matcher := fun c g rest =>
  match m c g fun c' g' => some (c', g') with
  | some (c', g') => rest c' g'
  | none => none

/-- The way to match a pattern. -/
def Node.matcher : Node → Matcher
  | .empty => fun c g rest => rest c g
  | .char t ignoreCase ascii => fun c g rest =>
    match c.forward? with
    | some (x, c') => if t.passes ignoreCase ascii x then rest c' g else none
    | none => none
  | .any newlines => fun c g rest =>
    match c.forward? with
    | some (x, c') => if newlines || x ≠ '\n' then rest c' g else none
    | none => none
  | .anchor a => fun c g rest => if a.holds c then rest c g else none
  | .seq a b => fun c g rest => a.matcher c g fun c' g' => b.matcher c' g' rest
  | .alt a b => fun c g rest => (a.matcher c g rest).orElse fun _ => b.matcher c g rest
  | .group index body => fun c g rest =>
    body.matcher c g fun c' g' => rest c' ((index, ⟨c, c'⟩) :: g')
  | .rounds least most greed body =>
    match greed with
    | .possessive => once (allRounds (once body.matcher) least most .greedy)
    | greed => allRounds body.matcher least most greed
  | .again index ignoreCase ascii => fun c g rest =>
    let fold := fun x =>
      if ignoreCase then Char.ofNat (CharTest.foldCode ascii (Char.toNat x)) else x
    match g.lookup index with
    | some t => match literally fold t.text c with
      | some c' => rest c' g
      | none => none
    | none => none
  | .look behind negated body => fun c g rest =>
    let start? := match behind with
      | some n => c.back? n
      | none => some c
    let found := start?.bind fun start => body.matcher start g fun c' g' => some (c', g')
    if negated then (if found.isSome then none else rest c g)
    else match found with
      | some (_, g') => rest c g'
      | none => none
  | .atomic body => once body.matcher
  | .ifGroup index yes no => fun c g rest =>
    if (g.lookup index).isSome then yes.matcher c g rest else no.matcher c g rest

/-- Matches the pattern at a place: where the match ends and what its groups have matched. -/
def matchAt (p : Pattern) (c : Cursor) : Option Ending :=
  p.node.matcher c [] fun c' g => some (c', g)

/-- A match in a text: how many characters are skipped before it, how many it has, and what its
groups have matched. -/
structure Hit where
  skipped : Nat
  length : Nat
  captures : List (Nat × Text)
  deriving DecidableEq, Repr

/-- The match that starts `skipped` characters on and ends at a place. -/
def Hit.ofEnding (skipped : Nat) (e : Ending) : Hit :=
  ⟨skipped, e.1.position.toNat, e.2.map fun (index, c) => (index, c.text)⟩

/-- The first match in `after`, where `before` is what precedes it, nearest character first. -/
def searchFrom (p : Pattern) (skipped : Nat) (before : Text) : (after : Text) → Option Hit
  | [] => (p.matchAt { before, after := [] }).map (.ofEnding skipped)
  | x :: xs =>
    match if p.mayBegin (x :: xs) then p.matchAt { before, after := x :: xs } else none with
    | some e => some (.ofEnding skipped e)
    | none => searchFrom p (skipped + 1) (x :: before) xs

/-- The first match in `after`, where `before` is what precedes it, nearest character first. -/
def search (p : Pattern) (before after : Text) : Option Hit := p.searchFrom 0 before after

end Pattern
end BuildBlocks
