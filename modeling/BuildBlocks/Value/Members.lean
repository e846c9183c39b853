import BuildBlocks.Value.Basic

/-!
# Members of sets

A set lists its members in an order of its own. Numbers stand in the slots of a table: each takes the
slot that its residue asks for, or the next free one after it, and the members are listed slot by slot.
A set with members that are no numbers lists them in the order in which they came.
-/

namespace BuildBlocks
namespace Value

/-- The modulus of residues, a prime. -/
def residueModulus : Nat := 2305843009213693951

/-- The residue of a number: equal numbers of any kind have the same one. Two to the power of 61 is
one modulo the modulus, so powers of two need only small exponents. -/
def residue? : Value → Option Int
  | .bool b => some (if b then 1 else 0)
  | .int n => some (settled (n < 0) (n.natAbs % residueModulus))
  | .double (.finite negative m e) =>
    some (settled negative (m * Nat.pow 2 (Int.emod e 61).toNat % residueModulus))
  | .double (.infinite negative) => some (settled negative 314159)
  | _ => none
where
  /-- A residue with its sign; minus one is no residue. -/
  settled (negative : Bool) (n : Nat) : Int :=
    if negative then (if n = 1 then -2 else -(n : Int)) else n

/-- How many slots in a row are tried before the search goes elsewhere. -/
def slotsInRow : Nat := 9

/-- The first free slot in a table of `size` slots, a power of two: `place` and those after it are tried,
then another place that depends on what is left of the residue. -/
def freeSlot (size : Nat) (taken : List Nat) : (fuel residue place : Nat) → Nat
  | 0, _, place => place
  | fuel + 1, residue, place =>
    let row := if place + slotsInRow ≤ size - 1 then slotsInRow + 1 else 1
    match ((List.range row).map (place + ·)).find? (!taken.contains ·) with
    | some free => free
    | none =>
      let residue := residue / 32
      freeSlot size taken fuel residue ((place * 5 + 1 + residue) % size)

/-- The number of slots for a number of members. -/
def slotsFor (members : Nat) : Nat :=
  if members ≤ 4 then 8 else Nat.pow 2 (Nat.log2 (2 * members) + 1)

/-- The slots of residues that come in order. -/
def slots (size : Nat) (taken : List Nat) : List Int → List Nat
  | [] => []
  | r :: rs =>
    let residue := (Int.emod r (Nat.pow 2 64 : Nat)).toNat
    let free := freeSlot size taken (size + 16) residue (residue % size)
    free :: slots size (free :: taken) rs

/-- The members of a set in the order in which the set lists them. -/
def listMembers (members : List Value) : List Value :=
  match members.mapM residue? with
  | none => members
  | some residues =>
    let placed := (slots (slotsFor members.length) [] residues).zip members
    (placed.mergeSort fun a b => a.1 ≤ b.1).map (·.2)

end Value
end BuildBlocks
