import BuildBlocks.Text.Codec

/-!
# Bytes in base sixty-four

Four characters write three bytes. Characters outside the alphabet are passed over, and equal signs
that fill the last group end the text.
-/

namespace BuildBlocks
namespace Base64

/-- The six bits that a character writes. -/
def sextet? (c : Char) : Option Nat :=
  if 'A' ≤ c && c ≤ 'Z' then some (c.toNat - 65)
  else if 'a' ≤ c && c ≤ 'z' then some (c.toNat - 71)
  else if c.isDigit then some (c.toNat + 4)
  else if c = '+' then some 62
  else if c = '/' then some 63
  else none

/-- The bytes of a text. `group` holds the sextets of a group that is not complete, `pads` the number
of equal signs since the last of them. -/
def decodeFrom (group : List Nat) (pads : Nat) : Text → Option Bytes
  | [] => if group.isEmpty then some [] else none
  | '=' :: rest =>
    if 2 ≤ group.length && 4 ≤ group.length + pads + 1 then some []
    else decodeFrom group (if 2 ≤ group.length then pads + 1 else pads) rest
  | c :: rest =>
    match sextet? c, group with
    | none, _ => decodeFrom group pads rest
    | some n, [] => decodeFrom [n] 0 rest
    | some n, [a] => (decodeFrom [a, n] 0 rest).map (UInt8.ofNat (a * 4 + n / 16) :: ·)
    | some n, [a, b] =>
      (decodeFrom [a, b, n] 0 rest).map (UInt8.ofNat (b % 16 * 16 + n / 4) :: ·)
    | some n, _ :: _ :: c :: _ => (decodeFrom [] 0 rest).map (UInt8.ofNat (c % 4 * 64 + n) :: ·)

/-- The bytes that a text writes. -/
def decode? (s : Text) : Option Bytes := decodeFrom [] 0 s

end Base64
end BuildBlocks
