import BuildBlocks.Number.Double

/-!
# Shortest decimals

The decimal that stands for a double in a text is the shortest one that reads back as that double,
and of those the nearest. For one digit, two digits and so on, the two neighbours of the number on
the grid of decimals with that many digits are tried: if any decimal with that many digits reads
back, one of the neighbours does.

A number is written positionally when its first digit stands between four places after the point
and sixteen places before it, and with an exponent of at least two digits otherwise.
-/

namespace BuildBlocks
namespace Double

/-- The fractions `low / den < value / den < high / den` around `mantissa * 2 ^ exponent`: every
decimal between the outer two reads back as the double. -/
structure Interval where
  low : Nat
  value : Nat
  high : Nat
  den : Nat
  closed : Bool

/-- The decimals that read back as the double `mantissa * 2 ^ exponent`: half the way to each
neighbour, with the ends if the mantissa is even. Below a power of two the neighbour is twice as
near. -/
def interval (mantissa : Nat) (exponent : Int) : Interval :=
  let unit := if exponent ≥ 0 then powerOfTwo exponent.toNat else 1
  let den := if exponent ≥ 0 then 1 else powerOfTwo (-exponent).toNat
  let below := if mantissa = powerOfTwo 52 ∧ exponent > minExponent then 1 else 2
  ⟨(4 * mantissa - below) * unit, 4 * mantissa * unit, (4 * mantissa + 2) * unit, 4 * den,
    mantissa % 2 = 0⟩

/-- Whether `k * num / den'` lies in the interval. -/
def Interval.contains (i : Interval) (num den : Nat) : Bool :=
  -- compare `num / den` with `low / i.den` and `high / i.den`
  let x := num * i.den
  if i.closed then i.low * den ≤ x && x ≤ i.high * den
  else i.low * den < x && x < i.high * den

/-- `10 ^ e` as a fraction. -/
def powerOfTen (e : Int) : Nat × Nat :=
  if e ≥ 0 then (Nat.pow 10 e.toNat, 1) else (1, Nat.pow 10 (-e).toNat)

/-- The exponent `e` with `10 ^ e ≤ num / den < 10 ^ (e + 1)`, looked for upwards from `e`. -/
def decimalExponent (num den : Nat) : (steps : Nat) → (e : Int) → Int
  | 0, e => e
  | steps + 1, e =>
    let (p, q) := powerOfTen (e + 1)
    if num * q < p * den then e else decimalExponent num den steps (e + 1)

/-- The multiple `k` of `10 ^ place` nearest to the number, if one of its two neighbours on that
grid reads back. -/
def Interval.onGrid? (i : Interval) (place : Int) : Option Nat :=
  let (p, q) := powerOfTen place
  let lower := i.value * q / (i.den * p)
  let fits := fun k => i.contains (k * p) q
  -- twice the distance of the number from the lower neighbour, against one step of the grid
  let gap := 2 * (i.value * q - lower * (i.den * p))
  let step := i.den * p
  match fits lower, fits (lower + 1) with
  | true, true =>
    if gap < step then some lower
    else if step < gap then some (lower + 1)
    else some (if lower % 2 = 0 then lower else lower + 1)
  | true, false => some lower
  | false, true => some (lower + 1)
  | false, false => none

/-- The shortest decimal, tried with `n` digits, `n + 1` digits and so on: its digits as a whole
number and the place of the last one. -/
def Interval.shortest (i : Interval) (top : Int) : (steps n : Nat) → Nat × Int
  | 0, _ => (0, 0)
  | steps + 1, n =>
    let place := top + 1 - n
    match i.onGrid? place with
    | some k => (k, place)
    | none => i.shortest top steps (n + 1)

/-- Zeros taken off the end of a whole number, moving the place of its last digit. -/
def dropZeros : (steps : Nat) → Nat → Int → Nat × Int
  | 0, k, place => (k, place)
  | steps + 1, k, place =>
    if k ≠ 0 ∧ k % 10 = 0 then dropZeros steps (k / 10) (place + 1) else (k, place)

/-- The digits of the shortest decimal of a positive double, without zeros at the end, and the
exponent of the first digit. -/
def shortestDigits (mantissa : Nat) (exponent : Int) : Text × Int :=
  let i := interval mantissa exponent
  let low : Int := ((Nat.log2 i.value : Int) - (Nat.log2 i.den : Int)) * 3 / 10 - 2
  let top := decimalExponent i.value i.den 8 low
  let (k, place) := i.shortest top 17 1
  let (k, place) := dropZeros 17 k place
  let ds := Nat.toDigits 10 k
  (ds, place + ds.length - 1)

/-- The exponents of a first digit for which a number is written without an exponent. -/
def positional (e : Int) : Bool := -4 ≤ e && e < 16

/-- Digits with the first of them at `10 ^ e`, as written: a point always has a digit on both
sides. -/
def layOut (ds : Text) (e : Int) : Text :=
  if positional e then
    if e < 0 then "0.".toList ++ List.replicate (-e - 1).toNat '0' ++ ds
    else
      let n := e.toNat + 1
      let whole := ds.take n ++ List.replicate (n - ds.length) '0'
      let fraction := ds.drop n
      whole ++ '.' :: (if fraction.isEmpty then ['0'] else fraction)
  else
    let digits := Nat.toDigits 10 e.natAbs
    let fraction := ds.drop 1
    ds.take 1 ++ (if fraction.isEmpty then [] else '.' :: fraction) ++ 'e' ::
      (if e < 0 then '-' else '+') :: (List.replicate (2 - digits.length) '0' ++ digits)

/-- The text that stands for a double. -/
def render : Double → Text
  | .nan => "nan".toList
  | .infinite neg => (if neg then ['-'] else []) ++ "inf".toList
  | .finite neg m e =>
    (if neg then ['-'] else []) ++
      if m = 0 then "0.0".toList
      else
        let (ds, top) := shortestDigits m e
        layOut ds top

end Double
end BuildBlocks
