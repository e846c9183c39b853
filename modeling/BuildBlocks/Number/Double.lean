import BuildBlocks.Number.Whole

/-!
# Double-precision numbers

A double is kept as what it denotes: a sign, a whole number below `2 ^ 53` and a power of two, or one
of the values that are no numbers. Reading a decimal finds the double nearest to it by exact
arithmetic on fractions; of two equally near ones it takes the one with the even whole number.
-/

namespace BuildBlocks

/-- A double-precision number: `± mantissa * 2 ^ exponent`, an infinity, or no number at all. -/
inductive Double where
  | finite (negative : Bool) (mantissa : Nat) (exponent : Int)
  | infinite (negative : Bool)
  | nan
  deriving DecidableEq, Repr

namespace Double

/-- A power of two. -/
def powerOfTwo (n : Nat) : Nat := Nat.pow 2 n

/-- The quotient `num / den` rounded to the nearest whole number, a half going to the even one. -/
def roundQuotient (num den : Nat) : Nat :=
  let q := num / den
  let r := num % den
  if 2 * r < den then q
  else if den < 2 * r then q + 1
  else if q % 2 = 0 then q else q + 1

/-- `num / den` as a fraction of `2 ^ e`. -/
def scale (num den : Nat) (e : Int) : Nat × Nat :=
  if e ≥ 0 then (num, den * powerOfTwo e.toNat) else (num * powerOfTwo (-e).toNat, den)

/-- The least exponent of a double. -/
def minExponent : Int := -1074

/-- The double nearest to `± num / den`. -/
def ofRatio (negative : Bool) (num den : Nat) : Double :=
  if num = 0 then .finite negative 0 minExponent
  else
    -- the quotient lies between `2 ^ guess` and `2 ^ (guess + 2)`
    let guess : Int := (Nat.log2 num : Int) - (Nat.log2 den : Int) - 1
    let (n₀, d₀) := scale num den (guess + 1)
    let top : Int := if d₀ ≤ n₀ then guess + 1 else guess
    let e := max minExponent (top - 52)
    let (n, d) := scale num den e
    let m := roundQuotient n d
    let (m, e) := if m = powerOfTwo 53 then (powerOfTwo 52, e + 1) else (m, e)
    if e > 971 then .infinite negative else .finite negative m e

/-- The double nearest to `± digits * 10 ^ exponent`. Exponents far outside the range of doubles are
decided without computing the power. -/
def ofDecimal (negative : Bool) (digits : Nat) (exponent : Int) : Double :=
  -- the number lies between `10 ^ (low + exponent)` and `10 ^ (high + exponent)`
  let low : Int := (Nat.log2 digits : Int) * 30102 / 100000
  let high : Int := (Nat.log2 digits : Int) * 30103 / 100000 + 1
  if digits = 0 then .finite negative 0 minExponent
  else if low + exponent > 310 then .infinite negative
  else if high + exponent < -330 then .finite negative 0 minExponent
  else if exponent ≥ 0 then ofRatio negative (digits * Nat.pow 10 exponent.toNat) 1
  else ofRatio negative digits (Nat.pow 10 (-exponent).toNat)

/-- The double nearest to a whole number. -/
def ofInt (n : Int) : Double := ofRatio (n < 0) n.natAbs 1

/-- The whole number that the double denotes, if it denotes one. -/
def toInt? : Double → Option Int
  | .finite neg m e =>
    let mag? : Option Nat :=
      if e ≥ 0 then some (m * powerOfTwo e.toNat)
      else if m % powerOfTwo (-e).toNat = 0 then some (m / powerOfTwo (-e).toNat)
      else none
    mag?.map fun (n : Nat) => if neg then -(n : Int) else (n : Int)
  | _ => none

/-- The opposite number. -/
def neg : Double → Double
  | .finite s m e => .finite (!s) m e
  | .infinite s => .infinite (!s)
  | .nan => .nan

/-- A whole number with a sign. -/
def signed (negative : Bool) (mantissa : Nat) : Int := if negative then -(mantissa : Int) else mantissa

/-- The double nearest to `n * 2 ^ e`. -/
def ofScaled (n e : Int) : Double :=
  if e ≥ 0 then ofRatio (n < 0) (n.natAbs * powerOfTwo e.toNat) 1
  else ofRatio (n < 0) n.natAbs (powerOfTwo (-e).toNat)

/-- The double nearest to the sum of two doubles. -/
def add : Double → Double → Double
  | .finite s m e, .finite s' m' e' =>
    let low := min e e'
    ofScaled (signed s m * powerOfTwo (e - low).toNat + signed s' m' * powerOfTwo (e' - low).toNat)
      low
  | .infinite s, .infinite s' => if s = s' then .infinite s else .nan
  | .nan, _ | _, .nan => .nan
  | .infinite s, _ | _, .infinite s => .infinite s

/-- The double nearest to `n` times a double; there is none if `n` itself is too large for a
double. -/
def scaleBy? (n : Nat) (d : Double) : Option Double :=
  match ofInt n, d with
  | .finite _ m' e', .finite s m e => some (ofScaled (signed s m * m') (e + e'))
  | .finite .., d => some d
  | _, _ => none

/-- Whether two doubles denote the same number; zeros of both signs do, and what is no number
equals nothing. -/
def same : Double → Double → Bool
  | .finite s m e, .finite s' m' e' => (m = 0 ∧ m' = 0) ∨ (s = s' ∧ m = m' ∧ e = e')
  | .infinite s, .infinite s' => s = s'
  | _, _ => false

/-! ## Reading decimals -/

/-- The digits at the start of a text, where single underscores may stand between digits, and what
follows them. -/
def takeDigits : Text → Option (Text × Text)
  | [] => none
  | c :: '_' :: cs =>
    if Text.isAsciiDigit c then
      match takeDigits cs with
      | some (ds, rest) => some (c :: ds, rest)
      | none => some ([c], '_' :: cs)
    else none
  | c :: cs =>
    if Text.isAsciiDigit c then
      match takeDigits cs with
      | some (ds, rest) => some (c :: ds, rest)
      | none => some ([c], cs)
    else none

/-- The number written by ASCII digits. -/
def digitsValue (ds : Text) : Nat := ds.foldl (fun n c => n * 10 + (c.toNat - '0'.toNat)) 0

/-- The exponent at the end of a decimal, `e` or `E`, a sign and digits; none counts as zero. -/
def readExponent? : Text → Option Int
  | [] => some 0
  | c :: cs =>
    if c = 'e' || c = 'E' then
      let (neg, ds) := match cs with
        | '-' :: r => (true, r)
        | '+' :: r => (false, r)
        | r => (false, r)
      match takeDigits ds with
      | some (ds, []) => some (if neg then -(digitsValue ds : Int) else (digitsValue ds : Int))
      | _ => none
    else none

/-- The double nearest to an unsigned decimal such as `1`, `.5`, `1.` or `1.5e3`. -/
def readUnsigned? (negative : Bool) (s : Text) : Option Double :=
  let (whole, rest) := (takeDigits s).getD ([], s)
  let (fraction, rest) := match rest with
    | '.' :: r => (takeDigits r).getD ([], r)
    | r => ([], r)
  if whole.isEmpty && fraction.isEmpty then none
  else (readExponent? rest).map fun e =>
    ofDecimal negative (digitsValue (whole ++ fraction)) (e - fraction.length)

/-- The double nearest to a decimal with an optional sign and blanks around it; `inf`, `infinity`
and `nan` are understood in any letter case, and digits in any script. -/
def read? (s : Text) : Option Double :=
  let (negative, body) := match Text.trimNumber (Text.asciiNumber s) with
    | '-' :: r => (true, r)
    | '+' :: r => (false, r)
    | r => (false, r)
  let word := body.map Char.toLower
  if word = "inf".toList ∨ word = "infinity".toList then some (.infinite negative)
  else if word = "nan".toList then some .nan
  else readUnsigned? negative body

end Double
end BuildBlocks
