import BuildBlocks.Number.Double
import BuildBlocks.Text.Base64
import BuildBlocks.Text.Lower
import BuildBlocks.Value.Json
import BuildBlocks.Yaml.Node

/-!
# Values of scalars

The tag of a scalar says how its text is to be read: as nothing, a truth value, a number, a moment,
bytes or a text. A text that cannot be read so is a failure of its own kind; only bytes that are no
bytes make the data file malformed.
-/

namespace BuildBlocks
namespace Yaml

/-! ## Numbers -/

/-- The text without underscores. -/
def dropUnderscores (s : Text) : Text := s.filter (· ≠ '_')

/-- The whole number that a text writes in a base. -/
def wholeIn (base : Nat) (s : Text) : Except Failure Int :=
  match Whole.read base s with
  | .ok n => .ok n
  | .error .malformed => .error (.notWhole base s)
  | .error (.long digits) => .error (.longNumber digits)

/-- The sign at the start of a number, and the rest; there must be something. -/
def signAndRest : Text → Except Failure (Bool × Text)
  | [] => .error .emptyNumber
  | '-' :: rest => .ok (true, rest)
  | '+' :: rest => .ok (false, rest)
  | s => .ok (false, s)

/-- The places of a number in base sixty. -/
def sixties (s : Text) : List Text := Text.splitBy (· = ':') s

/-- The whole number without its sign. -/
def unsignedInt (s : Text) : Except Failure Int :=
  match s with
  | [] => .error .emptyNumber
  | ['0'] => .ok 0
  | '0' :: 'b' :: rest => wholeIn 2 rest
  | '0' :: 'x' :: rest => wholeIn 16 rest
  | '0' :: _ => wholeIn 8 s
  | _ =>
    if s.contains ':' then do
      let places ← (sixties s).mapM (wholeIn 10)
      .ok (places.foldl (fun n d => n * 60 + d) 0)
    else wholeIn 10 s

/-- The whole number of a scalar. -/
def intOf (s : Text) : Except Failure Value := do
  let (negative, body) ← signAndRest (dropUnderscores s)
  let n ← unsignedInt body
  .ok (.int (if negative then -n else n))

/-- The double of a text, or the failure that it is none. -/
def decimalOf (s : Text) : Except Failure Double :=
  match Double.read? s with
  | some d => .ok d
  | none => .error (.notDecimal s)

/-- The sum of the places of a number in base sixty, the last place first. -/
def sumSixties (base : Nat) (sum : Double) : List Double → Except Failure Double
  | [] => .ok sum
  | d :: ds =>
    match d.scaleBy? base with
    | some scaled => sumSixties (base * 60) (sum.add scaled) ds
    | none => .error .manyPlaces

/-- The double of a scalar. -/
def doubleOf (s : Text) : Except Failure Value := do
  let (negative, body) ← signAndRest (Text.lower (dropUnderscores s))
  let d ←
    if body = ".inf".toList then .ok (.infinite false)
    else if body = ".nan".toList then .ok .nan
    else if body.contains ':' then do
      let places ← (sixties body).mapM decimalOf
      sumSixties 1 (.finite false 0 Double.minExponent) places.reverse
    else decimalOf body
  .ok (.double (if negative then d.neg else d))

/-- Whether a scalar is written as what is no number; any other such value is computed. -/
def isWrittenNan (s : Text) : Bool :=
  match signAndRest (Text.lower (dropUnderscores s)) with
  | .ok (_, body) => body = ".nan".toList
  | .error _ => false

/-- The truth value of a scalar. -/
def boolOf (s : Text) : Except Failure Value :=
  let word := Text.lower s
  if ["yes", "true", "on"].contains (String.ofList word) then .ok (.bool true)
  else if ["no", "false", "off"].contains (String.ofList word) then .ok (.bool false)
  else .error (.missingKey word)

/-! ## Moments -/

/-- The parts of a moment: year, month and day, then hour, minute, second and fraction, then the zone
with its sign, hours and minutes. -/
def momentParts : String :=
  "^([0-9][0-9][0-9][0-9])-([0-9][0-9]?)-([0-9][0-9]?)" ++
  "(?:(?:[Tt]|[ \\t]+)([0-9][0-9]?):([0-9][0-9]):([0-9][0-9])(?:\\.([0-9]*))?" ++
  "(?:[ \\t]*(Z|([-+])([0-9][0-9]?)(?::([0-9][0-9]))?))?)?$"

/-- The moment of a scalar. Only the first six digits of a fraction count. -/
def momentOf (s : Text) : Except Failure Value :=
  match (Pattern.ofText? momentParts.toList).bind fun p => p.matchAt { before := [], after := s } with
  | none => .error .notMoment
  | some (_, captures) =>
    let part (n : Nat) : Text := ((captures.lookup n).map (·.text)).getD []
    let number (n : Nat) : Nat := Json.natOf (part n)
    let fraction := (part 7 ++ List.replicate 6 '0').take 6
    let time := if (part 4).isEmpty then none
      else some (number 4, number 5, number 6, Json.natOf fraction)
    let distance : Int := number 10 * 3600 + number 11 * 60
    let zone := if part 9 = ['-'] then some (-distance)
      else if part 9 = ['+'] then some distance
      else if (part 8).isEmpty then none
      else some 0
    let m : Moment := ⟨number 1, number 2, number 3, time, zone⟩
    match m.problem? with
    | some why => .error (.noSuchMoment why)
    | none => .ok (.moment m)

/-! ## All scalars -/

/-- The value of a scalar with a tag. -/
def scalarValue (tag : Tag) (s : Text) : Except Failure Value :=
  match tag with
  | .null => .ok .null
  | .bool => boolOf s
  | .int => intOf s
  | .float => doubleOf s
  | .text => .ok (.text s)
  | .moment => momentOf s
  | .binary =>
    if s.all (·.toNat < 128) then match Base64.decode? s with
      | some bs => .ok (.bytes bs)
      | none => .error .malformedData
    else .error .malformedData
  | _ => .error .malformedData

end Yaml
end BuildBlocks
