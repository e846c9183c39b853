import BuildBlocks.Number.Whole

/-!
# Whole numbers in settings

A setting that is a whole number is written in decimal, with an optional sign. Blanks may surround it,
zeros may stand in front of it and a fraction of zeros after it, and single underscores between its
digits. The number is first read as it stands, and only then without what may surround it.
-/

namespace BuildBlocks
namespace Settings

/-- Why a text is no whole number. -/
inductive IntProblem where
  | malformed
  /-- It has too many digits. -/
  | long
  deriving DecidableEq, Repr

/-- The whole number that a text is with nothing around it: an optional minus sign, and digits of which
the first is zero only if it is the only one. -/
def plainInt (s : Text) : Except IntProblem Int :=
  let (negative, body) := match s with
    | '-' :: rest => (true, rest)
    | _ => (false, s)
  let digits := body.takeWhile Char.isDigit
  let rest := body.drop digits.length
  let signLength := if negative then 1 else 0
  if digits.isEmpty then .error .malformed
  else if digits.head? = some '0' then
    if digits.length = 1 && rest.isEmpty then .ok 0 else .error .malformed
  else if Whole.maxDigits < digits.length + signLength then .error .long
  else if !rest.isEmpty then .error .malformed
  else
    let n : Nat := digits.foldl (fun n c => n * 10 + (c.toNat - 48)) 0
    .ok (if negative then -(n : Int) else n)

/-- Whether a blank may surround a number. -/
def isAround (c : Char) : Bool := Text.isBlank c && !(0x1c ≤ c.toNat && c.toNat ≤ 0x1f)

/-- The text without the blanks around it. -/
def trimAround (s : Text) : Text := ((s.dropWhile isAround).reverse.dropWhile isAround).reverse

/-- The text without zeros and underscores in front of its first other digit or sign. Of nothing but
zeros the last is kept, and the one before a point. -/
def dropLeadingZeros (s : Text) : Option Text :=
  match s with
  | '0' :: _ =>
    let zeros := s.takeWhile fun c => c = '0' || c = '_'
    match s.drop zeros.length with
    | [] => some (s.drop (s.length - 1))
    | c :: rest =>
      if c.isDigit || c = '-' then some (c :: rest)
      else if c = '.' then some (zeros.drop (zeros.length - 1) ++ c :: rest)
      else none
  | c :: _ => if c.isDigit || c = '-' then some s else none
  | [] => none

/-- The text without a point and the zeros after it. -/
def dropZeroFraction (s : Text) : Text :=
  match Text.cutAt '.' s with
  | some (whole, fraction) => if !fraction.isEmpty && fraction.all (· = '0') then whole else s
  | none => s

/-- The text without underscores that stand alone between other characters. -/
def dropUnderscores (s : Text) : Text :=
  let parts := Text.splitBy (· = '_') s
  if parts.all (!·.isEmpty) then parts.flatten else s

/-- The number without what may surround it. -/
def cleanInt? (s : Text) : Option Text := do
  let s := trimAround s
  let s ← match s with
    | '+' :: '-' :: _ => none
    | '+' :: rest => some rest
    | _ => some s
  some (dropUnderscores (dropZeroFraction (← dropLeadingZeros s)))

/-- The whole number that a setting is. -/
def int (s : Text) : Except IntProblem Int :=
  match plainInt s with
  | .ok n => .ok n
  | .error .long => .error .long
  | .error .malformed => match cleanInt? s with
    | some clean => plainInt clean
    | none => .error .malformed

end Settings
end BuildBlocks
