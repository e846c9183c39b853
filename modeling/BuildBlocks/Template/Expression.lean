import BuildBlocks.Text.Digit
import BuildBlocks.Text.Word
import BuildBlocks.Value.Lookup
import BuildBlocks.Value.Render

/-!
# Path expressions

What stands between the delimiters of a placeholder is a path into the data: an identifier, then any
number of segments, each an identifier after a point, or a number or a quoted key in brackets.
Blanks may stand around points and inside brackets. `Expression.parse` gives the keys of a path, and
nothing for any other text.

A quoted key ends at the first quote of its kind that a closing bracket follows, so it may hold
quotes and brackets; it may not hold a newline.
-/

namespace BuildBlocks
namespace Expression

/-- The characters an identifier starts with. -/
def isIdentStart (c : Char) : Bool := c.isAlpha || c = '_' || c = '$'

/-- The characters an identifier goes on with. -/
def isIdentPart (c : Char) : Bool := Text.isWord c || c = '$'

/-- The identifier at the start of a text, and what follows it. -/
def ident? : Text → Option (Text × Text)
  | [] => none
  | c :: cs =>
    if isIdentStart c then some (c :: cs.takeWhile isIdentPart, cs.dropWhile isIdentPart) else none

/-- What follows the closing bracket, if the text has one after blanks. -/
def closing? (s : Text) : Option Text :=
  match s.trimStart with
  | ']' :: rest => some rest
  | _ => none

/-- The key up to the first `quote` that a closing bracket follows, and what follows the bracket. -/
def quotedKey? (quote : Char) : Text → Option (Text × Text)
  | [] => none
  | c :: cs =>
    match (if c = quote then closing? cs else none) with
    | some rest => some ([], rest)
    | none => if c = '\n' then none else (quotedKey? quote cs).map fun (k, rest) => (c :: k, rest)

/-- A key as it is written: a name, or the sign and the digits of a number. -/
inductive Written where
  | name (s : Text)
  | digits (negative : Bool) (ds : Text)
  deriving DecidableEq, Repr

/-- Whether a minus sign stands at the start of a text, and what follows it. -/
def takeSign : Text → Bool × Text
  | '-' :: r => (true, r)
  | r => (false, r)

/-- The number in brackets at the start of a text, and what follows the bracket. -/
def bracketIndex? (s : Text) : Option (Written × Text) :=
  let body := (takeSign s).2
  let ds := body.takeWhile Text.isDigit
  if ds.isEmpty then none
  else (closing? (body.dropWhile Text.isDigit)).map fun rest => (.digits (takeSign s).1 ds, rest)

/-- The key in brackets at the start of a text, and what follows the bracket. -/
def bracketKey? (s : Text) : Option (Written × Text) :=
  match s with
  | c :: cs =>
    if c = '\'' || c = '"' then (quotedKey? c cs).map fun (k, rest) => (.name k, rest) else none
  | [] => none

/-- The segment at the start of a text, and what follows it. -/
def segment? (s : Text) : Option (Written × Text) :=
  match s.trimStart with
  | '.' :: r => (ident? (Text.trimStart r)).map fun (name, rest) => (.name name, rest)
  | '[' :: r =>
    let inner := Text.trimStart r
    (bracketIndex? inner).orElse fun _ => bracketKey? inner
  | _ => none

/-! ## Every segment is shorter than the text before it -/

theorem length_trimStart_le (s : Text) : s.trimStart.length ≤ s.length :=
  (List.dropWhile_suffix _).length_le

theorem length_of_ident? {s name rest : Text} (h : ident? s = some (name, rest)) :
    rest.length ≤ s.length := by
  cases s with
  | nil => simp [ident?] at h
  | cons c cs =>
    simp only [ident?] at h
    split at h
    · cases h
      exact Nat.le_succ_of_le (List.dropWhile_suffix _).length_le
    · cases h

theorem length_of_closing? {s rest : Text} (h : closing? s = some rest) :
    rest.length ≤ s.length := by
  have hs := length_trimStart_le s
  unfold closing? at h
  split at h
  · cases h
    simp_all only [List.length_cons]
    omega
  · cases h

theorem length_of_quotedKey? {q : Char} {s key rest : Text}
    (h : quotedKey? q s = some (key, rest)) : rest.length ≤ s.length := by
  induction s generalizing key rest with
  | nil => simp [quotedKey?] at h
  | cons c cs ih =>
    unfold quotedKey? at h
    split at h
    · next hc =>
      cases h
      split at hc
      · exact Nat.le_succ_of_le (length_of_closing? hc)
      · cases hc
    · split at h
      · cases h
      · obtain ⟨⟨k, r⟩, hk, heq⟩ := Option.map_eq_some_iff.1 h
        cases heq
        exact Nat.le_succ_of_le (ih hk)

theorem length_of_bracketIndex? {s rest : Text} {w : Written}
    (h : bracketIndex? s = some (w, rest)) : rest.length ≤ s.length := by
  unfold bracketIndex? at h
  dsimp only at h
  split at h
  · cases h
  · obtain ⟨r, hr, heq⟩ := Option.map_eq_some_iff.1 h
    cases heq
    refine Nat.le_trans (length_of_closing? hr) (Nat.le_trans (List.dropWhile_suffix _).length_le ?_)
    unfold takeSign
    split <;> simp

theorem length_of_bracketKey? {s rest : Text} {w : Written}
    (h : bracketKey? s = some (w, rest)) : rest.length ≤ s.length := by
  unfold bracketKey? at h
  split at h
  · split at h
    · obtain ⟨⟨k, r⟩, hk, heq⟩ := Option.map_eq_some_iff.1 h
      cases heq
      exact Nat.le_succ_of_le (length_of_quotedKey? hk)
    · cases h
  · cases h

/-- What follows a segment is shorter than the text it was taken from. -/
theorem length_of_segment? {s rest : Text} {w : Written} (h : segment? s = some (w, rest)) :
    rest.length < s.length := by
  have hs := length_trimStart_le s
  unfold segment? at h
  split at h
  · next r hr =>
    obtain ⟨⟨n, r'⟩, hn, heq⟩ := Option.map_eq_some_iff.1 h
    cases heq
    have h₁ := length_of_ident? hn
    have h₂ := length_trimStart_le r
    rw [hr, List.length_cons] at hs
    omega
  · next r hr =>
    rw [hr, List.length_cons] at hs
    have h₂ := length_trimStart_le r
    dsimp only at h
    cases hb : bracketIndex? (Text.trimStart r) with
    | some x =>
      rw [hb] at h
      cases h
      have := length_of_bracketIndex? hb
      omega
    | none =>
      rw [hb] at h
      have := length_of_bracketKey? h
      omega
  · cases h

/-! ## Parsing -/

/-- A number with too many digits to be read. -/
structure LongIndex where
  digits : Nat
  deriving DecidableEq, Repr

/-- The key that is written; a number may have `Whole.maxDigits` digits. -/
def Written.toKey : Written → Except LongIndex Key
  | .name s => .ok (.name s)
  | .digits negative ds =>
    if ds.length > Whole.maxDigits then .error ⟨ds.length⟩
    else
      let n : Int := Text.digitsToNat ds
      .ok (.index (if negative then -n else n))

-- The equation `h` is used by `decreasing_by` only.
set_option linter.unusedVariables false in
/-- The keys of a text that is all segments. -/
def segments (s : Text) : Except LongIndex (Option (List Key)) :=
  if s.isEmpty then .ok (some [])
  else match h : segment? s with
    | none => .ok none
    | some (w, rest) =>
      match w.toKey with
      | .error e => .error e
      | .ok key => (segments rest).map (Option.map (key :: ·))
termination_by s.length
decreasing_by exact length_of_segment? h

/-- The keys of a path expression, or nothing if the text is no path. -/
def parse (s : Text) : Except LongIndex (Option (List Key)) :=
  match ident? s.trim with
  | none => .ok none
  | some (name, rest) => (segments rest).map (Option.map (.name name :: ·))

end Expression
end BuildBlocks
