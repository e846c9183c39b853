import BuildBlocks.Block.Marker

/-!
# Attribute values

An attribute block sets one attribute wherever it occurs in its body: the name at the start of a
word, an equals sign with blanks around it, and a value in quotes on one line. Only the value
changes. A new value that ends in a slash is a folder: the old value keeps what followed its last
slash.
-/

namespace BuildBlocks
namespace Attribute

/-- An attribute in a text: everything up to the opening quote, the quote, and the value. -/
structure Assignment where
  head : Text
  quote : Char
  value : Text
  deriving DecidableEq, Repr

/-- Whether a word starts or ends between the character before and the text after. -/
def atBoundary (before : Option Char) (after : Text) : Bool :=
  before.any Text.isWord != after.head?.any Text.isWord

/-- The value in quotes at the start of `s`, its quote, and what follows. -/
def quoted? : Text → Option (Char × Text × Text)
  | [] => none
  | q :: r =>
    if q = '"' || q = '\'' then
      match r.dropWhile fun c => c != q && c != '\n' with
      | [] => none
      | c :: rest => if c = q then some (q, r.takeWhile fun c => c != q && c != '\n', rest) else none
    else none

/-- What follows an equals sign with blanks around it at the start of `s`. -/
def equals? (s : Text) : Option Text :=
  (Text.dropPrefix? ['='] (Text.trimStart s)).map Text.trimStart

/-- The attribute `name` at the start of `s`, and what follows it. -/
def assignment? (name : Text) (before : Option Char) (s : Text) : Option (Assignment × Text) :=
  if atBoundary before s then do
    let s₁ ← Text.dropPrefix? name s
    let s₂ ← equals? s₁
    let (quote, value, rest) ← quoted? s₂
    some (⟨s.take (s.length - s₂.length), quote, value⟩, rest)
  else none

/-- The new value of an attribute. -/
def newValue (value old : Text) : Text :=
  if Text.endsWith value ['/'] then value ++ Text.afterLast '/' old else value

/-- An attribute with a value, as it is written. -/
def Assignment.withValue (a : Assignment) (value : Text) : Text :=
  a.head ++ a.quote :: value ++ [a.quote]

theorem append_of_quoted? {s value rest : Text} {q : Char}
    (h : quoted? s = some (q, value, rest)) : s = q :: value ++ q :: rest := by
  unfold quoted? at h
  split at h
  · cases h
  · next q' r =>
    split at h
    · split at h
      · cases h
      · next c rest' hd =>
        split at h
        · next hc =>
          cases h
          subst hc
          rw [List.cons_append, ← hd, List.takeWhile_append_dropWhile]
        · cases h
    · cases h

theorem suffix_of_equals? {s rest : Text} (h : equals? s = some rest) : rest <:+ s := by
  unfold equals? at h
  obtain ⟨r, hr, rfl⟩ := Option.map_eq_some_iff.1 h
  have h₁ := Marker.suffix_of_dropPrefix? hr
  have h₂ : r <:+ Text.trimStart s := h₁ ▸ List.suffix_append _ _
  exact (List.dropWhile_suffix _).trans (h₂.trans (List.dropWhile_suffix _))

/-- An attribute and what follows it make up the text. -/
theorem append_of_assignment? {name s rest : Text} {before : Option Char} {a : Assignment}
    (h : assignment? name before s = some (a, rest)) : s = a.withValue a.value ++ rest := by
  unfold assignment? at h
  split at h
  · simp only [Option.bind_eq_bind, Option.bind_eq_some_iff, Option.some.injEq,
      Prod.mk.injEq] at h
    obtain ⟨s₁, h₁, s₂, h₂, ⟨q, v, r⟩, h₃, rfl, rfl⟩ := h
    have hs₁ : s₁ <:+ s := Marker.suffix_of_dropPrefix? h₁ ▸ List.suffix_append _ _
    have hsuf : s₂ <:+ s := (suffix_of_equals? h₂).trans hs₁
    have heq := append_of_quoted? h₃
    have htake := Marker.take_append_of_suffix hsuf
    simp only [Assignment.withValue]
    calc s = s.take (s.length - s₂.length) ++ s₂ := htake.symm
      _ = s.take (s.length - s₂.length) ++ (q :: v ++ q :: r) := by rw [← heq]
      _ = _ := by simp
  · cases h

theorem length_of_assignment? {name s rest : Text} {before : Option Char} {a : Assignment}
    (h : assignment? name before s = some (a, rest)) : rest.length < s.length := by
  have := congrArg List.length (append_of_assignment? h)
  simp only [Assignment.withValue, List.length_append, List.length_cons, List.length_nil] at this
  omega

-- The equation `h` is used by `decreasing_by` only.
set_option linter.unusedVariables false in
/-- The text with `value` for the attribute `name`, where `before` is the character before the
text. -/
def setFrom (name value : Text) (before : Option Char) (s : Text) : Text :=
  match s with
  | [] => []
  | c :: cs =>
    match h : assignment? name before (c :: cs) with
    | some (a, rest) =>
      a.withValue (newValue value a.value) ++ setFrom name value (some a.quote) rest
    | none => c :: setFrom name value (some c) cs
termination_by s.length
decreasing_by
  · exact length_of_assignment? h
  · exact Nat.lt_succ_self _

/-- The text with `value` for the attribute `name` wherever it occurs. -/
def setAll (name value s : Text) : Text := setFrom name value none s

/-- The attribute that a block type names: what stands between its brackets. -/
def nameOf (kind : Text) : Text := (kind.drop 1).dropLast

end Attribute
end BuildBlocks
