import BuildBlocks.Text.Word

/-!
# Markers

Blocks are marked by comments. An opening marker names the marker word and the type of the block, and
may give targets, a parameter in parentheses and a bare value; a closing marker is the marker word
after a slash or after `end`:

    <!-- build:js:dist (app.js) -->  ...  <!-- /build -->  or  <!-- endbuild -->

`Marker.opening?` and `Marker.closing?` read the marker at the start of a text and give what follows
it. Every part is as long as it can be, with two exceptions that keep the end of the comment whole: a
name gives up the two dashes that the end `-->` needs, and parentheses are read as part of a bare
value if no marker comes about otherwise.

A marker and what follows it make up the text, and no marker is empty (`opening?_append`,
`closing?_append`), so markers can be read one after another.
-/

namespace BuildBlocks

/-- An opening marker as it is written, and its parts. -/
structure Opening where
  text : Text
  kind : Text
  targets : Option Text
  params : Option Text
  value : Option Text
  deriving DecidableEq, Repr

namespace Marker

/-- The start of a comment. -/
def commentStart : Text := ['<', '!', '-', '-']

/-- The end of a comment. -/
def commentEnd : Text := ['-', '-', '>']

/-- The characters of a block type or an attribute name. -/
def isNameChar (c : Char) : Bool := Text.isWord c || c = '-'

/-- The characters of a written list of targets. -/
def isTargetChar (c : Char) : Bool := Text.isWord c || c = '|' || c = ',' || c = '-'

/-- The blanks that may stand before a parameter or a value. -/
def isSpace (c : Char) : Bool := c = ' ' || c = '\t'

/-- The end of the comment after blanks, and what follows it. -/
def endOfComment? (s : Text) : Option Text := Text.dropPrefix? commentEnd (Text.trimStart s)

/-- How many of the characters at the start of `s` belong to a run of characters that satisfy `p`:
two dashes that end the comment do not. -/
def runLength (p : Char → Bool) (s : Text) : Nat :=
  let run := s.takeWhile p
  if Text.endsWith run ['-', '-'] && (s.dropWhile p).head? = some '>' then run.length - 2
  else run.length

/-- The run of characters that satisfy `p` at the start of `s`, and what follows it. -/
def run? (p : Char → Bool) (s : Text) : Option (Text × Text) :=
  match runLength p s with
  | 0 => none
  | n + 1 => some (s.take (n + 1), s.drop (n + 1))

/-- The block type at the start of `s`: a name, or a name in square brackets. -/
def kind? (s : Text) : Option (Text × Text) :=
  match s with
  | '[' :: r =>
    match r.takeWhile isNameChar, r.dropWhile isNameChar with
    | _ :: _, ']' :: rest => some ('[' :: r.takeWhile isNameChar ++ [']'], rest)
    | _, _ => none
  | _ => run? isNameChar s

/-- The targets at the start of `s`, if a colon announces them. A colon without targets is an
error. -/
def targets? (s : Text) : Option (Option Text × Text) :=
  match s with
  | ':' :: r => (run? isTargetChar r).map fun (t, rest) => (some t, rest)
  | _ => some (none, s)

/-- The parameter in parentheses at the start of `s`. It ends at the first closing parenthesis and
does not go beyond its line. -/
def params? (s : Text) : Option (Text × Text) :=
  match s.dropWhile isSpace with
  | '(' :: r =>
    match r.dropWhile fun c => c != ')' && c != '\n' with
    | ')' :: rest => some (r.takeWhile fun c => c != ')' && c != '\n', rest)
    | _ => none
  | _ => none

/-- The characters of a bare value at the start of `s`: no blanks, and not the end of the comment. -/
def valueRun : Text → Text
  | [] => []
  | c :: cs =>
    if Text.isBlank c || Text.startsWith (c :: cs) commentEnd then [] else c :: valueRun cs

/-- The bare value at the start of `s`, which must be set off by spaces. -/
def value? (s : Text) : Option (Text × Text) :=
  let body := s.dropWhile isSpace
  if body.length = s.length then none
  else match valueRun body with
    | [] => none
    | v => some (v, body.drop v.length)

/-- The bare value, if there is one, and the end of the comment. -/
def tail? (s : Text) : Option (Option Text × Text) :=
  match value? s with
  | some (v, rest) => (endOfComment? rest).map fun r => (some v, r)
  | none => (endOfComment? s).map fun r => (none, r)

/-- Parameter, value and the end of the comment: with a parameter if a marker comes about that way,
otherwise without. -/
def arguments? (s : Text) : Option ((Option Text × Option Text) × Text) :=
  let withParams := match params? s with
    | some (p, rest) => (tail? rest).map fun (v, r) => ((some p, v), r)
    | none => none
  match withParams with
  | some result => some result
  | none => (tail? s).map fun (v, r) => ((none, v), r)

/-- What follows the marker word, after blanks, at the start of `s`. Blanks at the start of the word
itself are the last of those blanks. -/
def word? (word s : Text) : Option Text :=
  if Text.endsWith (s.takeWhile Text.isBlank) (word.takeWhile Text.isBlank) then
    Text.dropPrefix? (word.dropWhile Text.isBlank) (s.dropWhile Text.isBlank)
  else none

/-- The opening marker at the start of `s`, and what follows it. -/
def opening? (word s : Text) : Option (Opening × Text) := do
  let s₁ ← Text.dropPrefix? commentStart s
  let s₂ ← word? word s₁
  let s₃ ← Text.dropPrefix? [':'] s₂
  let (kind, s₄) ← kind? s₃
  let (targets, s₅) ← targets? s₄
  let ((params, value), rest) ← arguments? s₅
  some (⟨s.take (s.length - rest.length), kind, targets, params, value⟩, rest)

/-- What follows the slash or the `end` of a closing marker. -/
def closer? (s : Text) : Option Text :=
  (Text.dropPrefix? ['/'] s).orElse fun _ => Text.dropPrefix? ['e', 'n', 'd'] s

/-- The closing marker at the start of `s`, and what follows it. -/
def closing? (word s : Text) : Option (Text × Text) := do
  let s₁ ← Text.dropPrefix? commentStart s
  let s₂ ← closer? (Text.trimStart s₁)
  let s₃ ← Text.dropPrefix? word s₂
  let rest ← endOfComment? s₃
  some (s.take (s.length - rest.length), rest)

/-! ## What follows a marker is an end of the text -/

theorem suffix_of_dropPrefix? {p s rest : Text} (h : Text.dropPrefix? p s = some rest) :
    s = p ++ rest := by
  induction p generalizing s with
  | nil => simpa [Text.dropPrefix?] using h
  | cons a p ih =>
    cases s with
    | nil => simp [Text.dropPrefix?] at h
    | cons c cs =>
      simp only [Text.dropPrefix?] at h
      split at h
      · next hac => rw [hac, ih h, List.cons_append]
      · cases h

theorem suffix_of_endOfComment? {s rest : Text} (h : endOfComment? s = some rest) : rest <:+ s := by
  have h₁ := suffix_of_dropPrefix? h
  exact (h₁ ▸ List.suffix_append commentEnd rest).trans (List.dropWhile_suffix _)

theorem suffix_of_run? {p : Char → Bool} {s run rest : Text} (h : run? p s = some (run, rest)) :
    rest <:+ s := by
  unfold run? at h
  split at h
  · cases h
  · cases h
    exact List.drop_suffix _ _

theorem suffix_of_kind? {s kind rest : Text} (h : kind? s = some (kind, rest)) : rest <:+ s := by
  unfold kind? at h
  split at h
  · next r =>
    split at h
    · next hd =>
      cases h
      have h₁ : ']' :: rest <:+ r := hd ▸ List.dropWhile_suffix _
      exact ((List.suffix_cons ']' rest).trans h₁).trans (List.suffix_cons '[' r)
    · cases h
  · exact suffix_of_run? h

theorem suffix_of_targets? {s rest : Text} {t : Option Text} (h : targets? s = some (t, rest)) :
    rest <:+ s := by
  unfold targets? at h
  split at h
  · next r =>
    obtain ⟨⟨run, r'⟩, hr, heq⟩ := Option.map_eq_some_iff.1 h
    cases heq
    exact (suffix_of_run? hr).trans (List.suffix_cons _ _)
  · cases h
    exact List.suffix_refl _

theorem suffix_of_params? {s p rest : Text} (h : params? s = some (p, rest)) : rest <:+ s := by
  unfold params? at h
  split at h
  · next r hr =>
    split at h
    · next hd =>
      cases h
      have h₁ : ')' :: rest <:+ r := hd ▸ List.dropWhile_suffix _
      have h₂ : '(' :: r <:+ s := hr ▸ List.dropWhile_suffix _
      exact (((List.suffix_cons _ _).trans h₁).trans (List.suffix_cons _ _)).trans h₂
    · cases h
  · cases h

theorem suffix_of_value? {s v rest : Text} (h : value? s = some (v, rest)) : rest <:+ s := by
  unfold value? at h
  dsimp only at h
  split at h
  · cases h
  · split at h
    · cases h
    · cases h
      exact (List.drop_suffix _ _).trans (List.dropWhile_suffix _)

theorem suffix_of_tail? {s rest : Text} {v : Option Text} (h : tail? s = some (v, rest)) :
    rest <:+ s := by
  unfold tail? at h
  split at h
  · next hv =>
    obtain ⟨r, hr, heq⟩ := Option.map_eq_some_iff.1 h
    cases heq
    exact (suffix_of_endOfComment? hr).trans (suffix_of_value? hv)
  · obtain ⟨r, hr, heq⟩ := Option.map_eq_some_iff.1 h
    cases heq
    exact suffix_of_endOfComment? hr

theorem suffix_of_arguments? {s rest : Text} {a : Option Text × Option Text}
    (h : arguments? s = some (a, rest)) : rest <:+ s := by
  unfold arguments? at h
  dsimp only at h
  split at h
  · next result hr =>
    cases h
    split at hr
    · next hp =>
      obtain ⟨⟨v, r⟩, ht, heq⟩ := Option.map_eq_some_iff.1 hr
      cases heq
      exact (suffix_of_tail? ht).trans (suffix_of_params? hp)
    · cases hr
  · obtain ⟨⟨v, r⟩, ht, heq⟩ := Option.map_eq_some_iff.1 h
    cases heq
    exact suffix_of_tail? ht

theorem suffix_of_word? {word s rest : Text} (h : word? word s = some rest) : rest <:+ s := by
  unfold word? at h
  split at h
  · have h₁ := suffix_of_dropPrefix? h
    exact (h₁ ▸ List.suffix_append _ rest).trans (List.dropWhile_suffix _)
  · cases h

theorem suffix_of_closer? {s rest : Text} (h : closer? s = some rest) : rest <:+ s := by
  unfold closer? at h
  cases hs : Text.dropPrefix? ['/'] s with
  | some r =>
    rw [hs] at h
    cases h
    exact suffix_of_dropPrefix? hs ▸ List.suffix_append _ _
  | none =>
    rw [hs] at h
    exact suffix_of_dropPrefix? h ▸ List.suffix_append _ _

/-- The text of a marker, when what follows it is an end of the text and shorter by the start of a
comment at least. -/
theorem take_append_of_suffix {s rest : Text} (h : rest <:+ s) :
    s.take (s.length - rest.length) ++ rest = s := by
  obtain ⟨t, rfl⟩ := h
  simp

/-- An opening marker and what follows it make up the text, and the marker is not empty. -/
theorem opening?_append {word s rest : Text} {o : Opening} (h : opening? word s = some (o, rest)) :
    o.text ++ rest = s ∧ rest.length < s.length := by
  simp only [opening?, Option.bind_eq_bind, Option.bind_eq_some_iff, Option.some.injEq,
    Prod.mk.injEq] at h
  obtain ⟨s₁, h₁, s₂, h₂, s₃, h₃, ⟨kind, s₄⟩, h₄, ⟨targets, s₅⟩, h₅, ⟨⟨params, value⟩, r⟩, h₆,
    rfl, rfl⟩ := h
  have hs := suffix_of_dropPrefix? h₁
  have hsuf : r <:+ s₁ := (suffix_of_arguments? h₆).trans ((suffix_of_targets? h₅).trans
    ((suffix_of_kind? h₄).trans ((suffix_of_dropPrefix? h₃ ▸ List.suffix_append _ _).trans
      (suffix_of_word? h₂))))
  have hsuf' : r <:+ s := hsuf.trans (hs ▸ List.suffix_append _ _)
  refine ⟨take_append_of_suffix hsuf', ?_⟩
  have := hsuf.length_le
  rw [hs, List.length_append]
  simp only [commentStart, List.length_cons, List.length_nil]
  omega

/-- A closing marker and what follows it make up the text, and the marker is not empty. -/
theorem closing?_append {word s t rest : Text} (h : closing? word s = some (t, rest)) :
    t ++ rest = s ∧ rest.length < s.length := by
  simp only [closing?, Option.bind_eq_bind, Option.bind_eq_some_iff, Option.some.injEq,
    Prod.mk.injEq] at h
  obtain ⟨s₁, h₁, s₂, h₂, s₃, h₃, r, h₄, rfl, rfl⟩ := h
  have hs := suffix_of_dropPrefix? h₁
  have hsuf : r <:+ s₁ := (suffix_of_endOfComment? h₄).trans
    ((suffix_of_dropPrefix? h₃ ▸ List.suffix_append _ _).trans
      ((suffix_of_closer? h₂).trans (List.dropWhile_suffix _)))
  have hsuf' : r <:+ s := hsuf.trans (hs ▸ List.suffix_append _ _)
  refine ⟨take_append_of_suffix hsuf', ?_⟩
  have := hsuf.length_le
  rw [hs, List.length_append]
  simp only [commentStart, List.length_cons, List.length_nil]
  omega

end Marker
end BuildBlocks
