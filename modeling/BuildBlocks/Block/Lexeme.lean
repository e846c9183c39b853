import BuildBlocks.Block.Marker

/-!
# Lexemes

A page is read from left to right into markers and the characters between them. At every place an
opening marker is tried first, then a closing one, and otherwise one character is taken. The texts of
the lexemes make up the page (`Lexeme.texts_lex`).
-/

namespace BuildBlocks

/-- A marker or a character outside markers. -/
inductive Lexeme where
  | char (c : Char)
  | opening (o : Opening)
  | closing (text : Text)
  deriving DecidableEq, Repr

namespace Lexeme

/-- A lexeme as it is written. -/
def text : Lexeme → Text
  | .char c => [c]
  | .opening o => o.text
  | .closing t => t

/-- Lexemes as they are written one after another. -/
def texts (ls : List Lexeme) : Text := ls.flatMap text

/-- The lexeme at the start of a text that is not empty, and what follows it. -/
def first (word : Text) (c : Char) (cs : Text) : Lexeme × Text :=
  match Marker.opening? word (c :: cs) with
  | some (o, rest) => (.opening o, rest)
  | none => match Marker.closing? word (c :: cs) with
    | some (t, rest) => (.closing t, rest)
    | none => (.char c, cs)

/-- A lexeme and what follows it make up the text, and the lexeme is not empty. -/
theorem first_append (word : Text) (c : Char) (cs : Text) :
    (first word c cs).1.text ++ (first word c cs).2 = c :: cs ∧
      (first word c cs).2.length < (c :: cs).length := by
  unfold first
  split
  · next h => exact Marker.opening?_append h
  · split
    · next h => exact Marker.closing?_append h
    · exact ⟨rfl, Nat.lt_succ_self _⟩

/-- The lexemes of a text. -/
def lex (word : Text) (s : Text) : List Lexeme :=
  match s with
  | [] => []
  | c :: cs => (first word c cs).1 :: lex word (first word c cs).2
termination_by s.length
decreasing_by exact (first_append word c cs).2

/-- The lexemes make up the text. -/
theorem texts_lex (word s : Text) : texts (lex word s) = s := by
  fun_induction lex word s with
  | case1 => rfl
  | case2 c cs ih =>
    rw [texts, List.flatMap_cons]
    rw [texts] at ih
    rw [ih]
    exact (first_append word c cs).1

end Lexeme
end BuildBlocks
