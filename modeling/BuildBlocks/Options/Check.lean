import BuildBlocks.Failure
import BuildBlocks.Path
import BuildBlocks.Pattern.Parser

/-!
# Checking options

Options come as values of any shape. Checking a group of options reports every option that cannot be
used, in the order of the fields, so checks are joined in a way that keeps the problems of both
(`Check.seq`). Only a pattern that cannot be handled at all ends a check at once; then nothing else is
reported.
-/

namespace BuildBlocks

/-- Why a check gives nothing. -/
inductive Rejection where
  /-- Everything that is wrong. -/
  | invalid (problems : List InvalidOption)
  /-- A pattern that cannot be handled. -/
  | unmanageable (source : Text) (why : Pattern.Problem)
  deriving Repr

/-- What is wrong with two groups of options that are checked in order. -/
def Rejection.append : Rejection → Rejection → Rejection
  | .invalid e, .invalid e' => .invalid (e ++ e')
  | .invalid _, stop => stop
  | stop, _ => stop

/-- The failure that a rejection is. -/
def Rejection.failure : Rejection → Failure
  | .invalid problems => .invalid problems
  | .unmanageable source why => .unreadablePattern source why

/-- What a check gives: the option, or everything that is wrong with it. -/
abbrev Check (α : Type) := Except Rejection α

namespace Check

variable {α β : Type}

/-- A single problem at a place. -/
def problem (loc : List OptionStep) (p : OptionProblem) (input : Value) : Check α :=
  .error (.invalid [⟨loc, p, input⟩])

/-- Joins two checks and keeps the problems of both. -/
def seq (f : Check (α → β)) (x : Check α) : Check β :=
  match f, x with
  | .ok f, .ok a => .ok (f a)
  | .ok _, .error e => .error e
  | .error e, .ok _ => .error e
  | .error e, .error e' => .error (e.append e')

/-- Checks the items of a list, counted from `n`. -/
def items (check : List OptionStep → Value → Check α) (loc : List OptionStep) (n : Nat) :
    List Value → Check (List α)
  | [] => .ok []
  | v :: vs =>
    seq (seq (.ok List.cons) (check (loc ++ [.item n]) v)) (items check loc (n + 1) vs)

/-! ## Single options -/

/-- The words that mean no. -/
def noWords : List String := ["0", "off", "f", "false", "n", "no"]

/-- The words that mean yes. -/
def yesWords : List String := ["1", "on", "t", "true", "y", "yes"]

/-- The truth value that a word means; letter case does not matter. -/
def boolWord? (s : Text) : Option Bool :=
  let word := String.ofList (s.map Char.toLower)
  if noWords.contains word then some false
  else if yesWords.contains word then some true
  else none

/-- Whole numbers from here on are too large for a machine word. -/
def wordBound : Int := 9223372036854775808

/-- A truth value, or a word or a number that means one. -/
def bool (loc : List OptionStep) (v : Value) : Check Bool :=
  match v with
  | .bool b => .ok b
  | .text s => match boolWord? s with
    | some b => .ok b
    | none => problem loc .boolParsing v
  | .int n =>
    if n = 0 then .ok false
    else if n = 1 then .ok true
    else if -wordBound ≤ n ∧ n < wordBound then problem loc .boolParsing v
    else problem loc .boolType v
  | .double d => match d.toInt? with
    | some 0 => .ok false
    | some 1 => .ok true
    | _ => problem loc .boolType v
  | _ => problem loc .boolType v

/-- A text. -/
def text (loc : List OptionStep) (v : Value) : Check Text :=
  match v with
  | .text s => .ok s
  | _ => problem loc .stringType v

/-- A list of texts. -/
def texts (loc : List OptionStep) (v : Value) : Check (List Text) :=
  match v with
  | .list vs | .tuple vs => items text loc 0 vs
  | _ => problem loc .listType v

/-- A marker word, without the blanks around it. -/
def marker (loc : List OptionStep) (v : Value) : Check Text := do
  let s ← text loc v
  if (Text.trim s).isEmpty then problem loc .blankMarker v else .ok (Text.trim s)

/-- A pattern. -/
def pattern (loc : List OptionStep) (v : Value) : Check Pattern :=
  match v with
  | .text s => match Pattern.read s with
    | .ok p => .ok p
    | .error why => match why.weight with
      | .form => problem loc .patternSyntax v
      | .meaning => problem loc (.patternMeaning (why.message s)) v
      | .size => .error (.unmanageable s why)
  | _ => problem loc .patternType v

/-- A path. -/
def path (loc : List OptionStep) (v : Value) : Check Path :=
  match v with
  | .text s => .ok (Path.ofText s)
  | _ => problem loc .pathType v

/-- What may be left empty. -/
def optional (check : List OptionStep → Value → Check α) (loc : List OptionStep) (v : Value) :
    Check (Option α) :=
  match v with
  | .null => .ok none
  | v => (check loc v).map some

/-- The step to an entry of a mapping. -/
def stepTo : Value → OptionStep
  | .text s => .key s
  | .int n => .item n
  | .bool b => .item (if b then 1 else 0)
  | v => .key v.describe

/-- The text of a key. Bytes are a key if they are the bytes of a text. -/
def key (loc : List OptionStep) (v : Value) : Check Value :=
  let loc := loc ++ [stepTo v, .key "[key]".toList]
  match v with
  | .text s => .ok (.text s)
  | .bytes bs => match Utf8.decode bs with
    | .ok s => .ok (.text s)
    | .error _ => problem loc .stringBytes v
  | v => problem loc .stringType v

/-- The entries of a mapping with texts for keys, one after another. -/
def keyed (loc : List OptionStep) : List (Value × Value) → Check (List (Value × Value))
  | [] => .ok []
  | (k, v) :: rest => seq (seq (.ok fun k es => (k, v) :: es) (key loc k)) (keyed loc rest)

/-- The entries of a mapping whose keys are texts; nothing stands for no entries. -/
def entries (loc : List OptionStep) (v : Value) : Check (List (Value × Value)) :=
  match v.unfold with
  | .null => .ok []
  | .mapping es => (keyed loc es).map fun es =>
    es.foldl (fun found (k, v) => Value.setEntry k v found) []
  | v => problem loc .mappingType v

/-- A text that stands for a value; nothing and the empty text stand for none. -/
def name (v : Value) : Option Text :=
  match v with
  | .null | .text [] => none
  | v => some v.display

end Check
end BuildBlocks
