import BuildBlocks.Failure
import BuildBlocks.Log

/-!
# Outcomes

The outcome of a step is what it noted in the log and either its result or the failure that ended
it. Steps are joined in order: the notes of a step that fails are kept, and nothing after it runs.

The result of a joined step is the join of the results (`result_bind`), so that statements about
results need not mention the log.
-/

namespace BuildBlocks

/-- The notes of a step and its result or failure. -/
structure Outcome (α : Type) where
  notes : List Note
  result : Except Failure α

namespace Outcome

variable {α β : Type}

/-- A step that only has a result. -/
protected def pure (a : α) : Outcome α := ⟨[], .ok a⟩

/-- A step that fails. -/
def fail (e : Failure) : Outcome α := ⟨[], .error e⟩

/-- A step that only notes something. -/
def note (level : Int) (text : String) : Outcome Unit := ⟨[⟨level, text⟩], .ok ()⟩

/-- A step that has a result or fails, and notes nothing. -/
def ofExcept (r : Except Failure α) : Outcome α := ⟨[], r⟩

/-- One step after another. -/
protected def bind (x : Outcome α) (f : α → Outcome β) : Outcome β :=
  match x.result with
  | .ok a => ⟨x.notes ++ (f a).notes, (f a).result⟩
  | .error e => ⟨x.notes, .error e⟩

/-- One step after another, where the second may use that the first had its result. -/
def bindWith (x : Outcome α) (f : (a : α) → x.result = .ok a → Outcome β) : Outcome β :=
  match h : x.result with
  | .ok a => ⟨x.notes ++ (f a h).notes, (f a h).result⟩
  | .error e => ⟨x.notes, .error e⟩

instance : Monad Outcome where
  pure := Outcome.pure
  bind := Outcome.bind

/-! ## Results -/

@[simp] theorem result_pure (a : α) : (pure a : Outcome α).result = .ok a := rfl

@[simp] theorem result_fail (e : Failure) : (fail e : Outcome α).result = .error e := rfl

@[simp] theorem result_note (level : Int) (text : String) : (note level text).result = .ok () := rfl

@[simp] theorem result_ofExcept (r : Except Failure α) : (ofExcept r).result = r := rfl

/-- The result of a joined step is the join of the results. -/
@[simp] theorem result_bind (x : Outcome α) (f : α → Outcome β) :
    (x >>= f).result = x.result.bind fun a => (f a).result := by
  show (Outcome.bind x f).result = _
  unfold Outcome.bind
  cases h : x.result <;> rfl

/-- A step that does not use how it came about is joined as usual. -/
theorem bindWith_eq_bind (x : Outcome α) (f : α → Outcome β) :
    x.bindWith (fun a _ => f a) = x >>= f := by
  show _ = Outcome.bind x f
  unfold bindWith Outcome.bind
  split <;> next h => simp [h]

end Outcome
end BuildBlocks
