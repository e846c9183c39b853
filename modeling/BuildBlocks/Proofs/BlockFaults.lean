import BuildBlocks.Page.Basic

/-!
# Faults of blocks

A block can be wrong in five ways: it is never closed, its type is unknown, or its include is
missing, circular or too deep. `BlockFaults P r` says that `P` holds of the fault if `r` is such a
fault. It is put together along the steps of a run (`BlockFaults.bind`), so that a statement about
the faults of a whole run comes from its parts.

The parts that do not work on blocks have no faults of blocks at all: loading extensions
(`noBlockFault_loadAll`) and filling placeholders (`noBlockFault_interpolate`). The files of a run
report no faults of any kind (`FaultFree`): what is wrong with them is not wrong with a page.
-/

namespace BuildBlocks

/-- Whether faults of a kind are found at the opening marker of a block. -/
def Fault.Kind.isOfBlock : Fault.Kind → Bool
  | .unterminated | .unknownBlock | .includeNotFound _ | .circularInclude _ | .includeDepth => true
  | .general | .loading _ | .unresolved _ => false

/-- If the result is a fault of a block, `P` holds of the fault. -/
def BlockFaults {α : Type} (P : Fault → Prop) (r : Except Failure α) : Prop :=
  ∀ f, r = .error (.fault f) → f.kind.isOfBlock = true → P f

/-- The result is no fault of a block. -/
abbrev NoBlockFault {α : Type} (r : Except Failure α) : Prop := BlockFaults (fun _ => False) r

namespace BlockFaults

variable {α β : Type} {P Q : Fault → Prop}

theorem ok (a : α) : BlockFaults P (.ok a) := nofun

theorem of_fault {f : Fault} (h : P f) : BlockFaults P (.error (.fault f) : Except Failure α) := by
  intro g hg _
  cases hg
  exact h

/-- A failure that reports no fault. -/
theorem of_fault?_eq_none {e : Failure} (h : e.fault? = none) :
    BlockFaults P (.error e : Except Failure α) := by
  intro f hf _
  cases hf
  cases h

/-- A fault of another kind. -/
theorem of_isOfBlock_eq_false {f : Fault} (h : f.kind.isOfBlock = false) :
    BlockFaults P (.error (.fault f) : Except Failure α) := by
  intro g hg hkind
  cases hg
  rw [h] at hkind
  cases hkind

theorem mono {r : Except Failure α} (h : BlockFaults P r) (hPQ : ∀ f, P f → Q f) :
    BlockFaults Q r :=
  fun f hf hkind => hPQ f (h f hf hkind)

theorem of_noBlockFault {r : Except Failure α} (h : NoBlockFault r) : BlockFaults P r :=
  h.mono fun _ => False.elim

/-- **The faults of two steps** are those of the first one and those of the second one. -/
theorem bind {x : Except Failure α} {f : α → Except Failure β} (hx : BlockFaults P x)
    (hf : ∀ a, x = .ok a → BlockFaults P (f a)) : BlockFaults P (x.bind f) := by
  cases x with
  | error e =>
    intro g hg hkind
    cases hg
    exact hx g rfl hkind
  | ok a => exact hf a rfl

end BlockFaults

/-! ## Files -/

/-- If the result is a failure, it reports no fault of a page. -/
def FaultFree {α : Type} (r : Except Failure α) : Prop := ∀ e, r = .error e → e.fault? = none

namespace FaultFree

variable {α β : Type}

theorem ok (a : α) : FaultFree (.ok a) := nofun

theorem error {e : Failure} (h : e.fault? = none) : FaultFree (.error e : Except Failure α) := by
  intro e' he'
  cases he'
  exact h

theorem bind {x : Except Failure α} {f : α → Except Failure β} (hx : FaultFree x)
    (hf : ∀ a, x = .ok a → FaultFree (f a)) : FaultFree (x.bind f) := by
  cases x with
  | error e => exact error (hx e rfl)
  | ok a => exact hf a rfl

theorem map {x : Except Failure α} {f : α → β} (hx : FaultFree x) : FaultFree (x.map f) := by
  cases x with
  | error e => exact error (hx e rfl)
  | ok a => exact ok _

/-- A failure that reports no fault reports no fault of a block. -/
theorem blockFaults {x : Except Failure α} {P : Fault → Prop} (hx : FaultFree x) :
    BlockFaults P x := by
  cases x with
  | error e => exact .of_fault?_eq_none (hx e rfl)
  | ok a => exact .ok a

end FaultFree

theorem Encoding.faultFree_codec (encoding : Encoding) : FaultFree encoding.codec := by
  unfold codec
  split
  · exact .ok _
  · exact .error rfl

namespace Disk

variable (disk : Disk) (p : Path)

theorem faultFree_resolve : FaultFree (disk.resolve p) := by
  unfold resolve
  split
  · exact .error rfl
  · dsimp only
    split
    · exact .error rfl
    · exact .ok _

theorem faultFree_find? : FaultFree (disk.find? p) := by
  unfold find?
  split
  · exact .ok _
  · split
    · exact .ok _
    · exact .ok _
    · exact .error rfl
    · exact .ok _

theorem faultFree_isFile : FaultFree (disk.isFile p) := (faultFree_find? disk p).map

theorem faultFree_readBytes : FaultFree (disk.readBytes p) := by
  unfold readBytes
  split
  · exact .error rfl
  · split
    · exact .ok _
    · exact .ok _
    all_goals exact .error rfl

theorem faultFree_readText (encoding : Encoding) : FaultFree (disk.readText encoding p) := by
  refine .bind (faultFree_readBytes disk p) fun content _ => ?_
  refine .bind encoding.faultFree_codec fun codec _ => ?_
  split
  · exact .ok _
  · exact .error rfl

end Disk

theorem Context.faultFree_top (disk : Disk) (options : Options) (r : Registry)
    (file : Option Path) : FaultFree (Context.top disk options r file) := by
  cases file with
  | none => exact .ok _
  | some path => exact .bind (disk.faultFree_resolve path) fun _ _ => .ok _

theorem Task.faultFree_includePath (disk : Disk) (ctx : Context) (requested : Text) :
    FaultFree (includePath disk ctx requested) := by
  unfold includePath
  dsimp only
  split <;> exact disk.faultFree_resolve _

/-! ## Extensions -/

namespace Extension

theorem noBlockFault_fault {α : Type} (reason : String) (file : Text) :
    NoBlockFault (.error (fault reason file) : Except Failure α) := .of_isOfBlock_eq_false rfl

theorem noBlockFault_apply (file : Text) (e : Extension) (r : Registry) :
    NoBlockFault (e.apply file r).result := by
  cases e with
  | unreadable reason => exact noBlockFault_fault _ _
  | noRegister => exact noBlockFault_fault _ _
  | givesUp reason => exact noBlockFault_fault _ _
  | requests qs =>
    rw [apply, blame]
    dsimp only
    split
    · exact .ok _
    · exact noBlockFault_fault _ _

theorem noBlockFault_load (disk : Disk) (r : Registry) (file : Text)
    (extensionOf : Entry → Extension) : NoBlockFault (load disk r file extensionOf).result := by
  rw [load, Outcome.result_bind]
  refine .bind (disk.faultFree_find? _).blockFaults fun e _ => ?_
  cases e with
  | none => exact noBlockFault_fault _ _
  | some e =>
    dsimp only
    split
    · exact noBlockFault_fault _ _
    · split
      · exact noBlockFault_fault _ _
      · rw [Outcome.result_bind]
        exact .bind (noBlockFault_apply _ _ _) fun _ _ => .ok _

theorem noBlockFault_loadAll (disk : Disk) (r : Registry) (extensionOf : Entry → Extension)
    (files : List Text) : NoBlockFault (loadAll disk r extensionOf files).result := by
  induction files generalizing r with
  | nil => exact .ok _
  | cons file files ih =>
    rw [loadAll, Outcome.result_bind]
    exact .bind (noBlockFault_load disk r file extensionOf) fun r _ => ih r

end Extension

/-! ## Placeholders -/

theorem Placeholder.faultFree_resolve (data : Value) (p : Placeholder) :
    FaultFree (p.resolve data) := by
  unfold resolve
  split
  · exact .error rfl
  · exact .ok _
  · split
    · exact .ok _
    · split
      · exact .error rfl
      · exact .ok _

theorem Placeholder.noBlockFault_leave (strict : Bool) (file : Option Text) (p : Placeholder) :
    NoBlockFault (p.leave strict file).result := by
  rw [leave]
  split
  · exact .of_isOfBlock_eq_false rfl
  · exact .ok _

theorem Segment.noBlockFault_fill (strict : Bool) (file : Option Text) (data : Value)
    (s : Segment) : NoBlockFault (s.fill strict file data).result := by
  cases s with
  | text s => exact .ok _
  | placeholder p =>
    rw [fill, Placeholder.fill, Outcome.result_bind]
    refine .bind (p.faultFree_resolve data).blockFaults fun shown _ => ?_
    cases shown with
    | none => exact p.noBlockFault_leave strict file
    | some s => exact .ok _

theorem noBlockFault_interpolate (ds : List Delimiter) (strict : Bool) (file : Option Text)
    (data : Value) (template : Text) :
    NoBlockFault (interpolate ds strict file data template).result := by
  unfold interpolate
  induction Segment.cut ds template with
  | nil => exact .ok _
  | cons s ss ih =>
    rw [Segment.fillAll, Outcome.result_bind]
    refine .bind (s.noBlockFault_fill strict file data) fun first _ => ?_
    rw [Outcome.result_bind]
    exact .bind ih fun _ _ => .ok _

end BuildBlocks
