import BuildBlocks.Disk.Access

/-!
# Scripts

What runs beside other jobs is not a function of one disk: between two of its accesses the disk may
change. A script says which accesses are made, one at a time, and how to go on with each answer.

Run alone, a script is a function of the disk it starts on (`Script.alone`). A program is a script
that may fail; a program that only looks gives what a function of the disk gives (`Program.Gives`).

Run beside others, a script makes its accesses on disks that it knows nothing about. Which ones it made
so far, and on which disks, is its log (`Script.Leads`). How a program comes to fail can be read off the
log, and it is the same part of the program that fails alone (`Program.FailsBy`).
-/

namespace BuildBlocks

/-- An access to the disk that nothing interrupts. -/
inductive Access where
  /-- Asks what a path leads to. -/
  | find (p : Path)
  /-- Resolves a path. -/
  | resolve (p : Path)
  /-- Reads the file at a path. -/
  | read (p : Path)
  /-- Makes a folder whose parent is there. -/
  | make (p : Path)
  /-- Opens a file to be written, which empties it. -/
  | empty (p : Path)
  /-- Writes what an opened file is to hold. -/
  | fill (place : Place) (content : Bytes)

namespace Access

/-- What an access finds out. -/
def Answer : Access → Type
  | .find _ => Except Failure (Option Entry)
  | .resolve _ => Except Failure Path
  | .read _ => Except Failure Bytes
  | .make _ => Except Refusal Unit
  | .empty _ => Except Failure Place
  | .fill _ _ => Unit

/-- What an access finds out on a disk, and what it puts at a place, if anything. -/
def effect (disk : Disk) : (a : Access) → a.Answer × Option (Place × Entry)
  | .find p => (disk.find? p, none)
  | .resolve p => (disk.resolve p, none)
  | .read p => (disk.readBytes p, none)
  | .make p =>
    match disk.locateLast p with
    | .ok (.absent place) => (.ok (), some (place, .folder))
    | .ok (.present _ _) => (.error .exists, none)
    | .error why => (.error why, none)
  | .empty p =>
    match disk.writable p with
    | .ok place => (.ok place, some (place, .file []))
    | .error e => (.error e, none)
  | .fill place content => ((), some (place, .file content))

/-- The answer of an access. -/
def answer (a : Access) (disk : Disk) : a.Answer := (a.effect disk).1

/-- The disk after an access. -/
def after (a : Access) (disk : Disk) : Disk :=
  match (a.effect disk).2 with
  | none => disk
  | some (place, e) => disk.set place e

/-- Whether an access leaves every file as it is. -/
def Spares : Access → Prop
  | .empty _ | .fill _ _ => False
  | .find _ | .resolve _ | .read _ | .make _ => True

end Access

/-- Accesses one after another, each with how to go on from its answer. -/
inductive Script (α : Type) where
  | done (a : α)
  | access (a : Access) (next : a.Answer → Script α)

namespace Script

variable {α β : Type}

/-- One script after another. -/
protected def bind : Script α → (α → Script β) → Script β
  | .done a, f => f a
  | .access a next, f => .access a fun answer => (next answer).bind f

/-- The result of a script that runs alone, and the disk it leaves. -/
def alone (disk : Disk) : Script α → α × Disk
  | .done a => (a, disk)
  | .access a next => (next (a.answer disk)).alone (a.after disk)

/-- Whether a script leaves every file as it is, whatever it is told. -/
def Spares : Script α → Prop
  | .done _ => True
  | .access a next => a.Spares ∧ ∀ answer, (next answer).Spares

theorem alone_bind (disk : Disk) (s : Script α) (f : α → Script β) :
    (s.bind f).alone disk = (f (s.alone disk).1).alone (s.alone disk).2 := by
  induction s generalizing disk with
  | done a => rfl
  | access a next ih => exact ih _ _

theorem Spares.bind {s : Script α} {f : α → Script β} (hs : s.Spares) (hf : ∀ a, (f a).Spares) :
    (s.bind f).Spares := by
  induction s with
  | done a => exact hf a
  | access a next ih => exact ⟨hs.1, fun answer => ih answer (hs.2 answer)⟩

/-- The accesses that a script has made, each with the disk it was made on, first to last. -/
abbrev Log := List (Access × Disk)

/-- A script has made the accesses of a log, and `rest` is what is left of it. -/
inductive Leads : Script α → Log → Script α → Prop
  | refl (s : Script α) : Leads s [] s
  | access {a : Access} {next : a.Answer → Script α} {disk : Disk} {log : Log} {rest : Script α}
      (h : Leads (next (a.answer disk)) log rest) : Leads (.access a next) ((a, disk) :: log) rest

theorem Leads.of_done {a b : α} {log : Log} (h : (Script.done a).Leads log (.done b)) :
    log = [] ∧ b = a := by
  cases h
  exact ⟨rfl, rfl⟩

/-- One more access. -/
theorem Leads.snoc {s : Script α} {log : Log} {a : Access} {next : a.Answer → Script α}
    (h : s.Leads log (.access a next)) (disk : Disk) :
    s.Leads (log ++ [(a, disk)]) (next (a.answer disk)) := by
  generalize hrest : Script.access a next = rest at h
  induction h with
  | refl s =>
    subst hrest
    exact .access (.refl _)
  | access _ ih => exact .access (ih hrest)

/-- A script that is done after another one has taken over where that was done. -/
theorem Leads.exists_of_bind {s : Script α} {f : α → Script β} {log : Log} {b : β}
    (h : (s.bind f).Leads log (.done b)) :
    ∃ a before after, log = before ++ after ∧ s.Leads before (.done a) ∧
      (f a).Leads after (.done b) := by
  induction s generalizing log with
  | done a => exact ⟨a, [], log, rfl, .refl _, h⟩
  | access a next ih =>
    cases h with
    | access h =>
      obtain ⟨r, before, after, rfl, hbefore, hafter⟩ := ih _ h
      exact ⟨r, _ :: before, after, rfl, .access hbefore, hafter⟩

end Script

/-- A script that has a result or fails. -/
abbrev Program (α : Type) : Type := Script (Except Failure α)

namespace Program

variable {α β : Type}

/-- A program without accesses. -/
def lift (r : Except Failure α) : Program α := .done r

/-- One program after another; nothing runs after a failure. -/
protected def bind (x : Program α) (f : α → Program β) : Program β :=
  Script.bind x fun
    | .ok a => f a
    | .error e => .done (.error e)

instance : Monad Program where
  pure a := .done (.ok a)
  bind := Program.bind

/-- Asks what a path leads to. -/
def find (p : Path) : Program (Option Entry) := .access (.find p) lift

/-- Resolves a path. -/
def resolve (p : Path) : Program Path := .access (.resolve p) lift

/-- Reads the text of a file. -/
def readText (encoding : Encoding) (p : Path) : Program Text :=
  .access (.read p) fun content => lift do
    let content ← content
    let codec ← encoding.codec
    match codec.decode content with
    | .ok s => .ok (Text.unifyNewlines s)
    | .error e => .error (.undecodable e)

/-- If the program fails, whatever it is told, then by a failure that is `E` of its log. -/
def FailsBy (E : Script.Log → Failure → Prop) (x : Program α) : Prop :=
  ∀ log e, x.Leads log (.done (.error e)) → E log e

namespace FailsBy

variable {E : Script.Log → Failure → Prop}

theorem lift {r : Except Failure α} (h : ∀ e, r = .error e → E [] e) : (lift r).FailsBy E := by
  intro log e hleads
  obtain ⟨rfl, hr⟩ := hleads.of_done
  exact h e hr.symm

theorem ok (a : α) : (Program.lift (.ok a)).FailsBy E := lift nofun

/-- A single access and what is made of its answer. -/
theorem access {a : Access} {f : a.Answer → Except Failure α}
    (h : ∀ disk e, f (a.answer disk) = .error e → E [(a, disk)] e) :
    FailsBy E (.access a fun answer => Program.lift (f answer)) := by
  intro log e hleads
  cases hleads with
  | @access _ _ disk log _ hleads =>
    obtain ⟨rfl, hr⟩ := hleads.of_done
    exact h disk e hr.symm

theorem mono {E' : Script.Log → Failure → Prop} {x : Program α} (h : x.FailsBy E)
    (himp : ∀ log e, E log e → E' log e) : x.FailsBy E' :=
  fun log e hleads => himp log e (h log e hleads)

/-- A program that goes on with another one fails as one of them does. The second one starts where the
first one has succeeded, and its log goes on behind that of the first one. -/
theorem bind {x : Program α} {f : α → Program β} (hx : x.FailsBy E)
    (hf : ∀ a before, x.Leads before (.done (.ok a)) →
      (f a).FailsBy fun after e => E (before ++ after) e) : (x >>= f).FailsBy E := by
  intro log e hleads
  obtain ⟨r, before, after, rfl, hbefore, hafter⟩ := Script.Leads.exists_of_bind hleads
  cases r with
  | error e' =>
    obtain ⟨rfl, he⟩ := hafter.of_done
    cases he
    rw [List.append_nil]
    exact hx before e hbefore
  | ok a => exact hf a before hbefore after e hafter

end FailsBy

/-- A program that leaves the disk alone and gives what a function of it gives. -/
structure Gives (x : Program α) (f : Disk → Except Failure α) : Prop where
  spares : x.Spares
  alone : ∀ disk, x.alone disk = (f disk, disk)

theorem spares_bind {x : Program α} {f : α → Program β} (hx : x.Spares)
    (hf : ∀ a, (f a).Spares) : (x >>= f).Spares := by
  refine Script.Spares.bind hx fun r => ?_
  cases r with
  | ok a => exact hf a
  | error e => exact trivial

theorem alone_bind_of_ok {x : Program α} {f : α → Program β} {disk left : Disk} {a : α}
    (h : x.alone disk = (.ok a, left)) : (x >>= f).alone disk = (f a).alone left := by
  show (Program.bind x f).alone disk = _
  rw [Program.bind, Script.alone_bind, h]

theorem alone_bind_of_error {x : Program α} {f : α → Program β} {disk left : Disk} {e : Failure}
    (h : x.alone disk = (.error e, left)) : (x >>= f).alone disk = (.error e, left) := by
  show (Program.bind x f).alone disk = _
  rw [Program.bind, Script.alone_bind, h]
  rfl

namespace Gives

theorem of_eq {x : Program α} {f g : Disk → Except Failure α} (h : x.Gives f)
    (heq : ∀ disk, f disk = g disk) : x.Gives g :=
  ⟨h.spares, fun disk => by rw [h.alone, heq]⟩

theorem lift (r : Except Failure α) : (Program.lift r).Gives fun _ => r := ⟨trivial, fun _ => rfl⟩

theorem pure (a : α) : (pure a : Program α).Gives fun _ => .ok a := lift (.ok a)

theorem find (p : Path) : (Program.find p).Gives (·.find? p) :=
  ⟨⟨trivial, fun _ => trivial⟩, fun _ => rfl⟩

theorem resolve (p : Path) : (Program.resolve p).Gives (·.resolve p) :=
  ⟨⟨trivial, fun _ => trivial⟩, fun _ => rfl⟩

theorem readText (encoding : Encoding) (p : Path) :
    (Program.readText encoding p).Gives (·.readText encoding p) :=
  ⟨⟨trivial, fun _ => trivial⟩, fun _ => rfl⟩

theorem bind {x : Program α} {f : Disk → Except Failure α} {g : α → Program β}
    {h : α → Disk → Except Failure β} (hx : x.Gives f) (hg : ∀ a, (g a).Gives (h a)) :
    (x >>= g).Gives fun disk => (f disk).bind fun a => h a disk := by
  refine ⟨spares_bind hx.spares fun a => (hg a).spares, fun disk => ?_⟩
  have hx := hx.alone disk
  show (x >>= g).alone disk = ((f disk).bind _, disk)
  cases hf : f disk with
  | ok a =>
    rw [hf] at hx
    rw [alone_bind_of_ok hx, (hg a).alone]
    rfl
  | error e =>
    rw [hf] at hx
    rw [alone_bind_of_error hx]
    rfl

end Gives

end Program
end BuildBlocks
