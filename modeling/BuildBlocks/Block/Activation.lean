import BuildBlocks.Block.Registry
import BuildBlocks.Block.Span

/-!
# Activation

Which blocks of a page apply to the current environment. A block with targets applies if the
environment is one of them; a block without applies everywhere, unless its type is gated: then it
applies when no environment is set.

Gated blocks that follow one another with nothing but blanks between them form a switch: the first
that applies wins and the others are inactive. A block whose targets are those of a block already in
the switch starts a new one.
-/

namespace BuildBlocks
namespace Activation

/-- Whether a block of a type applies by itself. -/
def appliesTo (environment : Option Text) (b : BlockType) (d : Directive) : Bool :=
  if d.targets.isEmpty then !b.gated || environment.isNone
  else environment.any d.targets.contains

/-- Whether a block applies by itself. -/
def isActive (r : Registry) (environment : Option Text) (d : Directive) : Except Failure Bool :=
  (r.resolve d.kind).map fun b => appliesTo environment b d

/-- The switch that a page is in: the targets of its blocks so far, and whether one of them
applied. -/
structure Switch where
  targets : List (List Text)
  matched : Bool
  deriving DecidableEq, Repr

namespace Switch

/-- No switch. -/
def none : Switch := ⟨[], false⟩

/-- The switch with no blocks in it. What was matched is forgotten when the next one begins. -/
def closed (s : Switch) : Switch := { s with targets := [] }

/-- The switch that a block with these targets belongs to: the current one, or a new one if there is
none or a block with the same targets is in it. -/
def joined (s : Switch) (targets : List Text) : Switch :=
  if s.targets.isEmpty || s.targets.any (Target.sameSet targets) then ⟨[targets], false⟩
  else { s with targets := targets :: s.targets }

end Switch

/-- Whether each span is active, in order; a text never is. -/
def resolveFrom (r : Registry) (environment : Option Text) (s : Switch) :
    List Span → Outcome (List Bool)
  | [] => pure []
  | .text t :: rest => do
    let flags ← resolveFrom r environment (if Text.allBlank t then s else s.closed) rest
    pure (false :: flags)
  | .block d _ _ :: rest => do
    let b ← Outcome.ofExcept (r.resolve d.kind)
    let applies := appliesTo environment b d
    if b.gated then
      let s := s.joined d.targets
      if applies && s.matched then
        Outcome.note 3 s!"Block '{d.kind}' at line {d.startLine} loses switch to an earlier match"
      let active := applies && !s.matched
      let flags ← resolveFrom r environment { s with matched := s.matched || active } rest
      pure (active :: flags)
    else
      let flags ← resolveFrom r environment s.closed rest
      pure (applies :: flags)

/-- Whether each span of a page is active, in order. -/
def resolve (r : Registry) (environment : Option Text) (spans : List Span) : Outcome (List Bool) :=
  resolveFrom r environment .none spans

end Activation
end BuildBlocks
