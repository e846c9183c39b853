import BuildBlocks.Proofs.BlockTasks
import BuildBlocks.Proofs.Reach
import Mathlib.Data.List.Nodup

/-!
# The contexts of a call

All contexts of a call are derived from the one it begins with by entering included pages. What a
context says about its place is therefore tied together: the files on the way to the page, how many
includes they are, the file at the end and the folder in which its includes start. Options and block
types are those of the call.

## The architecture

* **`Context.Derived`**: the invariant, with one field for each fact.
* **`Context.derived_top`**, **`Context.Derived.enter`**: it holds in the beginning, and entering a
  page keeps it. A page is entered only after both guards let it pass, which is where the fields
  `nodup` and `depth_le` come from.
* **`Context.Derived.of_reaches`**: so it holds wherever the call comes to, through bodies and
  included pages in any order.
-/

namespace BuildBlocks
namespace Context

/-- What holds of every context of a call over `file` that begins in the context `top`. -/
structure Derived (settings : Settings) (file : Option Path) (top ctx : Context) : Prop where
  /-- No file is on the way twice. -/
  nodup : ctx.includeStack.Nodup
  /-- On the way are the included files, and the caller's file if there is one. -/
  length : ctx.includeStack.length = ctx.depth + if file.isSome then 1 else 0
  depth_le : (ctx.depth : Int) ≤ settings.maxIncludeDepth
  /-- An included page belongs to the last file on the way, and its includes start in the folder of
  that file. -/
  entered : 0 < ctx.depth → ∃ path, ctx.file = some path ∧
    ctx.includeStack.getLast? = some path.toText ∧ ctx.base = path.parent
  /-- Outside of includes the context is still that of the call. -/
  outermost : ctx.depth = 0 → ctx = top
  options : ctx.options = top.options
  registry : ctx.registry = top.registry

theorem derived_top {settings : Settings} {disk : Disk} {options : Options} {r : Registry}
    {file : Option Path} {top : Context} (h : Context.top disk options r file = .ok top)
    (hlimit : 0 ≤ settings.maxIncludeDepth) : Derived settings file top top := by
  obtain ⟨-, -, hdepth⟩ := eq_of_top h
  have hstack : top.includeStack.Nodup ∧
      top.includeStack.length = if file.isSome then 1 else 0 := by
    cases file with
    | none =>
      cases h
      exact ⟨List.nodup_nil, rfl⟩
    | some path =>
      obtain ⟨resolved, -, h⟩ := bind_eq_ok_iff.1 h
      cases h
      exact ⟨List.nodup_singleton _, rfl⟩
  exact {
    nodup := hstack.1
    length := by rw [hstack.2, hdepth, Nat.zero_add]
    depth_le := by rwa [hdepth]
    entered := fun hpos => absurd hpos (by rw [hdepth]; exact Nat.lt_irrefl 0)
    outermost := fun _ => rfl
    options := rfl
    registry := rfl }

namespace Derived

variable {w : Workspace} {file : Option Path} {top : Context}

/-- Entering a page that passes both guards: the file is not on the way yet, and the limit is not
reached. -/
theorem enter {settings : Settings} {ctx : Context} (h : Derived settings file top ctx) {path : Path}
    (hnew : path.toText ∉ ctx.includeStack) (hroom : (ctx.depth : Int) < settings.maxIncludeDepth) :
    Derived settings file top (ctx.enter path) where
  nodup := by
    show (ctx.includeStack ++ [path.toText]).Nodup
    rw [← List.concat_eq_append]
    exact List.Nodup.concat hnew h.nodup
  length := by
    have hlength := h.length
    show (ctx.includeStack ++ [path.toText]).length = ctx.depth + 1 + _
    rw [List.length_append, List.length_singleton, hlength]
    omega
  depth_le := by
    show ((ctx.depth + 1 : Nat) : Int) ≤ settings.maxIncludeDepth
    omega
  entered := fun _ => ⟨path, rfl, List.getLast?_concat, rfl⟩
  outermost := fun hzero => absurd hzero (Nat.succ_ne_zero ctx.depth)
  options := h.options
  registry := h.registry

/-- **One step keeps the invariant**: a body is worked through in the context of its page, and a
page that is entered has passed the guards. -/
theorem of_enters {v v' : Visit} (h : Derived w.settings file top v.ctx) (hstep : v.Enters w v') :
    Derived w.settings file top v'.ctx := by
  cases hstep with
  | body hmeets htask => exact h
  | @page _ _ _ _ hroom hmeets htask =>
    obtain ⟨-, -, hnew⟩ := Task.includes_of_ofBlock_eq_page htask
    exact h.enter hnew hroom

/-- **A run keeps the invariant.** -/
theorem of_reaches {v v' : Visit} (h : Derived w.settings file top v.ctx)
    (hreaches : v.Reaches w v') : Derived w.settings file top v'.ctx := by
  induction hreaches with
  | refl => exact h
  | tail _ hstep ih => exact ih.of_enters hstep

end Derived
end Context

namespace Page

/-- **The contexts that handlers get.** In every context in which a call gives a block to its
handler no file is on the way twice, the files on the way are counted by the depth, the depth is
within the limit, the file and the folder of an included page are those of the last file on the way,
and options and block types are those of the call. -/
theorem derived_of_handles {w : Workspace} {options : Options} {file : Option Path} {page : Text}
    {ctx : Context} {d : Directive} (hlimit : 0 ≤ w.settings.maxIncludeDepth)
    (h : Handles w options file page ctx d) :
    ∃ r top, (registry w.disk options w.settings.extensionOf).result = .ok r ∧
      Context.top w.disk options r file = .ok top ∧ Context.Derived w.settings file top ctx ∧
        ctx.options = options ∧ ctx.registry = r := by
  obtain ⟨root, v, hstarts, hreaches, rfl, -⟩ := h
  obtain ⟨hregistry, htop⟩ := hstarts
  obtain ⟨hoptions, hr, -⟩ := Context.eq_of_top htop
  have hv : Context.Derived w.settings file _ v.ctx :=
    (Context.derived_top htop hlimit).of_reaches hreaches
  exact ⟨_, _, hregistry, htop, hv, hv.options.trans hoptions, hv.registry.trans hr⟩

end Page

open IncludingPage

/-- A page that includes `a.html`, which includes itself: the inner include is handled at depth
one. -/
theorem Page.derived_of_handles_of_include :
    0 ≤ (workspace 1 (Utf8.encode page)).settings.maxIncludeDepth ∧
      Handles (workspace 1 (Utf8.encode page)) options (some caller) page (context.enter path)
        block ∧
      ∃ r top, (registry (workspace 1 (Utf8.encode page)).disk options).result = .ok r ∧
        Context.top (workspace 1 (Utf8.encode page)).disk options r (some caller) = .ok top ∧
        Context.Derived (workspace 1 (Utf8.encode page)).settings (some caller) top
          (context.enter path) ∧
        options = options ∧ Registry.initial = r := by
  have hlimit : 0 ≤ (workspace 1 (Utf8.encode page)).settings.maxIncludeDepth := Int.one_nonneg
  have henters : Visit.Enters (workspace 1 (Utf8.encode page)) ⟨context, 0, page⟩
      ⟨context.enter path, 0, page⟩ :=
    (meets_block rfl rfl).enters_page
      (includes_block rfl rfl rfl (readText_page 1)) (by decide) (by decide)
  have hhandles : Handles (workspace 1 (Utf8.encode page)) options (some caller) page
      (context.enter path) block :=
    ⟨_, _, starts _ _, .single henters, rfl, meets_block rfl rfl⟩
  exact ⟨hlimit, hhandles, derived_of_handles hlimit hhandles⟩

end BuildBlocks
