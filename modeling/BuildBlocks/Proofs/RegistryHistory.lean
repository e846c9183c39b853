import BuildBlocks.Block.Extension
import Mathlib.Data.List.Induction
import Mathlib.Data.List.Nodup

/-!
# Lookups after any calls

A registry starts with the block types that are always there and takes others on request; a request
whose handler is none fails. After any calls, in any order, looking up a name gives the type that
was registered last under it, of the calls that did not fail; for a name in square brackets that has
none, the type registered last for all attributes; and nothing for other names
(`Registry.lookups_after`).

## The architecture

* **`result_perform`**: what one call does. It fails just if its handler is none.
* **`find?_insert`**, **`names_insert`**: what registering one type does to lookups and to names.
* **`types_after`**: a registry is what its types give that were registered one after another,
  those included that are always there; so lookups come down to the last of them
  (`find?_foldl_insert`).
* **`table_after`**: a table from any keys to any requests, to which the same calls are made, has
  nothing but names for keys and handlers for handlers.
-/

namespace BuildBlocks
namespace Registry

variable {r : Registry} {b : BlockType} {name : Text}

/-! ## Calls -/

/-- A call that asks a registry to take a block type, as it is or with a missing description filled
in. -/
inductive Call where
  | plain (q : Request)
  | custom (q : Request)
  deriving DecidableEq, Repr

namespace Call

/-- Makes the call. -/
def perform (r : Registry) : Call → Outcome Registry
  | plain q => r.accept q
  | custom q => r.acceptCustom q

/-- What the call asks for in the end. -/
def request : Call → Request
  | plain q => q
  | custom q =>
    let description :=
      if q.description.isEmpty then s!"Custom block type '{q.name}'".toList else q.description
    { q with description }

end Call

/-- The block type that a request is for, if its handler is one. -/
def Request.type? (q : Request) : Option BlockType :=
  match q.handler with
  | .handler h => some ⟨q.name, q.description, h, q.gated, q.examples⟩
  | .other => none

/-- The block type that a call registers; none if it fails. -/
def Call.type? (c : Call) : Option BlockType := c.request.type?

theorem Call.type?_eq_none_iff {c : Call} : c.type? = none ↔ c.request.handler = .other := by
  rw [type?, Request.type?]
  cases c.request.handler <;> simp

/-- A registry after a call. A call that fails leaves it as it is. -/
def step (r : Registry) (c : Call) : Registry :=
  match (c.perform r).result with
  | .ok r' => r'
  | .error _ => r

/-- The registry after calls, one after another. -/
def after (calls : List Call) : Registry := calls.foldl step initial

/-- The block types that were registered, in order, those first that are always there. -/
def registered (calls : List Call) : List BlockType :=
  BlockType.builtins ++ calls.filterMap Call.type?

/-- The last of some block types that has a name. -/
def last? (bs : List BlockType) (name : Text) : Option BlockType :=
  bs.reverse.find? (·.name = name)

theorem last?_append (bs bs' : List BlockType) (name : Text) :
    last? (bs ++ bs') name = (last? bs' name).or (last? bs name) := by
  rw [last?, List.reverse_append, List.find?_append]
  rfl

/-- **One call** puts its type among the others, or fails because its handler is none. -/
theorem result_perform (r : Registry) (c : Call) :
    (c.perform r).result =
      match c.type? with
      | some b => .ok ⟨insert b r.types⟩
      | none => .error (.notHandler c.request.name) := by
  have haccept : (c.perform r).result = (r.accept c.request).result := by
    cases c <;> rfl
  rw [haccept, Call.type?, Request.type?, accept]
  cases c.request.handler with
  | handler h =>
    simp only [register]
    split <;> rfl
  | other => rfl

theorem step_of_type?_eq_some {c : Call} (h : c.type? = some b) :
    step r c = ⟨insert b r.types⟩ := by
  rw [step, result_perform, h]

/-- A call that fails changes nothing. -/
theorem step_of_type?_eq_none {c : Call} (h : c.type? = none) : step r c = r := by
  rw [step, result_perform, h]

/-! ## Registering one type -/

theorem find?_insert (b : BlockType) (ts : List BlockType) (name : Text) :
    (insert b ts).find? (·.name = name) =
      if b.name = name then some b else ts.find? (·.name = name) := by
  induction ts with
  | nil => by_cases h : b.name = name <;> simp [insert, h]
  | cons t ts ih =>
    rw [insert]
    split
    · next h =>
      -- the type that is replaced has the same name
      by_cases hname : b.name = name
      · simp [hname]
      · simp [hname, h]
    · next h =>
      by_cases hname : t.name = name
      · have hb : b.name ≠ name := fun hb => h (hname.trans hb.symm)
        simp [hname, hb]
      · rw [List.find?_cons_of_neg (by simpa using hname), ih,
          List.find?_cons_of_neg (by simpa using hname)]

/-- A name that is there already keeps its place. -/
theorem names_insert (b : BlockType) (ts : List BlockType) :
    (insert b ts).map (·.name) =
      if b.name ∈ ts.map (·.name) then ts.map (·.name) else ts.map (·.name) ++ [b.name] := by
  induction ts with
  | nil => rfl
  | cons t ts ih =>
    rw [insert]
    by_cases h : t.name = b.name
    · simp [h]
    · rw [if_neg h, List.map_cons, ih, List.map_cons]
      by_cases hmem : b.name ∈ ts.map (·.name) <;> simp [hmem, Ne.symm h]

theorem nodup_names_insert {ts : List BlockType} (h : (ts.map (·.name)).Nodup) :
    ((insert b ts).map (·.name)).Nodup := by
  rw [names_insert]
  split
  · exact h
  · next hb => exact List.concat_eq_append ▸ h.concat hb

/-! ## Registering types one after another -/

theorem insert_of_forall_ne {ts : List BlockType} (h : ∀ t ∈ ts, t.name ≠ b.name) :
    insert b ts = ts ++ [b] := by
  induction ts with
  | nil => rfl
  | cons t ts ih =>
    rw [insert, if_neg (h t List.mem_cons_self), ih fun t ht => h t (List.mem_cons_of_mem _ ht)]
    rfl

/-- Types of different names are registered behind one another. -/
theorem foldl_insert_of_nodup {ts bs : List BlockType} (h : ((ts ++ bs).map (·.name)).Nodup) :
    bs.foldl (fun ts b => insert b ts) ts = ts ++ bs := by
  induction bs generalizing ts with
  | nil => exact (List.append_nil ts).symm
  | cons b bs ih =>
    have hne : ∀ t ∈ ts, t.name ≠ b.name := by
      rw [List.map_append, List.nodup_append] at h
      exact fun t ht => h.2.2 _ (List.mem_map_of_mem ht) _ (by simp)
    rw [List.append_cons] at h
    rw [List.foldl_cons, insert_of_forall_ne hne, ih h, ← List.append_cons]

/-- The types that are always there are registered like any others. -/
theorem types_initial : initial.types = BlockType.builtins.foldl (fun ts b => insert b ts) [] := by
  have hnames : (([] ++ BlockType.builtins).map BlockType.name).Nodup := by decide
  exact (foldl_insert_of_nodup hnames).symm

/-- **A registry** is what its types give that were registered one after another. -/
theorem types_after (calls : List Call) :
    (after calls).types = (registered calls).foldl (fun ts b => insert b ts) [] := by
  rw [after, registered, List.foldl_append, ← types_initial]
  generalize initial = r
  induction calls generalizing r with
  | nil => rfl
  | cons c calls ih =>
    rw [List.foldl_cons, List.filterMap_cons, ih]
    cases h : c.type? with
    | none => rw [step_of_type?_eq_none h]
    | some b => rw [step_of_type?_eq_some h, List.foldl_cons]

theorem find?_foldl_insert (bs ts : List BlockType) (name : Text) :
    (bs.foldl (fun ts b => insert b ts) ts).find? (·.name = name) =
      (last? bs name).or (ts.find? (·.name = name)) := by
  induction bs generalizing ts with
  | nil => rfl
  | cons b bs ih =>
    have hlast : last? (b :: bs) name =
        (last? bs name).or (if b.name = name then some b else none) := by
      rw [← List.singleton_append, last?_append]
      by_cases h : b.name = name <;> simp [last?, h]
    rw [List.foldl_cons, ih, find?_insert, hlast, Option.or_assoc]
    split <;> rfl

/-- Looking for a type of one name finds the last one that was registered under it. -/
theorem find?_types_after (calls : List Call) (name : Text) :
    (after calls).types.find? (·.name = name) = last? (registered calls) name := by
  rw [types_after, find?_foldl_insert, List.find?_nil, Option.or_none]

theorem nodup_names_after (calls : List Call) : (after calls).names.Nodup := by
  rw [names, types_after]
  generalize registered calls = bs
  induction bs using List.reverseRecOn with
  | nil => exact List.nodup_nil
  | append_singleton bs b ih =>
    rw [List.foldl_append]
    exact nodup_names_insert ih

/-! ## Lookups -/

/-- Without a type of its name, a name in brackets is served by the type for all attributes. -/
theorem find?_servesName {ts : List BlockType} (hname : ∀ b ∈ ts, b.name ≠ name) :
    ts.find? (·.servesName name) =
      if BlockType.isBracketed name then ts.find? (·.name = BlockType.attributeName) else none := by
  induction ts with
  | nil => simp
  | cons t ts ih =>
    have hserves : t.servesName name =
        (decide (t.name = BlockType.attributeName) && BlockType.isBracketed name) := by
      simp [BlockType.servesName, hname t List.mem_cons_self]
    rw [List.find?_cons, hserves, ih fun b hb => hname b (List.mem_cons_of_mem _ hb)]
    cases BlockType.isBracketed name with
    | true => rw [Bool.and_true, if_pos rfl, if_pos rfl, List.find?_cons]
    | false => rw [Bool.and_false]; rfl

/-- A lookup finds the type of the name, or else the one for all attributes if the name stands in
brackets. -/
theorem find?_eq (r : Registry) (name : Text) :
    r.find? name = (r.types.find? (·.name = name)).or
      (if BlockType.isBracketed name then r.types.find? (·.name = BlockType.attributeName)
        else none) := by
  rw [find?]
  cases hfind : r.types.find? (·.name = name) with
  | some b => rfl
  | none => exact find?_servesName (by simpa using hfind)

theorem find?_after (calls : List Call) (name : Text) :
    (after calls).find? name = (last? (registered calls) name).or
      (if BlockType.isBracketed name then last? (registered calls) BlockType.attributeName
        else none) := by
  rw [find?_eq, find?_types_after, find?_types_after]

/-- There is always a type for all attributes. -/
theorem isSome_last?_attributeName (calls : List Call) :
    (last? (registered calls) BlockType.attributeName).isSome = true := by
  rw [registered, last?_append]
  have hbuiltin : (last? BlockType.builtins BlockType.attributeName).isSome = true := by decide
  simp [hbuiltin]

theorem resolve_eq_error_iff {e : Failure} :
    r.resolve name = .error e ↔ r.find? name = none ∧ e = .fault (.unknownBlock name {}) := by
  rw [resolve]
  cases r.find? name <;> simp [eq_comm]

theorem find?_after_eq_none_iff {calls : List Call} :
    (after calls).find? name = none ↔
      last? (registered calls) name = none ∧ BlockType.isBracketed name = false := by
  rw [find?_after, Option.or_eq_none_iff]
  refine and_congr_right fun _ => ?_
  cases BlockType.isBracketed name with
  | false => simp
  | true =>
    have hsome := isSome_last?_attributeName calls
    cases h : last? (registered calls) BlockType.attributeName with
    | none => simp [h] at hsome
    | some b => simp

end Registry

/-! ## The table behind a registry -/

/-- A block type as the request that is for it. -/
def BlockType.request (b : BlockType) : Registry.Request :=
  ⟨b.name, b.description, .handler b.handler, b.gated, b.examples⟩

namespace Registry

theorem Request.eq_of_type? {q : Request} (h : q.type? = some b) : q = b.request := by
  obtain ⟨name, description, handler, gated, examples⟩ := q
  cases handler with
  | handler given =>
    cases h
    rfl
  | other => cases h

/-- A table of requests, each under a key. A request may stand under any key, and its handler may be
none. -/
abbrev Table := List (Text × Request)

namespace Table

/-- The table with a request under a key: in the place of the one that stood there, or last. -/
def set (key : Text) (q : Request) : Table → Table
  | [] => [(key, q)]
  | (k, p) :: rest => if k = key then (key, q) :: rest else (k, p) :: set key q rest

/-- The table after a call. -/
def step (t : Table) (c : Call) : Table :=
  if c.type?.isSome then t.set c.request.name c.request else t

/-- The table that holds some types under their names. -/
def ofTypes (ts : List BlockType) : Table := ts.map fun b => (b.name, b.request)

/-- The table after calls, one after another. -/
def after (calls : List Call) : Table := calls.foldl step (ofTypes BlockType.builtins)

theorem ofTypes_insert (b : BlockType) (ts : List BlockType) :
    (ofTypes ts).set b.name b.request = ofTypes (insert b ts) := by
  induction ts with
  | nil => rfl
  | cons t ts ih =>
    rw [ofTypes, List.map_cons, set, insert]
    split
    · rfl
    · exact congrArg ((t.name, t.request) :: ·) ih

end Table

/-- **A table to which the same calls are made** has nothing but the types of the registry, under
their names. -/
theorem table_after (calls : List Call) : Table.after calls = .ofTypes (after calls).types := by
  rw [Table.after, after]
  show calls.foldl Table.step (.ofTypes initial.types) = _
  generalize initial = r
  induction calls generalizing r with
  | nil => rfl
  | cons c calls ih =>
    rw [List.foldl_cons, List.foldl_cons, ← ih, Table.step]
    cases h : c.type? with
    | none => rw [step_of_type?_eq_none h]; rfl
    | some b =>
      have hrequest : c.request = b.request := Request.eq_of_type? h
      rw [step_of_type?_eq_some h, ← Table.ofTypes_insert, hrequest]
      rfl

/-! ## Calls that fail -/

/-- Calls that fail might as well not have been made. -/
theorem after_filter (calls : List Call) :
    after (calls.filter (·.request.handler ≠ .other)) = after calls := by
  unfold after
  generalize initial = r
  induction calls generalizing r with
  | nil => rfl
  | cons c calls ih =>
    by_cases h : c.request.handler = .other
    · rw [List.filter_cons_of_neg (by simp [h]), ih, List.foldl_cons,
        step_of_type?_eq_none (Call.type?_eq_none_iff.2 h)]
    · rw [List.filter_cons_of_pos (by simp [h]), List.foldl_cons, ih, List.foldl_cons]

/-- A call after others, and how it ends. -/
theorem result_perform_after (calls : List Call) (c : Call) :
    (c.perform (after calls)).result =
      if c.request.handler = .other then .error (.notHandler c.request.name)
      else .ok (after (calls ++ [c])) := by
  have hafter : after (calls ++ [c]) = step (after calls) c := by
    rw [after, List.foldl_append]
    rfl
  rw [result_perform, hafter]
  cases h : c.type? with
  | none => rw [if_pos (Call.type?_eq_none_iff.1 h)]
  | some b =>
    have hhandler : c.request.handler ≠ .other := by simp [← Call.type?_eq_none_iff, h]
    rw [if_neg hhandler, step_of_type?_eq_some h]

/-- A name in brackets always has a type. -/
theorem exists_resolve_after (calls : List Call) (hbracketed : BlockType.isBracketed name = true) :
    ∃ b, (after calls).resolve name = .ok b := by
  cases h : (after calls).find? name with
  | none =>
    have hplain := (find?_after_eq_none_iff.1 h).2
    rw [hbracketed] at hplain
    contradiction
  | some b => exact ⟨b, by rw [resolve, h]⟩

/-- **Lookups after any calls.** The names of a registry are distinct. In the table, a key is the
name of what stands under it, which has a handler, and nothing stands there that is not in the
registry. Calls that fail have changed nothing. A lookup gives the last type that was registered
under the name; without one, the last for all attributes if the name stands in brackets; and nothing
otherwise. So a name in brackets always has a type, and a fault is raised just for the other names
that nothing was registered under. -/
theorem lookups_after (calls : List Call) :
    (after calls).names.Nodup ∧
    Table.after calls = (after calls).types.map (fun b => (b.name, b.request)) ∧
    (∀ entry ∈ Table.after calls, entry.1 = entry.2.name ∧ entry.2.handler ≠ .other) ∧
    after (calls.filter (·.request.handler ≠ .other)) = after calls ∧
    (∀ c : Call, (c.perform (after calls)).result =
      if c.request.handler = .other then .error (.notHandler c.request.name)
      else .ok (after (calls ++ [c]))) ∧
    ∀ name,
      (after calls).find? name = (last? (registered calls) name).or
        (if BlockType.isBracketed name then last? (registered calls) BlockType.attributeName
          else none) ∧
      (BlockType.isBracketed name = true → ∃ b, (after calls).resolve name = .ok b) ∧
      ∀ e, (after calls).resolve name = .error e ↔
        last? (registered calls) name = none ∧ BlockType.isBracketed name = false ∧
          e = .fault (.unknownBlock name {}) := by
  refine ⟨nodup_names_after calls, table_after calls, ?_, after_filter calls,
    result_perform_after calls, fun name => ⟨find?_after calls name, exists_resolve_after calls,
      fun e => ?_⟩⟩
  · rintro entry hentry
    obtain ⟨b, -, rfl⟩ := List.mem_map.1 (table_after calls ▸ hentry)
    exact ⟨rfl, by simp [BlockType.request]⟩
  · rw [resolve_eq_error_iff, find?_after_eq_none_iff, and_assoc]

end Registry

namespace RegisteredAttributes

/-- Calls for one attribute, for a handler that is none, and for all attributes. -/
def attributeCalls : List Registry.Call :=
  [.custom { name := "[src]".toList, handler := .handler .script },
    .custom { name := "x".toList, handler := .other },
    .plain { name := BlockType.attributeName, handler := .handler .keepBody }]

end RegisteredAttributes

namespace Registry

/-- The attribute that was registered is not served by what is for all attributes, the others are by
what was registered last for them. -/
theorem lookups_after_of_attributes :
    (after RegisteredAttributes.attributeCalls).find? "[src]".toList =
        some ⟨"[src]".toList, "Custom block type '[src]'".toList, .script, false, []⟩ ∧
      (after RegisteredAttributes.attributeCalls).find? "[href]".toList =
        some ⟨BlockType.attributeName, [], .keepBody, false, []⟩ ∧
      (∃ b, (after RegisteredAttributes.attributeCalls).resolve "[href]".toList = .ok b) ∧
      (after RegisteredAttributes.attributeCalls).resolve "x".toList =
        .error (.fault (.unknownBlock "x".toList {})) := by
  obtain ⟨-, -, -, -, -, hlookups⟩ := lookups_after RegisteredAttributes.attributeCalls
  refine ⟨(hlookups _).1.trans ?_, (hlookups _).1.trans ?_, (hlookups _).2.1 ?_,
    ((hlookups _).2.2 _).2 ⟨?_, ?_, rfl⟩⟩
  · decide
  · decide
  · decide
  · decide
  · decide

end Registry
end BuildBlocks
