import BuildBlocks.Value.Lookup
import BuildBlocks.Value.Render
import Mathlib.Algebra.Group.Nat.Defs

/-!
# Whole numbers in values

`Value.HasInt` says that a whole number stands somewhere in a value. Looking up brings no whole
numbers to light but those in the data and small ones, like the denominator of a whole number or the
last year of the calendar (`Value.within_of_lookup?`). So if those in the data can be written out,
every value that a path leads to has a text (`Value.exists_render?_of_lookup?`).
-/

namespace BuildBlocks

/-- Whether a whole number has few enough digits to be written out. -/
def Whole.IsShort (n : Int) : Prop := n.natAbs < Nat.pow 10 maxDigits

theorem Whole.isShort_of_lt {n : Int} (h : n.natAbs < 10 ^ 9) : Whole.IsShort n := by
  have hdigits : 9 ≤ maxDigits := by decide
  unfold IsShort
  generalize maxDigits = digits at hdigits ⊢
  exact Nat.lt_of_lt_of_le h (Nat.pow_le_pow_right (Nat.succ_pos 9) hdigits)

/-- The numbers that a moment consists of. -/
def Moment.numbers (m : Moment) : List Int :=
  [(m.year : Int), m.month, m.day] ++ m.time.toList.flatMap fun t =>
    [(t.1 : Int), t.2.1, t.2.2.1, t.2.2.2]

/-- The numbers that a duration consists of. -/
def Duration.numbers (d : Duration) : List Int := [d.days, d.seconds, d.microseconds]

namespace Value

/-- Whether a whole number stands somewhere in a value. -/
inductive HasInt : Value → Int → Prop
  | int {n : Int} : HasInt (.int n) n
  | list {items : List Value} {v : Value} {n : Int} (hmem : v ∈ items) (h : HasInt v n) :
    HasInt (.list items) n
  | tuple {items : List Value} {v : Value} {n : Int} (hmem : v ∈ items) (h : HasInt v n) :
    HasInt (.tuple items) n
  | set {items : List Value} {v : Value} {n : Int} (hmem : v ∈ items) (h : HasInt v n) :
    HasInt (.set items) n
  | key {entries : List (Value × Value)} {k v : Value} {n : Int} (hmem : (k, v) ∈ entries)
    (h : HasInt k n) : HasInt (.mapping entries) n
  | entry {entries : List (Value × Value)} {k v : Value} {n : Int} (hmem : (k, v) ∈ entries)
    (h : HasInt v n) : HasInt (.mapping entries) n
  | field {fields : List (Text × Value)} {name : Text} {v : Value} {n : Int}
    (hmem : (name, v) ∈ fields) (h : HasInt v n) : HasInt (.record fields) n
  | moment {m : Moment} {n : Int} (hmem : n ∈ m.numbers) : HasInt (.moment m) n
  | duration {d : Duration} {n : Int} (hmem : n ∈ d.numbers) : HasInt (.duration d) n
  | method {owner : Value} {name : Text} {n : Int} (h : HasInt owner n) :
    HasInt (.method owner name) n
  | slot {owner : Value} {name : Text} {n : Int} (h : HasInt owner n) : HasInt (.slot owner name) n
  | loop {label : Nat} {body : Value} {n : Int} (h : HasInt body n) : HasInt (.loop label body) n

/-! ## Numbers that cannot be written -/

mutual

/-- A value that cannot be written has a whole number with too many digits in it. -/
theorem exists_hasInt_of_hasLongInt {v : Value} (h : v.hasLongInt = true) :
    ∃ n, v.HasInt n ∧ ¬ Whole.IsShort n := by
  -- a collection has a long number in one of its members
  cases v with
  | int n =>
    rw [hasLongInt, decide_eq_true_iff] at h
    exact ⟨n, .int, Nat.not_lt.2 h⟩
  | list items =>
    rw [hasLongInt] at h
    obtain ⟨v, hmem, n, hn, hlong⟩ := exists_hasInt_of_hasLongIntItems h
    exact ⟨n, .list hmem hn, hlong⟩
  | tuple items =>
    rw [hasLongInt] at h
    obtain ⟨v, hmem, n, hn, hlong⟩ := exists_hasInt_of_hasLongIntItems h
    exact ⟨n, .tuple hmem hn, hlong⟩
  | set items =>
    rw [hasLongInt] at h
    obtain ⟨v, hmem, n, hn, hlong⟩ := exists_hasInt_of_hasLongIntItems h
    exact ⟨n, .set hmem hn, hlong⟩
  | mapping entries =>
    rw [hasLongInt] at h
    obtain ⟨e, hmem, n, hn | hn, hlong⟩ := exists_hasInt_of_hasLongIntEntries h
    · exact ⟨n, .key hmem hn, hlong⟩
    · exact ⟨n, .entry hmem hn, hlong⟩
  | record fields =>
    rw [hasLongInt] at h
    obtain ⟨f, hmem, n, hn, hlong⟩ := exists_hasInt_of_hasLongIntFields h
    exact ⟨n, .field hmem hn, hlong⟩
  | loop label body =>
    rw [hasLongInt] at h
    obtain ⟨n, hn, hlong⟩ := exists_hasInt_of_hasLongInt h
    exact ⟨n, .loop hn, hlong⟩
  | _ => cases h

theorem exists_hasInt_of_hasLongIntItems {items : List Value} (h : hasLongIntItems items = true) :
    ∃ v ∈ items, ∃ n, v.HasInt n ∧ ¬ Whole.IsShort n := by
  cases items with
  | nil => cases h
  | cons v items =>
    rcases Bool.or_eq_true_iff.1 h with h | h
    · exact ⟨v, List.mem_cons_self, exists_hasInt_of_hasLongInt h⟩
    · obtain ⟨w, hmem, hw⟩ := exists_hasInt_of_hasLongIntItems h
      exact ⟨w, List.mem_cons_of_mem v hmem, hw⟩

theorem exists_hasInt_of_hasLongIntEntries {entries : List (Value × Value)}
    (h : hasLongIntEntries entries = true) :
    ∃ e ∈ entries, ∃ n, (e.1.HasInt n ∨ e.2.HasInt n) ∧ ¬ Whole.IsShort n := by
  cases entries with
  | nil => cases h
  | cons e entries =>
    obtain ⟨k, v⟩ := e
    rw [hasLongIntEntries, Bool.or_eq_true, Bool.or_eq_true] at h
    rcases h with (h | h) | h
    · obtain ⟨n, hn, hlong⟩ := exists_hasInt_of_hasLongInt h
      exact ⟨(k, v), List.mem_cons_self, n, .inl hn, hlong⟩
    · obtain ⟨n, hn, hlong⟩ := exists_hasInt_of_hasLongInt h
      exact ⟨(k, v), List.mem_cons_self, n, .inr hn, hlong⟩
    · obtain ⟨e, hmem, he⟩ := exists_hasInt_of_hasLongIntEntries h
      exact ⟨e, List.mem_cons_of_mem _ hmem, he⟩

theorem exists_hasInt_of_hasLongIntFields {fields : List (Text × Value)}
    (h : hasLongIntFields fields = true) :
    ∃ f ∈ fields, ∃ n, f.2.HasInt n ∧ ¬ Whole.IsShort n := by
  cases fields with
  | nil => cases h
  | cons f fields =>
    obtain ⟨name, v⟩ := f
    rcases Bool.or_eq_true_iff.1 h with h | h
    · exact ⟨(name, v), List.mem_cons_self, exists_hasInt_of_hasLongInt h⟩
    · obtain ⟨f, hmem, hf⟩ := exists_hasInt_of_hasLongIntFields h
      exact ⟨f, List.mem_cons_of_mem _ hmem, hf⟩

end

/-- A value whose whole numbers are short has a text. -/
theorem exists_render? {v : Value} (h : ∀ n, v.HasInt n → Whole.IsShort n) :
    ∃ s, v.render? = some s := by
  unfold render?
  split
  · exact ⟨[], rfl⟩
  · split
    · next hlong =>
      obtain ⟨n, hn, hnot⟩ := exists_hasInt_of_hasLongInt hlong
      exact absurd (h n hn) hnot
    · exact ⟨_, rfl⟩

/-! ## Looking up -/

/-- Whether a value has no whole numbers but those of another one and small ones. -/
def Within (w v : Value) : Prop := ∀ n, w.HasInt n → v.HasInt n ∨ n.natAbs < 10 ^ 9

variable {u v w : Value} {n : Int} {name : Text}

theorem Within.refl (v : Value) : v.Within v := fun _ => .inl

theorem Within.trans (huv : u.Within v) (hvw : v.Within w) : u.Within w := by
  intro n hn
  rcases huv n hn with hv | hsmall
  · exact hvw n hv
  · exact .inr hsmall

/-! ### Values without whole numbers of their own -/

theorem within_int (hn : n.natAbs < 10 ^ 9) : (int n).Within v := by
  intro _ h
  cases h
  exact .inr hn

theorem within_null : null.Within v := nofun

theorem within_double (d : Double) : (double d).Within v := nofun

theorem within_text (s : Text) : (text s).Within v := nofun

theorem within_zone (z : Zone) : (zone z).Within v := nofun

theorem within_kind (k : Kind) : (kind k).Within v := nofun

theorem within_unbound (f : Unbound) (k : Kind) : (unbound f k name).Within v := nofun

theorem within_kinds (ks : List Kind) : (tuple (ks.map kind)).Within v := by
  intro n h
  cases h with
  | tuple hmem h =>
    obtain ⟨k, -, rfl⟩ := List.mem_map.1 hmem
    cases h

theorem within_moment {m : Moment} (hm : ∀ n ∈ m.numbers, n.natAbs < 10 ^ 9) :
    (moment m).Within v := by
  intro n h
  cases h with
  | moment hmem => exact .inr (hm n hmem)

theorem within_duration {d : Duration} (hd : ∀ n ∈ d.numbers, n.natAbs < 10 ^ 9) :
    (duration d).Within v := by
  intro n h
  cases h with
  | duration hmem => exact .inr (hd n hmem)

theorem within_method : (method v name).Within v := by
  intro n h
  cases h with
  | method h => exact .inl h

theorem within_slot : (slot v name).Within v := by
  intro n h
  cases h with
  | slot h => exact .inl h

theorem within_method_kind (k : Kind) : (method (kind k) name).Within v :=
  within_method.trans (within_kind k)

/-! ### Collections that hold themselves -/

mutual

theorem hasInt_of_refill {label : Nat} {v w : Value} {n : Int} (h : (refill label v w).HasInt n) :
    w.HasInt n ∨ v.HasInt n := by
  -- only where the label stands again is `v` put in
  cases w with
  | again l =>
    rw [refill] at h
    split at h
    · exact .inr h
    · exact .inl h
  | loop l body =>
    rw [refill] at h
    split at h
    · exact .inl h
    · cases h with
      | loop h => exact (hasInt_of_refill h).imp .loop id
  | list items =>
    rw [refill] at h
    cases h with
    | list hmem h =>
      refine (hasInt_of_refillItems hmem h).imp (fun ⟨x, hx, hn⟩ => .list hx hn) id
  | tuple items =>
    rw [refill] at h
    cases h with
    | tuple hmem h =>
      refine (hasInt_of_refillItems hmem h).imp (fun ⟨x, hx, hn⟩ => .tuple hx hn) id
  | mapping entries =>
    rw [refill] at h
    cases h with
    | key hmem h =>
      obtain ⟨x, hx, -⟩ := hasInt_of_refillEntries (n := n) hmem
      exact .inl (.key hx h)
    | entry hmem h =>
      obtain ⟨x, hx, himp⟩ := hasInt_of_refillEntries hmem
      exact (himp h).imp (.entry hx) id
  | _ => exact .inl h

theorem hasInt_of_refillItems {label : Nat} {v x : Value} {items : List Value} {n : Int}
    (hmem : x ∈ refillItems label v items) (h : x.HasInt n) :
    (∃ y ∈ items, y.HasInt n) ∨ v.HasInt n := by
  cases items with
  | nil => cases hmem
  | cons y items =>
    rw [refillItems] at hmem
    rcases List.mem_cons.1 hmem with rfl | hmem
    · exact (hasInt_of_refill h).imp (fun hy => ⟨y, List.mem_cons_self, hy⟩) id
    · exact (hasInt_of_refillItems hmem h).imp
        (fun ⟨z, hz, hn⟩ => ⟨z, List.mem_cons_of_mem y hz, hn⟩) id

theorem hasInt_of_refillEntries {label : Nat} {v k x : Value} {entries : List (Value × Value)}
    {n : Int} (hmem : (k, x) ∈ refillEntries label v entries) :
    ∃ y, (k, y) ∈ entries ∧ (x.HasInt n → y.HasInt n ∨ v.HasInt n) := by
  cases entries with
  | nil => cases hmem
  | cons e entries =>
    obtain ⟨l, y⟩ := e
    rw [refillEntries] at hmem
    rcases List.mem_cons.1 hmem with heq | hmem
    · cases heq
      exact ⟨y, List.mem_cons_self, hasInt_of_refill⟩
    · obtain ⟨z, hz, himp⟩ := hasInt_of_refillEntries hmem
      exact ⟨z, List.mem_cons_of_mem _ hz, himp⟩

end

theorem within_unfold (v : Value) : v.unfold.Within v := by
  intro n h
  unfold unfold at h
  split at h
  · exact .inl ((hasInt_of_refill h).elim .loop id)
  · exact .inl h

/-! ### Attributes -/

/-- Setting an entry brings its key and its value into a mapping, and nothing else. -/
theorem mem_setEntry {key value k x : Value} {es : List (Value × Value)}
    (hmem : (k, x) ∈ setEntry key value es) :
    (k = key ∨ ∃ y, (k, y) ∈ es) ∧ (x = value ∨ ∃ l, (l, x) ∈ es) := by
  induction es with
  | nil => simpa [setEntry] using hmem
  | cons e es ih =>
    rw [setEntry] at hmem
    split at hmem
    · rcases List.mem_cons.1 hmem with heq | hmem
      · cases heq
        exact ⟨.inr ⟨e.2, List.mem_cons_self⟩, .inl rfl⟩
      · exact ⟨.inr ⟨x, List.mem_cons_of_mem e hmem⟩, .inr ⟨k, List.mem_cons_of_mem e hmem⟩⟩
    · rcases List.mem_cons.1 hmem with heq | hmem
      · exact ⟨.inr ⟨x, heq ▸ List.mem_cons_self⟩, .inr ⟨k, heq ▸ List.mem_cons_self⟩⟩
      · obtain ⟨hk, hx⟩ := ih hmem
        exact ⟨hk.imp id fun ⟨y, hy⟩ => ⟨y, List.mem_cons_of_mem e hy⟩,
          hx.imp id fun ⟨l, hl⟩ => ⟨l, List.mem_cons_of_mem e hl⟩⟩

theorem hasInt_of_setEntry {es : List (Value × Value)} {key : Text}
    (h : (mapping (setEntry (text key) v es)).HasInt n) : (mapping es).HasInt n ∨ v.HasInt n := by
  cases h with
  | key hk h =>
    rcases (mem_setEntry hk).1 with rfl | ⟨y, hy⟩
    · cases h
    · exact .inl (.key hy h)
  | entry hx h =>
    rcases (mem_setEntry hx).2 with rfl | ⟨l, hl⟩
    · exact .inr h
    · exact .inl (.entry hl h)

theorem hasInt_of_foldl_setEntry {fields : List (Text × Value)} {es : List (Value × Value)}
    (h : (mapping (fields.foldl (fun es f => setEntry (text f.1) f.2 es) es)).HasInt n) :
    (mapping es).HasInt n ∨ ∃ f ∈ fields, f.2.HasInt n := by
  induction fields generalizing es with
  | nil => exact .inl h
  | cons f fields ih =>
    rcases ih h with h | ⟨g, hmem, hg⟩
    · exact (hasInt_of_setEntry h).imp id fun hf => ⟨f, List.mem_cons_self, hf⟩
    · exact .inr ⟨g, List.mem_cons_of_mem f hmem, hg⟩

theorem within_ofFields {fields : List (Text × Value)} :
    (ofFields fields).Within (record fields) := by
  intro n h
  rcases hasInt_of_foldl_setEntry h with h | ⟨f, hmem, hf⟩
  · cases h with
    | key hmem | entry hmem => cases hmem
  · exact .inl (.field hmem hf)

theorem within_of_numberPart? {s : String} (h : v.numberPart? s = some w) : w.Within v := by
  unfold numberPart? at h
  split at h <;> cases h
  · exact .refl _
  · exact .refl _
  · exact within_int (by split <;> decide)
  · exact within_int (by split <;> decide)
  · exact within_int (by decide)
  · exact within_int (by decide)
  · exact within_int (by decide)
  · exact within_int (by decide)
  · exact within_double _
  · exact within_double _

theorem within_moment_of_mem {m : Moment} (hmem : n ∈ m.numbers) : (int n).Within (moment m) := by
  intro n h
  cases h
  exact .inl (.moment hmem)

theorem within_of_momentPart? {m : Moment} {s : String} (h : momentPart? m s = some w) :
    w.Within (moment m) := by
  unfold momentPart? at h
  split at h
  case h_10 => cases h
  case h_8 =>
    obtain ⟨t, ht, rfl⟩ := Option.map_eq_some_iff.1 h
    exact within_int (by decide)
  case h_9 =>
    obtain ⟨t, ht, rfl⟩ := Option.map_eq_some_iff.1 h
    cases m.zone with
    | none => exact within_null
    | some z => exact within_zone _
  case h_1 | h_2 | h_3 =>
    cases h
    exact within_moment_of_mem (by simp [Moment.numbers])
  all_goals
    obtain ⟨t, ht, rfl⟩ := Option.map_eq_some_iff.1 h
    exact within_moment_of_mem (by simp [Moment.numbers, ht])

theorem within_of_kindPart? {k : Kind} {s : String} (h : kindPart? k s = some w) : w.Within v := by
  unfold kindPart? at h
  split at h <;> cases h
  · exact within_text _
  · exact within_text _
  · exact within_text _
  · exact within_kinds _
  · exact within_kinds _
  · cases k.ancestry[1]? with
    | none => exact within_null
    | some k => exact within_kind k

theorem within_duration_of_mem {d : Duration} (hmem : n ∈ d.numbers) :
    (int n).Within (duration d) := by
  intro n h
  cases h
  exact .inl (.duration hmem)

theorem within_owner_of_method : v.Within (method v name) := fun _ h => .inl (.method h)

theorem within_owner_of_slot : v.Within (slot v name) := fun _ h => .inl (.slot h)

theorem within_of_operationPart? {s : String} (h : v.operationPart? s = some w) : w.Within v := by
  unfold operationPart? at h
  split at h <;> cases h
  · exact within_text _
  · exact within_text _
  · exact within_text _
  · exact within_text _
  · exact within_text _
  · exact within_text _
  · split
    · exact within_null
    · exact within_owner_of_method
  · exact within_owner_of_slot
  · exact within_null
  · exact within_kind _
  · exact within_kind _

theorem within_of_part? {s : String} (h : v.part? s = some w) : w.Within v := by
  unfold part? at h
  split at h
  · exact within_of_numberPart? h
  · exact within_of_numberPart? h
  · exact within_of_numberPart? h
  · exact within_of_momentPart? h
  · split at h
    · cases h
      exact within_duration_of_mem (by simp [Duration.numbers])
    · split at h
      · cases h
        exact within_duration_of_mem (by simp [Duration.numbers])
      · split at h
        · cases h
          exact within_duration_of_mem (by simp [Duration.numbers])
        · cases h
  · split at h
    · cases h
      exact within_ofFields
    · cases h
  · exact within_of_kindPart? h
  · exact within_of_operationPart? h

theorem within_of_constant? {k : Kind} {s : String} (h : k.constant? s = some w) : w.Within v := by
  unfold Kind.constant? at h
  split at h <;> cases h
  · exact within_moment (by decide)
  · exact within_moment (by decide)
  · exact within_duration (by decide)
  · exact within_moment (by decide)
  · exact within_moment (by decide)
  · exact within_duration (by decide)
  · exact within_duration (by decide)
  · exact within_duration (by decide)
  · exact within_duration (by decide)
  · exact within_zone _
  · exact within_zone _
  · exact within_zone _

theorem within_of_ofFeature {k : Kind} {f : Feature} (h : v.ofFeature name k f = some w) :
    w.Within v := by
  cases f with
  | slot =>
    cases h
    exact within_slot
  | method =>
    cases h
    exact within_method
  | shared | fixed | loose =>
    cases h
    exact within_method_kind _
  | part | field => exact within_of_part? h
  | constant => exact within_of_constant? h
  | absent =>
    cases h
    exact within_null

theorem within_of_ofOwnFeature {k bringer : Kind} {f : Feature}
    (h : ofOwnFeature k name bringer f = some w) : w.Within v := by
  cases f with
  | slot | method | part | field =>
    cases h
    exact within_unbound _ _
  | shared | fixed | loose =>
    cases h
    exact within_method_kind _
  | constant => exact within_of_constant? h
  | absent =>
    cases h
    exact within_null

theorem within_of_common? (h : v.common? name = some w) : w.Within v := by
  unfold common? at h
  split at h
  · cases h
    split
    · exact within_null
    · exact within_text _
  · obtain ⟨⟨bringer, f⟩, -, h⟩ := Option.bind_eq_some_iff.1 h
    exact within_of_ofFeature h

theorem within_of_attribute? (h : v.attribute? name = some w) : w.Within v := by
  unfold attribute? at h
  split at h
  · cases h
    exact within_kind _
  · split at h
    · next fields =>
      simp only [Option.orElse_eq_or, Option.or_eq_some_iff] at h
      rcases h with (h | ⟨-, h⟩) | ⟨-, h⟩
      · exact within_of_part? h
      · obtain ⟨l₁, l₂, rfl, -⟩ := List.lookup_eq_some_iff.1 h
        have hmem : (name, w) ∈ l₁ ++ (name, w) :: l₂ := by simp
        exact fun n hn => .inl (.field hmem hn)
      · exact within_of_common? h
    · next k =>
      simp only [Option.orElse_eq_or, Option.or_eq_some_iff] at h
      rcases h with (h | ⟨-, h⟩) | ⟨-, h⟩
      · exact within_of_kindPart? h
      · obtain ⟨⟨bringer, f⟩, -, h⟩ := Option.bind_eq_some_iff.1 h
        exact within_of_ofOwnFeature h
      · exact within_of_common? h
    · exact within_of_common? h

/-! ### Paths -/

theorem mem_of_itemAt? {α : Type} {items : List α} {i : Int} {x : α}
    (h : itemAt? items i = some x) : x ∈ items := by
  unfold itemAt? at h
  split at h
  · exact List.mem_of_getElem? h
  · split at h
    · exact List.mem_of_getElem? h
    · cases h

theorem exists_mem_of_get? {key : Value} {entries : List (Value × Value)}
    (h : get? key entries = some w) : ∃ k, (k, w) ∈ entries := by
  obtain ⟨⟨k, x⟩, hfind, rfl⟩ := Option.map_eq_some_iff.1 h
  exact ⟨k, List.mem_of_find?_eq_some hfind⟩

/-- One step leads to no other whole numbers. -/
theorem within_of_step? {key : Key} (h : v.step? key = some w) : w.Within v := by
  refine .trans ?_ (within_unfold v)
  unfold step? at h
  split at h
  · next entries _ heq =>
    obtain ⟨k, hmem⟩ := exists_mem_of_get? h
    exact heq ▸ fun n hn => .inl (.entry hmem hn)
  · next heq => exact heq ▸ fun n hn => .inl (.list (mem_of_itemAt? h) hn)
  · next heq => exact heq ▸ fun n hn => .inl (.tuple (mem_of_itemAt? h) hn)
  · obtain ⟨b, -, rfl⟩ := Option.map_eq_some_iff.1 h
    have := b.toNat_lt
    exact within_int (by omega)
  · exact within_of_attribute? h
  · cases h

/-- A path leads to no other whole numbers. -/
theorem within_of_lookup? {keys : List Key} (h : v.lookup? keys = some w) : w.Within v := by
  induction keys generalizing v with
  | nil =>
    cases h
    exact .refl _
  | cons key keys ih =>
    obtain ⟨u, hstep, hrest⟩ := Option.bind_eq_some_iff.1 h
    exact (ih hrest).trans (within_of_step? hstep)

/-- Where all whole numbers in the data are short, what a path leads to has a text. -/
theorem exists_render?_of_lookup? {keys : List Key} (hshort : ∀ n, v.HasInt n → Whole.IsShort n)
    (h : v.lookup? keys = some w) : ∃ s, w.render? = some s := by
  refine exists_render? fun n hn => ?_
  rcases within_of_lookup? h n hn with hv | hsmall
  · exact hshort n hv
  · exact Whole.isShort_of_lt hsmall

end Value
end BuildBlocks
