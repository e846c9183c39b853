import BuildBlocks.Disk.Walk

/-!
# Walks that end somewhere

At each name a walk along a path goes on in one of a few ways, and `Disk.Walks` says once which they
are. What is true of all paths that lead somewhere is shown by induction on it, without a look at the
walks that fail.

## The architecture

* **`walk_eq_ok_iff`**: the walks that end are those of the relation.
* **`Walks.eq_found`**: a walk ends with what stands at the place to which it leads.
* **`Walks.exists_of_append`**: the names before the last ones lead to a folder.
* **`Walks.to_followed`** and **`Walks.to_unfollowed`**: whether the last name is followed makes a
  difference only if it is a link.
-/

namespace BuildBlocks
namespace Disk

/-- Where a path leads. -/
def Located.place : Located → Place
  | .present place _ | .absent place => place

/-- What a path that leads to a place finds there. -/
def found (disk : Disk) (place : Place) : Located :=
  match disk.lookup? place with
  | some e => .present place e
  | none => .absent place

/-- A name is looked for in the folder at a place. -/
structure LooksFor (disk : Disk) (place : Place) (name : Text) : Prop where
  folder : disk.lookup? place = some .folder
  dot : name ≠ ['.']
  up : name ≠ ['.', '.']
  short : ¬ maxNameBytes < (Utf8.encode name).length

/-- The walks that end somewhere. The last name ends a walk unless it is a link that is followed. -/
inductive Walks (disk : Disk) (follow : Bool) : Nat → Place → List Text → Located → Prop
  | arrived {links : Nat} {place : Place} {e : Entry} (here : disk.lookup? place = some e) :
    Walks disk follow links place [] (disk.found place)
  | dot {links : Nat} {place : Place} {rest : List Text} {loc : Located}
    (here : disk.lookup? place = some .folder) (onward : Walks disk follow links place rest loc) :
    Walks disk follow links place (['.'] :: rest) loc
  | up {links : Nat} {place : Place} {rest : List Text} {loc : Located}
    (here : disk.lookup? place = some .folder)
    (onward : Walks disk follow links place.dropLast rest loc) :
    Walks disk follow links place (['.', '.'] :: rest) loc
  | last {links : Nat} {place : Place} {name : Text} (here : LooksFor disk place name)
    (unfollowed : follow = true → ∀ target, disk.lookup? (place ++ [name]) ≠ some (.link target)) :
    Walks disk follow links place [name] (disk.found (place ++ [name]))
  | link {links : Nat} {place : Place} {name target : Text} {rest : List Text} {loc : Located}
    (here : LooksFor disk place name)
    (next : disk.lookup? (place ++ [name]) = some (.link target))
    (followed : rest = [] → follow = true)
    (onward : Walks disk follow links (if Path.rootOf target = [] then place else [])
      (Path.targetParts target ++ rest) loc) :
    Walks disk follow (links + 1) place (name :: rest) loc
  | folder {links : Nat} {place : Place} {name : Text} {rest : List Text} {loc : Located}
    (here : LooksFor disk place name) (next : disk.lookup? (place ++ [name]) = some .folder)
    (more : rest ≠ []) (onward : Walks disk follow links (place ++ [name]) rest loc) :
    Walks disk follow links place (name :: rest) loc

section

variable {disk : Disk} {follow : Bool} {links : Nat} {place : Place} {name : Text}
  {names rest : List Text} {loc : Located} {e : Entry}

/-! ## What is found -/

theorem found_of_lookup? (h : disk.lookup? place = some e) : disk.found place = .present place e := by
  rw [found, h]

theorem found_of_absent (h : disk.lookup? place = none) : disk.found place = .absent place := by
  rw [found, h]

@[simp] theorem place_found (disk : Disk) (place : Place) : (disk.found place).place = place := by
  unfold found
  split <;> rfl

/-- **A walk ends with what stands** at the place to which it leads. -/
theorem Walks.eq_found (h : Walks disk follow links place names loc) :
    loc = disk.found loc.place := by
  induction h with
  | arrived | last => rw [place_found]
  | dot _ _ ih | up _ _ ih | link _ _ _ _ ih | folder _ _ _ _ ih => exact ih

theorem Walks.arrived_at (here : disk.lookup? place = some e) :
    Walks disk follow links place [] (.present place e) :=
  found_of_lookup? here ▸ .arrived here

theorem Walks.last_at (here : LooksFor disk place name)
    (next : disk.lookup? (place ++ [name]) = some e)
    (unfollowed : follow = true → ∀ target, e ≠ .link target) :
    Walks disk follow links place [name] (.present (place ++ [name]) e) :=
  found_of_lookup? next ▸ .last here fun hfollow target hlink =>
    unfollowed hfollow target (Option.some.inj (next.symm.trans hlink))

/-! ## The walks of the relation -/

theorem walk_nil (h : disk.lookup? place = some e) :
    disk.walk follow links place [] = .ok (.present place e) := by
  rw [walk, h]

theorem walk_dot (h : disk.lookup? place = some .folder) :
    disk.walk follow links place (['.'] :: rest) = disk.walk follow links place rest := by
  rw [walk, if_neg (Classical.not_not.2 h), if_pos rfl]

theorem walk_up (h : disk.lookup? place = some .folder) :
    disk.walk follow links place (['.', '.'] :: rest) =
      disk.walk follow links place.dropLast rest := by
  rw [walk, if_neg (Classical.not_not.2 h), if_neg (by decide), if_pos rfl]

/-- What becomes of a walk at a name that is looked for. -/
theorem LooksFor.walk_cons (h : LooksFor disk place name) :
    disk.walk follow links place (name :: rest) =
      match disk.lookup? (place ++ [name]) with
      | none => if rest.isEmpty then .ok (.absent (place ++ [name])) else .error .notFound
      | some (.link target) =>
        if rest.isEmpty && !follow then .ok (.present (place ++ [name]) (.link target))
        else match links with
          | 0 => .error .tooManyLinks
          | links + 1 =>
            disk.walk follow links (if Path.rootOf target = [] then place else [])
              (Path.targetParts target ++ rest)
      | some e =>
        if rest.isEmpty then .ok (.present (place ++ [name]) e)
        else if e = .folder then disk.walk follow links (place ++ [name]) rest
        else .error .notFolder := by
  rw [walk, if_neg (Classical.not_not.2 h.folder), if_neg h.dot, if_neg h.up]
  exact if_neg h.short

/-- The last name leads to what stands there, if that is not a link that is followed. -/
theorem LooksFor.walk_last (h : LooksFor disk place name)
    (hlink : follow = true → ∀ target, disk.lookup? (place ++ [name]) ≠ some (.link target)) :
    disk.walk follow links place [name] = .ok (disk.found (place ++ [name])) := by
  rw [h.walk_cons, found]
  cases hlookup : disk.lookup? (place ++ [name]) with
  | none => rfl
  | some e =>
    cases e with
    | link target =>
      cases follow with
      | true => exact absurd hlookup (hlink rfl target)
      | false => rfl
    | folder | file | source => rfl

/-- The walk goes on along a link. -/
theorem LooksFor.walk_link {target : Text} (h : LooksFor disk place name)
    (hlink : disk.lookup? (place ++ [name]) = some (.link target)) (hrest : rest = [] → follow = true) :
    disk.walk follow (links + 1) place (name :: rest) =
      disk.walk follow links (if Path.rootOf target = [] then place else [])
        (Path.targetParts target ++ rest) := by
  rw [h.walk_cons, hlink]
  refine if_neg ?_
  rw [Bool.and_eq_true, List.isEmpty_iff, Bool.not_eq_true']
  rintro ⟨hnil, hfollow⟩
  rw [hrest hnil] at hfollow
  cases hfollow

/-- The walk goes on in a folder. -/
theorem LooksFor.walk_folder (h : LooksFor disk place name)
    (hfolder : disk.lookup? (place ++ [name]) = some .folder) (hrest : rest ≠ []) :
    disk.walk follow links place (name :: rest) = disk.walk follow links (place ++ [name]) rest := by
  rw [h.walk_cons, hfolder]
  simp only [List.isEmpty_iff, if_neg hrest, if_true]

theorem walk_of_walks (h : Walks disk follow links place names loc) :
    disk.walk follow links place names = .ok loc := by
  induction h with
  | arrived here => rw [walk_nil here, found_of_lookup? here]
  | dot here _ ih => rw [walk_dot here, ih]
  | up here _ ih => rw [walk_up here, ih]
  | last here unfollowed => exact here.walk_last unfollowed
  | link here next followed _ ih => rw [here.walk_link next followed, ih]
  | folder here next more _ ih => rw [here.walk_folder next more, ih]

theorem walks_of_walk (h : disk.walk follow links place names = .ok loc) :
    Walks disk follow links place names loc := by
  fun_induction walk disk follow links place names with
  | case2 | case3 | case6 | case8 | case10 | case14 => cases h
  | case1 _ _ _ here =>
    cases h
    exact .arrived_at here
  | case4 _ _ _ here ih => exact .dot (Classical.not_not.1 here) (ih h)
  | case5 _ _ _ here _ ih => exact .up (Classical.not_not.1 here) (ih h)
  -- the last name: nothing stands there, or a link that is not followed, or something else
  | case7 _ _ _ _ here hdot hup hshort next hlookup hrest =>
    cases h
    obtain rfl := List.isEmpty_iff.1 hrest
    exact found_of_absent hlookup ▸
      .last ⟨Classical.not_not.1 here, hdot, hup, hshort⟩ (by simp [next, hlookup])
  | case9 _ _ _ _ here hdot hup hshort next target hlookup hrest =>
    cases h
    obtain ⟨rfl, hfollow⟩ : _ = [] ∧ follow = false := by simpa using hrest
    exact .last_at ⟨Classical.not_not.1 here, hdot, hup, hshort⟩ hlookup (by simp [hfollow])
  | case12 _ _ _ _ here hdot hup hshort next e hnot hlookup hrest =>
    cases h
    obtain rfl := List.isEmpty_iff.1 hrest
    exact .last_at ⟨Classical.not_not.1 here, hdot, hup, hshort⟩ hlookup fun _ => hnot
  -- something stands there, and the walk goes on
  | case11 _ _ _ here hdot hup hshort next target hlookup hrest _ start ih =>
    refine .link ⟨Classical.not_not.1 here, hdot, hup, hshort⟩ hlookup (fun hnil => ?_) (ih h)
    simpa [hnil] using hrest
  | case13 _ _ _ _ here hdot hup hshort next hrest _ hlookup ih =>
    exact .folder ⟨Classical.not_not.1 here, hdot, hup, hshort⟩ hlookup (by simpa using hrest) (ih h)

/-- **The walks that end** are those of the relation. -/
theorem walk_eq_ok_iff : disk.walk follow links place names = .ok loc ↔
    Walks disk follow links place names loc :=
  ⟨walks_of_walk, walk_of_walks⟩

/-! ## Names at the end of a way -/

/-- **The names before the last ones lead to a folder**, also if links are followed. -/
theorem Walks.exists_of_append {xs ys : List Text} (hys : ys ≠ [])
    (h : Walks disk follow links place (xs ++ ys) loc) :
    ∃ q, Walks disk true links place xs (.present q .folder) := by
  have hnil {links : Nat} {place : Place} (here : disk.lookup? place = some .folder) :
      ∃ q, Walks disk true links place [] (.present q .folder) :=
    ⟨place, .arrived_at here⟩
  generalize hnames : xs ++ ys = names at h
  -- on the walk over both parts: it stands at a folder wherever `xs` ends
  induction h generalizing xs with
  | arrived => exact absurd (List.append_eq_nil_iff.1 hnames).2 hys
  | dot here _ ih =>
    rcases xs with - | ⟨x, xs⟩
    · exact hnil here
    · obtain ⟨rfl, hrest⟩ := List.cons.inj hnames
      exact (ih hrest).imp fun _ => .dot here
  | up here _ ih =>
    rcases xs with - | ⟨x, xs⟩
    · exact hnil here
    · obtain ⟨rfl, hrest⟩ := List.cons.inj hnames
      exact (ih hrest).imp fun _ => .up here
  | last here =>
    rcases xs with - | ⟨x, xs⟩
    · exact hnil here.folder
    · obtain ⟨rfl, hrest⟩ := List.cons.inj hnames
      exact absurd (List.append_eq_nil_iff.1 hrest).2 hys
  | link here next _ _ ih =>
    rcases xs with - | ⟨x, xs⟩
    · exact hnil here.folder
    · obtain ⟨rfl, rfl⟩ := List.cons.inj hnames
      exact (ih (List.append_assoc _ _ _)).imp fun _ => .link here next fun _ => rfl
  | folder here next _ _ ih =>
    rcases xs with - | ⟨x, - | ⟨y, xs⟩⟩
    · exact hnil here.folder
    · obtain ⟨rfl, -⟩ := List.cons.inj hnames
      exact ⟨_, .last_at here next fun _ => nofun⟩
    · obtain ⟨rfl, hrest⟩ := List.cons.inj hnames
      exact (ih hrest).imp fun _ => .folder here next (List.cons_ne_nil _ _)

/-! ## The last name -/

/-- If the last name is no link, it may as well be followed. -/
theorem Walks.to_followed (h : Walks disk false links place names loc)
    (hloc : ∀ q target, loc ≠ .present q (.link target)) :
    Walks disk true links place names loc := by
  induction h with
  | arrived here => exact .arrived here
  | dot here _ ih => exact .dot here (ih hloc)
  | up here _ ih => exact .up here (ih hloc)
  | last here => exact .last here fun _ target hlink => hloc _ target (found_of_lookup? hlink)
  | link here next _ _ ih => exact .link here next (fun _ => rfl) (ih hloc)
  | folder here next more _ ih => exact .folder here next more (ih hloc)

/-- A walk whose last name is followed leads as far without that, or its last name is a link. -/
theorem Walks.to_unfollowed (h : Walks disk true links place names loc) :
    (∃ q target, Walks disk false links place names (.present q (.link target))) ∨
      Walks disk false links place names loc := by
  induction h with
  | arrived here => exact .inr (.arrived here)
  | dot here _ ih => exact ih.imp (fun ⟨q, target, h⟩ => ⟨q, target, .dot here h⟩) (.dot here)
  | up here _ ih => exact ih.imp (fun ⟨q, target, h⟩ => ⟨q, target, .up here h⟩) (.up here)
  | last here => exact .inr (.last here nofun)
  | @link _ _ _ _ rest _ here next _ _ ih =>
    by_cases hrest : rest = []
    · subst hrest
      exact .inl ⟨_, _, .last_at here next nofun⟩
    · exact ih.imp (fun ⟨q, target, h⟩ => ⟨q, target, .link here next (absurd · hrest) h⟩)
        (.link here next (absurd · hrest))
  | folder here next more _ ih =>
    exact ih.imp (fun ⟨q, target, h⟩ => ⟨q, target, .folder here next more h⟩) (.folder here next more)

end

/-! ## Paths -/

section

variable {disk : Disk} {follow : Bool} {p : Path} {loc : Located} {place : Place} {e : Entry}

theorem locateBy_eq_ok_iff : disk.locateBy follow p = .ok loc ↔
    ¬ maxPathBytes < (Utf8.encode p.toText).length ∧
      Walks disk follow maxLinks (disk.start p) p.parts loc := by
  rw [← walk_eq_ok_iff]
  unfold locateBy
  split
  · next hlong => exact ⟨nofun, fun h => absurd hlong h.1⟩
  · next hshort => exact ⟨fun h => ⟨hshort, h⟩, fun h => h.2⟩

/-- A path finds what stands at the place to which it leads. -/
theorem eq_found_of_locateBy (h : disk.locateBy follow p = .ok loc) : loc = disk.found loc.place :=
  (locateBy_eq_ok_iff.1 h).2.eq_found

theorem lookup?_of_locateBy_present (h : disk.locateBy follow p = .ok (.present place e)) :
    disk.lookup? place = some e := by
  have hfound := eq_found_of_locateBy h
  unfold found Located.place at hfound
  split at hfound
  · next hlookup =>
    cases hfound
    exact hlookup
  · cases hfound

theorem lookup?_of_locateBy_absent (h : disk.locateBy follow p = .ok (.absent place)) :
    disk.lookup? place = none := by
  have hfound := eq_found_of_locateBy h
  unfold found Located.place at hfound
  split at hfound
  · cases hfound
  · next hlookup => exact hlookup

theorem locate_of_locateLast (h : disk.locateLast p = .ok loc)
    (hloc : ∀ q target, loc ≠ .present q (.link target)) : disk.locate p = .ok loc := by
  obtain ⟨hshort, hwalks⟩ := locateBy_eq_ok_iff.1 h
  exact locateBy_eq_ok_iff.2 ⟨hshort, hwalks.to_followed hloc⟩

theorem locateLast_of_locate (h : disk.locate p = .ok loc) :
    (∃ q target, disk.locateLast p = .ok (.present q (.link target))) ∨
      disk.locateLast p = .ok loc := by
  obtain ⟨hshort, hwalks⟩ := locateBy_eq_ok_iff.1 h
  exact hwalks.to_unfollowed.imp
    (fun ⟨q, target, hlink⟩ => ⟨q, target, locateBy_eq_ok_iff.2 ⟨hshort, hlink⟩⟩)
    fun hwalks => locateBy_eq_ok_iff.2 ⟨hshort, hwalks⟩

/-- What leads somewhere leads through the folder above. -/
theorem locate_parent {model : Disk} {above : Located} (h : disk.locateBy follow p = .ok loc)
    (hne : p.parts ≠ []) (habove : model.locate p.parent = .ok above) :
    ∃ q, disk.locate p.parent = .ok (.present q .folder) := by
  -- the path of the folder is not too long, since it leads somewhere on a disk
  obtain ⟨hshort, -⟩ := locateBy_eq_ok_iff.1 habove
  obtain ⟨-, hwalks⟩ := locateBy_eq_ok_iff.1 h
  rw [← List.dropLast_concat_getLast hne] at hwalks
  obtain ⟨q, hq⟩ := hwalks.exists_of_append (List.cons_ne_nil _ _)
  exact ⟨q, locateBy_eq_ok_iff.2 ⟨hshort, hq⟩⟩

end

end Disk
end BuildBlocks
