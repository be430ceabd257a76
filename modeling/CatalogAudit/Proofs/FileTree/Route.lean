import CatalogAudit.Proofs.FileTree.WellFormed

/-!
# Routes through a file tree

A route goes along names from a folder to a location and follows links on the way. Looking a path up
succeeds exactly when there is a route of at most forty links along its names; the route is the only
one, and routes can be put together and taken apart where names are.

A way says step by step how names are followed when what they come to may be free, and when a link
in the last step may be left alone. Where all links are followed, a way that comes to an entry is a
route.
-/

namespace CatalogAudit

/-! ## Spots -/

/-- Where a spot is. -/
def Spot.location : Spot → Location
  | .present location _ => location
  | .absent location => location

/-- What stands at a spot. -/
def Spot.item? : Spot → Option Item
  | .present _ item => some item
  | .absent _ => none

namespace FileTree

/-! ## Routes -/

/-- A name that is looked up: it is neither of the dots, and not too long. -/
def IsLooked (name : Name) : Prop :=
  name ≠ [Path.dot] ∧ name ≠ [Path.dot, Path.dot] ∧ name.length ≤ nameLimit

/-- Where a link in the folder `current` begins to lead. -/
def linkStart (current : Location) (target : Path) : Location :=
  if target.isAbsolute then [] else current

/-- Going along names from a location, with `links` links left, comes to the location `goal` with
`left` links left. -/
inductive Route (tree : FileTree) :
    (links : Nat) → Location → List Name → (left : Nat) → (goal : Location) → Prop
  /-- No names lead nowhere else. -/
  | stay {links : Nat} {current : Location} : Route tree links current [] links current
  /-- A dot leads nowhere else. -/
  | dot {links left : Nat} {current goal : Location} {rest : List Name}
      (folder : tree.item? current = some .folder)
      (more : Route tree links current rest left goal) :
      Route tree links current ([Path.dot] :: rest) left goal
  /-- Two dots lead one level up. -/
  | up {links left : Nat} {current goal : Location} {rest : List Name}
      (folder : tree.item? current = some .folder)
      (more : Route tree links current.dropLast rest left goal) :
      Route tree links current ([Path.dot, Path.dot] :: rest) left goal
  /-- A name leads to the entry of that name, if that is no link. -/
  | down {links left : Nat} {current goal : Location} {name : Name} {rest : List Name} {item : Item}
      (folder : tree.item? current = some .folder) (looked : IsLooked name)
      (found : tree.item? (current ++ [name]) = some item) (noLink : ∀ target, item ≠ .link target)
      (more : Route tree links (current ++ [name]) rest left goal) :
      Route tree links current (name :: rest) left goal
  /-- A link puts other names in the place of its own. -/
  | link {links left : Nat} {current goal : Location} {name : Name} {rest : List Name}
      {target : Path} (folder : tree.item? current = some .folder) (looked : IsLooked name)
      (found : tree.item? (current ++ [name]) = some (.link target))
      (more : Route tree links (linkStart current target) (target.namesToFolder ++ rest) left
        goal) :
      Route tree (links + 1) current (name :: rest) left goal

variable {tree : FileTree}

namespace Route

variable {links left left' : Nat} {current middle goal goal' : Location} {names rest : List Name}

/-- A route uses links up and never gains one. -/
theorem left_le (route : Route tree links current names left goal) : left ≤ links := by
  induction route with
  | stay => exact le_refl _
  | dot _ _ ih => exact ih
  | up _ _ ih => exact ih
  | down _ _ _ _ _ ih => exact ih
  | link _ _ _ _ ih => exact Nat.le_succ_of_le ih

/-- Routes are put together. -/
theorem append (first : Route tree links current names left middle)
    (second : Route tree left middle rest left' goal) :
    Route tree links current (names ++ rest) left' goal := by
  induction first with
  | stay => exact second
  | dot folder _ ih => exact .dot folder (ih second)
  | up folder _ ih => exact .up folder (ih second)
  | down folder looked found noLink _ ih => exact .down folder looked found noLink (ih second)
  | link folder looked found _ ih =>
    have more := ih second
    rw [List.append_assoc] at more
    exact .link folder looked found more

/-- Routes are taken apart. -/
theorem split (route : Route tree links current (names ++ rest) left goal) :
    ∃ between middle, Route tree links current names between middle ∧
      Route tree between middle rest left goal := by
  generalize whole : names ++ rest = all at route
  induction route generalizing names with
  | stay =>
    obtain ⟨rfl, rfl⟩ := List.append_eq_nil_iff.mp whole
    exact ⟨_, _, .stay, .stay⟩
  | dot folder more ih =>
    cases names with
    | nil =>
      rw [List.nil_append] at whole
      exact ⟨_, _, .stay, whole ▸ .dot folder more⟩
    | cons name names =>
      obtain ⟨rfl, rest⟩ := List.cons.inj whole
      obtain ⟨between, middle, first, second⟩ := ih rest
      exact ⟨between, middle, .dot folder first, second⟩
  | up folder more ih =>
    cases names with
    | nil =>
      rw [List.nil_append] at whole
      exact ⟨_, _, .stay, whole ▸ .up folder more⟩
    | cons name names =>
      obtain ⟨rfl, rest⟩ := List.cons.inj whole
      obtain ⟨between, middle, first, second⟩ := ih rest
      exact ⟨between, middle, .up folder first, second⟩
  | down folder looked found noLink more ih =>
    cases names with
    | nil =>
      rw [List.nil_append] at whole
      exact ⟨_, _, .stay, whole ▸ .down folder looked found noLink more⟩
    | cons name names =>
      obtain ⟨rfl, rest⟩ := List.cons.inj whole
      obtain ⟨between, middle, first, second⟩ := ih rest
      exact ⟨between, middle, .down folder looked found noLink first, second⟩
  | @link _ _ _ _ _ _ target folder looked found more ih =>
    cases names with
    | nil =>
      rw [List.nil_append] at whole
      exact ⟨_, _, .stay, whole ▸ .link folder looked found more⟩
    | cons name names =>
      obtain ⟨rfl, rest⟩ := List.cons.inj whole
      have rest : target.namesToFolder ++ names ++ _ = _ :=
        (List.append_assoc _ _ _).trans (congrArg _ rest)
      obtain ⟨between, middle, first, second⟩ := ih rest
      exact ⟨between, middle, .link folder looked found first, second⟩

/-- There is no other route along the same names. -/
theorem unique (route : Route tree links current names left goal)
    (other : Route tree links current names left' goal') : left = left' ∧ goal = goal' := by
  induction route with
  | stay =>
    cases other
    exact ⟨rfl, rfl⟩
  | dot _ _ ih =>
    cases other with
    | dot _ more => exact ih more
    | down _ looked => exact absurd rfl looked.1
    | link _ looked => exact absurd rfl looked.1
  | up _ _ ih =>
    cases other with
    | up _ more => exact ih more
    | down _ looked => exact absurd rfl looked.2.1
    | link _ looked => exact absurd rfl looked.2.1
  | down _ looked found noLink _ ih =>
    cases other with
    | dot => exact absurd rfl looked.1
    | up => exact absurd rfl looked.2.1
    | down _ _ _ _ more => exact ih more
    | link _ _ found' =>
      rw [found, Option.some_inj] at found'
      exact absurd found' (noLink _)
  | link _ looked found _ ih =>
    cases other with
    | dot => exact absurd rfl looked.1
    | up => exact absurd rfl looked.2.1
    | down _ _ found' noLink =>
      rw [found, Option.some_inj] at found'
      exact absurd found'.symm (noLink _)
    | link _ _ found' more =>
      rw [found, Option.some_inj, Item.link.injEq] at found'
      subst found'
      exact ih more

/-- With more links to begin with, as many more are left. -/
theorem more_links (route : Route tree links current names left goal) (extra : Nat) :
    Route tree (links + extra) current names (left + extra) goal := by
  induction route with
  | stay => exact .stay
  | dot folder _ ih => exact .dot folder ih
  | up folder _ ih => exact .up folder ih
  | down folder looked found noLink _ ih => exact .down folder looked found noLink ih
  | @link links _ _ _ _ _ _ folder looked found _ ih =>
    rw [Nat.add_right_comm]
    exact .link folder looked found ih

/-- A tree that has the same items, and perhaps more, has the same routes. -/
theorem mono {larger : FileTree}
    (keeps : ∀ location item, tree.item? location = some item → larger.item? location = some item)
    (route : Route tree links current names left goal) :
    Route larger links current names left goal := by
  induction route with
  | stay => exact .stay
  | dot folder _ ih => exact .dot (keeps _ _ folder) ih
  | up folder _ ih => exact .up (keeps _ _ folder) ih
  | down folder looked found noLink _ ih =>
    exact .down (keeps _ _ folder) looked (keeps _ _ found) noLink ih
  | link folder looked found _ ih => exact .link (keeps _ _ folder) looked (keeps _ _ found) ih

end Route

/-! ## Following names, one at a time -/

section Follow

variable {followLast : Bool} {links : Nat} {current goal : Location} {name : Name}
  {names rest : List Name} {item : Item} {onLink : Location → List Name → Except FileError Spot}

/-- Where a name leads that is looked up in a folder, by what has the name there. -/
def land (tree : FileTree) (followLast : Bool)
    (onLink : Location → List Name → Except FileError Spot) (current : Location) (name : Name)
    (rest : List Name) : Option Item → Except FileError Spot
  | none => if rest.isEmpty then .ok (.absent (current ++ [name])) else .error .missing
  | some (.link target) =>
    if rest.isEmpty && !followLast then .ok (.present (current ++ [name]) (.link target))
    else onLink (linkStart current target) (target.namesToFolder ++ rest)
  | some _ => tree.descend followLast onLink (current ++ [name]) rest

/-- From a folder, a name leads by what it is. -/
theorem descend_folder (folder : tree.item? current = some .folder) :
    tree.descend followLast onLink current (name :: rest) =
      if name = [Path.dot] then tree.descend followLast onLink current rest
      else if name = [Path.dot, Path.dot] then tree.descend followLast onLink current.dropLast rest
      else if nameLimit < name.length then .error .nameTooLong
      else tree.land followLast onLink current name rest (tree.item? (current ++ [name])) := by
  rw [descend, folder]
  dsimp only
  rcases tree.item? (current ++ [name]) with _ | _ | _ | _
  all_goals rfl

/-- From a folder, a name that is looked up leads where what has that name leads. -/
theorem descend_looked (folder : tree.item? current = some .folder) (looked : IsLooked name) :
    tree.descend followLast onLink current (name :: rest) =
      tree.land followLast onLink current name rest (tree.item? (current ++ [name])) := by
  rw [descend_folder folder, if_neg looked.1, if_neg looked.2.1, if_neg (Nat.not_lt.mpr looked.2.2)]

/-- Following names is going down with what a link does on the way. -/
theorem follow_eq_descend (tree : FileTree) (followLast : Bool) (links : Nat) :
    ∃ onLink, tree.follow followLast links = tree.descend followLast onLink := by
  cases links <;> exact ⟨_, rfl⟩

/-- Without a name left, what stands at the location is found. -/
theorem follow_nil : tree.follow followLast links current [] =
    match tree.item? current with
    | some item => .ok (.present current item)
    | none => .error .missing := by
  obtain ⟨onLink, same⟩ := tree.follow_eq_descend followLast links
  rw [same]
  rfl

/-- From where nothing stands no name leads on. -/
theorem follow_nowhere (absent : tree.item? current = none) :
    tree.follow followLast links current (name :: rest) = .error .missing := by
  obtain ⟨onLink, same⟩ := tree.follow_eq_descend followLast links
  rw [same, descend, absent]

/-- From what is no folder no name leads on. -/
theorem follow_notFolder (found : tree.item? current = some item) (noFolder : item ≠ .folder) :
    tree.follow followLast links current (name :: rest) = .error .notFolder := by
  obtain ⟨onLink, same⟩ := tree.follow_eq_descend followLast links
  rw [same, descend, found]
  cases item with
  | folder => exact absurd rfl noFolder
  | file => rfl
  | link => rfl

variable (folder : tree.item? current = some .folder)

include folder

/-- One dot stays. -/
theorem follow_dot : tree.follow followLast links current ([Path.dot] :: rest) =
    tree.follow followLast links current rest := by
  obtain ⟨onLink, same⟩ := tree.follow_eq_descend followLast links
  rw [same, descend_folder folder]
  exact if_pos rfl

/-- Two dots go up, and at the root they stay. -/
theorem follow_up : tree.follow followLast links current ([Path.dot, Path.dot] :: rest) =
    tree.follow followLast links current.dropLast rest := by
  obtain ⟨onLink, same⟩ := tree.follow_eq_descend followLast links
  rw [same, descend_folder folder]
  rfl

/-- A name that is too long leads nowhere. -/
theorem follow_long (noDot : name ≠ [Path.dot]) (noUp : name ≠ [Path.dot, Path.dot])
    (long : nameLimit < name.length) :
    tree.follow followLast links current (name :: rest) = .error .nameTooLong := by
  obtain ⟨onLink, same⟩ := tree.follow_eq_descend followLast links
  rw [same, descend_folder folder, if_neg noDot, if_neg noUp, if_pos long]

/-- A name that a folder does not have is a spot where something could be, if it is the last one. -/
theorem follow_absent (looked : IsLooked name) (absent : tree.item? (current ++ [name]) = none) :
    tree.follow followLast links current (name :: rest) =
      if rest.isEmpty then .ok (.absent (current ++ [name])) else .error .missing := by
  obtain ⟨onLink, same⟩ := tree.follow_eq_descend followLast links
  rw [same, descend_looked folder looked, absent]
  rfl

/-- A name of a file or a folder leads down to it. -/
theorem follow_down (looked : IsLooked name) (found : tree.item? (current ++ [name]) = some item)
    (noLink : ∀ target, item ≠ .link target) :
    tree.follow followLast links current (name :: rest) =
      tree.follow followLast links (current ++ [name]) rest := by
  obtain ⟨onLink, same⟩ := tree.follow_eq_descend followLast links
  rw [same, descend_looked folder looked, found]
  cases item with
  | link target => exact absurd rfl (noLink target)
  | folder => rfl
  | file => rfl

variable {target : Path} (looked : IsLooked name)
  (found : tree.item? (current ++ [name]) = some (.link target))

include looked found

/-- A link at the end is found itself, if it is not to be followed. -/
theorem follow_link_last :
    tree.follow false links current [name] = .ok (.present (current ++ [name]) (.link target)) := by
  obtain ⟨onLink, same⟩ := tree.follow_eq_descend false links
  rw [same, descend_looked folder looked, found]
  rfl

/-- A link that is followed puts other names in the place of its own. -/
theorem descend_link (followed : followLast = true ∨ rest ≠ []) :
    tree.descend followLast onLink current (name :: rest) =
      onLink (linkStart current target) (target.namesToFolder ++ rest) := by
  rw [descend_looked folder looked, found]
  refine if_neg fun ends => ?_
  rw [Bool.and_eq_true, List.isEmpty_iff, Bool.not_eq_true'] at ends
  rcases followed with follows | more
  · rw [ends.2] at follows
    cases follows
  · exact more ends.1

/-- No link is followed when none may be any more. -/
theorem follow_link_none (followed : followLast = true ∨ rest ≠ []) :
    tree.follow followLast 0 current (name :: rest) = .error .linkLoop :=
  descend_link folder looked found followed

/-- A link is followed from where it begins, with its own names before the rest. -/
theorem follow_link_some (followed : followLast = true ∨ rest ≠ []) :
    tree.follow followLast (links + 1) current (name :: rest) =
      tree.follow followLast links (linkStart current target) (target.namesToFolder ++ rest) :=
  descend_link folder looked found followed

/-- With no link left, a link is a loop. -/
theorem follow_link_zero :
    tree.follow true 0 current (name :: rest) = .error .linkLoop :=
  follow_link_none folder looked found (.inl rfl)

/-- With a link left, a link leads on from where it begins. -/
theorem follow_link_succ :
    tree.follow true (links + 1) current (name :: rest) =
      tree.follow true links (linkStart current target) (target.namesToFolder ++ rest) :=
  follow_link_some folder looked found (.inl rfl)

end Follow

/-- What there is to tell when a name is followed from a location. -/
inductive Lookup (tree : FileTree) (current : Location) (name : Name) : Prop
  /-- There is nothing at the location. -/
  | nowhere (absent : tree.item? current = none)
  /-- There is no folder at the location. -/
  | notFolder (item : Item) (found : tree.item? current = some item) (noFolder : item ≠ .folder)
  /-- The name is a dot. -/
  | dot (folder : tree.item? current = some .folder) (same : name = [Path.dot])
  /-- The name is two dots. -/
  | up (folder : tree.item? current = some .folder) (same : name = [Path.dot, Path.dot])
  /-- The name is too long. -/
  | long (folder : tree.item? current = some .folder) (noDot : name ≠ [Path.dot])
    (noUp : name ≠ [Path.dot, Path.dot]) (long : nameLimit < name.length)
  /-- No entry has the name. -/
  | absent (folder : tree.item? current = some .folder) (looked : IsLooked name)
    (absent : tree.item? (current ++ [name]) = none)
  /-- A link has the name. -/
  | link (folder : tree.item? current = some .folder) (looked : IsLooked name) (target : Path)
    (found : tree.item? (current ++ [name]) = some (.link target))
  /-- Another entry has the name. -/
  | down (folder : tree.item? current = some .folder) (looked : IsLooked name) (item : Item)
    (found : tree.item? (current ++ [name]) = some item) (noLink : ∀ target, item ≠ .link target)

/-- Every name from every location is one of these cases. -/
theorem lookup (tree : FileTree) (current : Location) (name : Name) :
    Lookup tree current name := by
  cases found : tree.item? current with
  | none => exact .nowhere found
  | some item =>
    by_cases folder : item = .folder
    · subst folder
      by_cases dot : name = [Path.dot]
      · exact .dot found dot
      · by_cases up : name = [Path.dot, Path.dot]
        · exact .up found up
        · by_cases long : nameLimit < name.length
          · exact .long found dot up long
          · have looked : IsLooked name := ⟨dot, up, Nat.not_lt.mp long⟩
            cases there : tree.item? (current ++ [name]) with
            | none => exact .absent found looked there
            | some item =>
              cases item with
              | file bytes => exact .down found looked _ there (fun _ => Item.noConfusion)
              | link target => exact .link found looked target there
              | folder => exact .down found looked _ there (fun _ => Item.noConfusion)
    · exact .notFolder item found folder

/-- Induction along names that are followed: one name less is left, or one link less, and then the
names are other ones. -/
theorem follow_induction {motive : Nat → Location → List Name → Prop}
    (nil : ∀ links current, motive links current [])
    (cons : ∀ links current name rest, (∀ next, motive links next rest) →
      (∀ before next names, links = before + 1 → motive before next names) →
        motive links current (name :: rest))
    (links : Nat) (current : Location) (names : List Name) : motive links current names := by
  induction links generalizing current names with
  | zero =>
    induction names generalizing current with
    | nil => exact nil 0 current
    | cons name rest ih => exact cons 0 current name rest ih nofun
  | succ links onLink =>
    induction names generalizing current with
    | nil => exact nil _ current
    | cons name rest ih =>
      refine cons _ current name rest ih fun before next names same => ?_
      rw [← Nat.succ.inj same]
      exact onLink next names

/-! ## Ways -/

/-- Going along names from a location, following no more than `links` links, comes to a spot. -/
inductive Finds (tree : FileTree) (followLast : Bool) :
    (links : Nat) → Location → List Name → Spot → Prop
  /-- No names lead nowhere else. -/
  | here {links : Nat} {current : Location} {item : Item} (found : tree.item? current = some item) :
      Finds tree followLast links current [] (.present current item)
  /-- A dot leads nowhere else. -/
  | dot {links : Nat} {current : Location} {rest : List Name} {spot : Spot}
      (folder : tree.item? current = some .folder)
      (more : Finds tree followLast links current rest spot) :
      Finds tree followLast links current ([Path.dot] :: rest) spot
  /-- Two dots lead one level up. -/
  | up {links : Nat} {current : Location} {rest : List Name} {spot : Spot}
      (folder : tree.item? current = some .folder)
      (more : Finds tree followLast links current.dropLast rest spot) :
      Finds tree followLast links current ([Path.dot, Path.dot] :: rest) spot
  /-- A name leads to the entry of that name, if that is no link. -/
  | down {links : Nat} {current : Location} {name : Name} {rest : List Name} {item : Item}
      {spot : Spot} (folder : tree.item? current = some .folder) (looked : IsLooked name)
      (found : tree.item? (current ++ [name]) = some item) (noLink : ∀ target, item ≠ .link target)
      (more : Finds tree followLast links (current ++ [name]) rest spot) :
      Finds tree followLast links current (name :: rest) spot
  /-- The last name may be free. -/
  | free {links : Nat} {current : Location} {name : Name}
      (folder : tree.item? current = some .folder) (looked : IsLooked name)
      (absent : tree.item? (current ++ [name]) = none) :
      Finds tree followLast links current [name] (.absent (current ++ [name]))
  /-- A link in the last step is found itself, if it is not to be followed. -/
  | last {links : Nat} {current : Location} {name : Name} {target : Path}
      (folder : tree.item? current = some .folder) (looked : IsLooked name)
      (found : tree.item? (current ++ [name]) = some (.link target)) (stays : followLast = false) :
      Finds tree followLast links current [name] (.present (current ++ [name]) (.link target))
  /-- Any other link puts other names in the place of its own. -/
  | link {links : Nat} {current : Location} {name : Name} {rest : List Name} {target : Path}
      {spot : Spot} (folder : tree.item? current = some .folder) (looked : IsLooked name)
      (found : tree.item? (current ++ [name]) = some (.link target))
      (followed : followLast = true ∨ rest ≠ [])
      (more : Finds tree followLast links (linkStart current target)
        (target.namesToFolder ++ rest) spot) :
      Finds tree followLast (links + 1) current (name :: rest) spot

section Ways

variable {followLast : Bool} {links : Nat} {current : Location} {names : List Name} {spot : Spot}

/-- What following names finds, a way comes to. -/
theorem finds_of_follow (found : tree.follow followLast links current names = .ok spot) :
    Finds tree followLast links current names spot := by
  induction links, current, names using follow_induction with
  | nil links current =>
    rw [follow_nil] at found
    cases there : tree.item? current with
    | none =>
      rw [there] at found
      contradiction
    | some item =>
      rw [there] at found
      cases found
      exact .here there
  | cons links current name rest ih onLink =>
    cases tree.lookup current name with
    | nowhere absent =>
      rw [follow_nowhere absent] at found
      contradiction
    | notFolder item there noFolder =>
      rw [follow_notFolder there noFolder] at found
      contradiction
    | dot folder same =>
      subst same
      rw [follow_dot folder] at found
      exact .dot folder (ih _ found)
    | up folder same =>
      subst same
      rw [follow_up folder] at found
      exact .up folder (ih _ found)
    | long folder noDot noUp long =>
      rw [follow_long folder noDot noUp long] at found
      contradiction
    | absent folder looked absent =>
      rw [follow_absent folder looked absent] at found
      cases rest with
      | nil =>
        cases found
        exact .free folder looked absent
      | cons => contradiction
    | link folder looked target there =>
      by_cases followed : followLast = true ∨ rest ≠ []
      · cases links with
        | zero =>
          rw [follow_link_none folder looked there followed] at found
          contradiction
        | succ before =>
          rw [follow_link_some folder looked there followed] at found
          exact .link folder looked there followed (onLink before _ _ rfl found)
      · rw [not_or, Bool.not_eq_true, not_not] at followed
        obtain ⟨rfl, rfl⟩ := followed
        rw [follow_link_last folder looked there] at found
        cases found
        exact .last folder looked there rfl
    | down folder looked item there noLink =>
      rw [follow_down folder looked there noLink] at found
      exact .down folder looked there noLink (ih _ found)

/-- Following names finds what a way comes to. -/
theorem Finds.follow_eq (finds : Finds tree followLast links current names spot) :
    tree.follow followLast links current names = .ok spot := by
  induction finds with
  | here found => rw [follow_nil, found]
  | dot folder _ ih => rw [follow_dot folder, ih]
  | up folder _ ih => rw [follow_up folder, ih]
  | down folder looked found noLink _ ih => rw [follow_down folder looked found noLink, ih]
  | free folder looked absent =>
    rw [follow_absent folder looked absent]
    rfl
  | last folder looked found stays =>
    rw [stays]
    exact follow_link_last folder looked found
  | link folder looked found followed _ ih =>
    rw [follow_link_some folder looked found followed, ih]

/-- Following names finds a spot exactly when there is a way to it. -/
theorem follow_eq_ok_iff_finds :
    tree.follow followLast links current names = .ok spot ↔
      Finds tree followLast links current names spot :=
  ⟨finds_of_follow, Finds.follow_eq⟩

/-- What a way comes to stands there. -/
theorem Finds.item?_location (finds : Finds tree followLast links current names spot) :
    tree.item? spot.location = spot.item? := by
  induction finds with
  | here found => exact found
  | dot _ _ ih => exact ih
  | up _ _ ih => exact ih
  | down _ _ _ _ _ ih => exact ih
  | free _ _ absent => exact absent
  | last _ _ found => exact found
  | link _ _ _ _ _ ih => exact ih

/-- A way that comes to an entry is a route to it. -/
theorem Finds.exists_route (finds : Finds tree true links current names spot) {item : Item}
    (there : spot.item? = some item) :
    ∃ left, Route tree links current names left spot.location := by
  induction finds with
  | here => exact ⟨_, .stay⟩
  | dot folder _ ih => exact (ih there).imp fun _ => .dot folder
  | up folder _ ih => exact (ih there).imp fun _ => .up folder
  | down folder looked found noLink _ ih =>
    exact (ih there).imp fun _ => .down folder looked found noLink
  | free => cases there
  | last _ _ _ stays => cases stays
  | link folder looked found _ _ ih => exact (ih there).imp fun _ => .link folder looked found

/-- A route is a way to what stands at its end. -/
theorem Route.finds_entry {left : Nat} {goal : Location}
    (route : Route tree links current names left goal) {item : Item}
    (there : tree.item? goal = some item) :
    Finds tree true links current names (.present goal item) := by
  induction route with
  | stay => exact .here there
  | dot folder _ ih => exact .dot folder (ih there)
  | up folder _ ih => exact .up folder (ih there)
  | down folder looked found noLink _ ih => exact .down folder looked found noLink (ih there)
  | link folder looked found _ ih => exact .link folder looked found (.inl rfl) (ih there)

/-- Following names finds what stands at the end of the route along them. -/
theorem follow_eq_ok_iff {goal : Location} {item : Item} :
    tree.follow true links current names = .ok (.present goal item) ↔
      (∃ left, Route tree links current names left goal) ∧ tree.item? goal = some item := by
  rw [follow_eq_ok_iff_finds]
  constructor
  · intro finds
    exact ⟨finds.exists_route rfl, finds.item?_location⟩
  · rintro ⟨⟨left, route⟩, there⟩
    exact route.finds_entry there

end Ways

/-! ## Looking paths up -/

/-- The location at which a path begins. -/
def origin (tree : FileTree) (p : Path) : Location := if p.isAbsolute then [] else tree.home

/-- A path that the system takes: it holds something and is not too long. -/
def IsWritable (p : Path) : Prop := p.text ≠ [] ∧ p.text.length ≤ pathLimit

/-- A path that the system takes is followed from its origin, along the names of its folder form. -/
theorem find_eq_follow {p : Path} (writable : IsWritable p) :
    tree.find true p = tree.follow true linkLimit (tree.origin p) p.namesToFolder := by
  unfold find findNames
  rw [if_neg (by simpa using writable.1), if_neg (Nat.not_lt.mpr writable.2)]
  rfl

/-- Only a path that the system takes is found. -/
theorem isWritable_of_find {p : Path} {spot : Spot} (h : tree.find true p = .ok spot) :
    IsWritable p := by
  unfold find findNames at h
  split at h
  · contradiction
  · rename_i some
    split at h
    · contradiction
    · rename_i short
      exact ⟨by simpa using some, Nat.not_lt.mp short⟩

/-- A path resolves to what is present at its spot. -/
theorem resolve_eq_ok_iff_find {p : Path} {location : Location} {item : Item} :
    tree.resolve p = .ok (location, item) ↔ tree.find true p = .ok (.present location item) := by
  unfold resolve
  cases tree.find true p with
  | error e => exact ⟨nofun, nofun⟩
  | ok spot =>
    cases spot with
    | absent location => exact ⟨nofun, nofun⟩
    | present place found =>
      constructor
      · rintro ⟨⟩
        rfl
      · rintro ⟨⟩
        rfl

/-- A path is looked up successfully when the system takes it and a route leads along its names. -/
theorem resolve_eq_ok_iff {p : Path} {location : Location} {item : Item} :
    tree.resolve p = .ok (location, item) ↔
      IsWritable p ∧
        (∃ left, Route tree linkLimit (tree.origin p) p.namesToFolder left location) ∧
        tree.item? location = some item := by
  rw [resolve_eq_ok_iff_find]
  constructor
  · intro found
    have writable := isWritable_of_find found
    rw [find_eq_follow writable, follow_eq_ok_iff] at found
    exact ⟨writable, found⟩
  · rintro ⟨writable, route⟩
    rw [find_eq_follow writable, follow_eq_ok_iff]
    exact route

end FileTree

end CatalogAudit
