import CatalogAudit.Proofs.FileTree.Change
import CatalogAudit.Proofs.Path.FileName

/-!
# The last step of a path

A path that ends in a name leads into a folder, and then to the place of that name in it. Changes of
files do not matter to the way into the folder, and neither does a link at the very place, unless
the way comes through that link.
-/

namespace CatalogAudit.FileTree

variable {tree tree' : FileTree} {followLast : Bool} {links left : Nat}
  {current folder place : Location} {before rest : List Name} {name : Name} {spot : Spot}
  {p target : Path}

/-! ## Taking the last step off -/

/-- A way goes on where a route ends. -/
theorem Route.finds (route : Route tree links current before left folder) (filled : rest ≠ [])
    (finds : Finds tree followLast left folder rest spot) :
    Finds tree followLast links current (before ++ rest) spot := by
  induction route with
  | stay => exact finds
  | dot inside _ ih => exact .dot inside (ih finds)
  | up inside _ ih => exact .up inside (ih finds)
  | down inside looked found noLink _ ih => exact .down inside looked found noLink (ih finds)
  | link inside looked found _ ih =>
    have more := ih finds
    rw [List.append_assoc] at more
    exact .link inside looked found (.inr (List.append_ne_nil_of_right_ne_nil _ filled)) more

/-- A way is taken apart before its last names. -/
theorem Finds.split (finds : Finds tree followLast links current (before ++ rest) spot)
    (filled : rest ≠ []) : ∃ left folder, Route tree links current before left folder ∧
      Finds tree followLast left folder rest spot := by
  generalize whole : before ++ rest = all at finds
  induction finds generalizing before with
  | here => exact absurd (List.append_eq_nil_iff.mp whole).2 filled
  | dot inside more ih =>
    cases before with
    | nil =>
      rw [List.nil_append] at whole
      exact ⟨_, _, .stay, whole ▸ .dot inside more⟩
    | cons first before =>
      obtain ⟨rfl, behind⟩ := List.cons.inj whole
      obtain ⟨left, folder, route, finds⟩ := ih behind
      exact ⟨left, folder, .dot inside route, finds⟩
  | up inside more ih =>
    cases before with
    | nil =>
      rw [List.nil_append] at whole
      exact ⟨_, _, .stay, whole ▸ .up inside more⟩
    | cons first before =>
      obtain ⟨rfl, behind⟩ := List.cons.inj whole
      obtain ⟨left, folder, route, finds⟩ := ih behind
      exact ⟨left, folder, .up inside route, finds⟩
  | down inside looked found noLink more ih =>
    cases before with
    | nil =>
      rw [List.nil_append] at whole
      exact ⟨_, _, .stay, whole ▸ .down inside looked found noLink more⟩
    | cons first before =>
      obtain ⟨rfl, behind⟩ := List.cons.inj whole
      obtain ⟨left, folder, route, finds⟩ := ih behind
      exact ⟨left, folder, .down inside looked found noLink route, finds⟩
  | free inside looked absent =>
    obtain ⟨rfl, rfl⟩ : before = [] ∧ rest = [_] :=
      (List.append_eq_singleton_iff.mp whole).resolve_right fun none => filled none.2
    exact ⟨_, _, .stay, .free inside looked absent⟩
  | last inside looked found stays =>
    obtain ⟨rfl, rfl⟩ : before = [] ∧ rest = [_] :=
      (List.append_eq_singleton_iff.mp whole).resolve_right fun none => filled none.2
    exact ⟨_, _, .stay, .last inside looked found stays⟩
  | @link _ _ _ _ target _ inside looked found followed more ih =>
    cases before with
    | nil =>
      rw [List.nil_append] at whole
      exact ⟨_, _, .stay, whole ▸ .link inside looked found followed more⟩
    | cons first before =>
      obtain ⟨rfl, behind⟩ := List.cons.inj whole
      have behind : target.namesToFolder ++ before ++ rest = _ :=
        (List.append_assoc _ _ _).trans (congrArg _ behind)
      obtain ⟨left, folder, route, finds⟩ := ih behind
      exact ⟨left, folder, .link inside looked found route, finds⟩

/-- What is no dot is looked up in the folder itself, and nothing more. -/
theorem finds_singleton_iff (noDot : name ≠ [Path.dot]) (noUp : name ≠ [Path.dot, Path.dot]) :
    Finds tree false links current [name] spot ↔
      tree.item? current = some .folder ∧ IsLooked name ∧ spot.location = current ++ [name] ∧
        tree.item? (current ++ [name]) = spot.item? := by
  constructor
  · intro finds
    cases finds with
    | dot => exact absurd rfl noDot
    | up => exact absurd rfl noUp
    | down inside looked found noLink more =>
      cases more with
      | here there => exact ⟨inside, looked, rfl, there⟩
    | free inside looked absent => exact ⟨inside, looked, rfl, absent⟩
    | last inside looked found => exact ⟨inside, looked, rfl, found⟩
    | link inside looked found followed =>
      rcases followed with follows | more
      · cases follows
      · exact absurd rfl more
  · rintro ⟨inside, looked, location, item⟩
    cases spot with
    | absent =>
      cases location
      exact .free inside looked item
    | present _ own =>
      cases location
      cases own with
      | file => exact .down inside looked item (fun _ => Item.noConfusion) (.here item)
      | link => exact .last inside looked item rfl
      | folder => exact .down inside looked item (fun _ => Item.noConfusion) (.here item)

/-! ## The folder that a path leads into -/

/-- Going along names from where a path begins leads into a folder. -/
def LeadsInto (tree : FileTree) (p : Path) (names : List Name) (folder : Location) : Prop :=
  tree.item? folder = some .folder ∧ ∃ left, Route tree linkLimit (tree.origin p) names left folder

/-- A path leads into one folder. -/
theorem LeadsInto.unique {folder' : Location} (leads : LeadsInto tree p before folder)
    (leads' : LeadsInto tree p before folder') : folder = folder' := by
  obtain ⟨-, left, route⟩ := leads
  obtain ⟨-, left', route'⟩ := leads'
  exact (route.unique route').2

/-- A route to a folder begins at a folder. -/
theorem Route.folder_start (route : Route tree links current before left folder)
    (isFolder : tree.item? folder = some .folder) : tree.item? current = some .folder := by
  cases route with
  | stay => exact isFolder
  | dot inside | up inside | down inside | link inside => exact inside

/-- A route to a folder is the same in a tree that keeps folders and links. -/
theorem Route.keep (keeps : KeepsWays tree tree')
    (route : Route tree links current before left folder)
    (isFolder : tree.item? folder = some .folder) :
    Route tree' links current before left folder := by
  induction route with
  | stay => exact .stay
  | dot inside _ ih => exact .dot (keeps.folder _ inside) (ih isFolder)
  | up inside _ ih => exact .up (keeps.folder _ inside) (ih isFolder)
  | link inside looked found _ ih =>
    exact .link (keeps.folder _ inside) looked (keeps.link _ _ found) (ih isFolder)
  | down inside looked found noLink more ih =>
    -- On the way to a folder, what is no link is a folder.
    have onward := more.folder_start isFolder
    rw [found, Option.some_inj] at onward
    subst onward
    exact .down (keeps.folder _ inside) looked (keeps.folder _ found) noLink (ih isFolder)

/-- Where ways are kept, a path leads into the same folder. -/
theorem LeadsInto.keep (keeps : KeepsWays tree tree') (leads : LeadsInto tree p before folder) :
    LeadsInto tree' p before folder := by
  obtain ⟨isFolder, left, route⟩ := leads
  have origin : tree'.origin p = tree.origin p := by rw [FileTree.origin, keeps.home]; rfl
  exact ⟨keeps.folder _ isFolder, left, origin ▸ route.keep keeps isFolder⟩

/-! ## The place that a path names -/

/-- What a path itself names is at a location, or would be there. -/
def NamesPlace (tree : FileTree) (p : Path) (place : Location) : Prop :=
  ∃ spot, tree.find false p = .ok spot ∧ spot.location = place

/-- A path names one place. -/
theorem NamesPlace.unique {place' : Location} (names : tree.NamesPlace p place)
    (names' : tree.NamesPlace p place') : place = place' := by
  obtain ⟨spot, found, rfl⟩ := names
  obtain ⟨spot', found', rfl⟩ := names'
  rw [found, Except.ok.injEq] at found'
  rw [found']

section EndsIn

variable (ends : p.EndsIn before name)

include ends

/-- What a path itself names is what has the last name in the folder that the path leads into. -/
theorem find_iff_of_endsIn :
    tree.find false p = .ok spot ↔ IsWritable p ∧ IsLooked name ∧ ∃ folder,
      LeadsInto tree p before folder ∧ spot.location = folder ++ [name] ∧
        tree.item? (folder ++ [name]) = spot.item? := by
  rw [find_eq_ok_iff, ends.namesToFolder]
  constructor
  · rintro ⟨writable, finds⟩
    obtain ⟨left, folder, route, last⟩ := finds.split (List.cons_ne_nil _ _)
    obtain ⟨isFolder, looked, location, item⟩ := (finds_singleton_iff ends.noDot ends.noUp).mp last
    exact ⟨writable, looked, folder, ⟨isFolder, left, route⟩, location, item⟩
  · rintro ⟨writable, looked, folder, ⟨isFolder, left, route⟩, location, item⟩
    refine ⟨writable, route.finds (List.cons_ne_nil _ _) ?_⟩
    exact (finds_singleton_iff ends.noDot ends.noUp).mpr ⟨isFolder, looked, location, item⟩

/-- A path names the place of its last name in the folder that it leads into. -/
theorem namesPlace_iff : tree.NamesPlace p place ↔ IsWritable p ∧ IsLooked name ∧ ∃ folder,
    LeadsInto tree p before folder ∧ place = folder ++ [name] := by
  constructor
  · rintro ⟨spot, found, rfl⟩
    obtain ⟨writable, looked, folder, leads, location, -⟩ := (find_iff_of_endsIn ends).mp found
    exact ⟨writable, looked, folder, leads, location⟩
  · rintro ⟨writable, looked, folder, leads, rfl⟩
    cases item : tree.item? (folder ++ [name]) with
    | none =>
      refine ⟨.absent (folder ++ [name]), ?_, rfl⟩
      exact (find_iff_of_endsIn ends).mpr ⟨writable, looked, folder, leads, rfl, item⟩
    | some own =>
      refine ⟨.present (folder ++ [name]) own, ?_, rfl⟩
      exact (find_iff_of_endsIn ends).mpr ⟨writable, looked, folder, leads, rfl, item⟩

/-- A path names the same place in a tree that keeps folders and links. -/
theorem NamesPlace.keep (keeps : KeepsWays tree tree') (names : tree.NamesPlace p place) :
    tree'.NamesPlace p place := by
  obtain ⟨writable, looked, folder, leads, same⟩ := (namesPlace_iff ends).mp names
  exact (namesPlace_iff ends).mpr ⟨writable, looked, folder, leads.keep keeps, same⟩

/-- What stands at the place that a path names is what the path itself names. -/
theorem NamesPlace.find (names : tree.NamesPlace p spot.location)
    (item : tree.item? spot.location = spot.item?) : tree.find false p = .ok spot := by
  obtain ⟨writable, looked, folder, leads, same⟩ := (namesPlace_iff ends).mp names
  exact (find_iff_of_endsIn ends).mpr ⟨writable, looked, folder, leads, same, same ▸ item⟩

end EndsIn

/-- The target of a move that ends in no slash ends in a name. -/
theorem exists_endsIn_of_target {spot : Spot} (found : tree.target p = .ok spot)
    (noSlash : p.endsInSlash = false) : ∃ before name, p.EndsIn before name := by
  unfold target at found
  dsimp only at found
  split at found
  · split at found <;> contradiction
  · rename_i ends
    simp only [Bool.or_eq_true, decide_eq_true_eq, not_or] at ends
    obtain ⟨⟨filled, noDot⟩, noUp⟩ := ends
    rcases List.eq_nil_or_concat' p.names with none | ⟨before, name, names⟩
    · rw [none] at filled
      exact absurd rfl filled
    · rw [names, List.getLast?_concat, Option.some_inj] at noDot noUp
      refine ⟨before, name, ?_, noDot, noUp⟩
      rw [Path.namesToFolder, noSlash, if_neg Bool.false_ne_true, names]

/-! ## Ways around a link -/

/-- Where a link stands that is taken away, a route to a folder does not need it, or comes through
the whole of it. -/
theorem Route.avoids_or_enters (below : place ≠ [])
    (link : tree.item? place = some (.link target))
    (route : Route tree links current before left folder)
    (isFolder : tree.item? folder = some .folder) :
    Route (tree.erase place) links current before left folder ∨
      ∃ links left middle, tree.item? middle = some .folder ∧
        Route tree links (linkStart place.dropLast target) target.namesToFolder left middle := by
  have kept : ∀ {location item}, tree.item? location = some item →
      (∀ target, item ≠ .link target) → (tree.erase place).item? location = some item := by
    intro location item found noLink
    rw [item?_erase below, if_neg]
    · exact found
    · rintro rfl
      rw [link, Option.some_inj] at found
      exact noLink target found.symm
  have noLink : ∀ target, Item.folder ≠ .link target := fun _ => Item.noConfusion
  induction route with
  | stay => exact .inl .stay
  | dot inside _ ih => exact (ih isFolder).imp_left (.dot (kept inside noLink))
  | up inside _ ih => exact (ih isFolder).imp_left (.up (kept inside noLink))
  | down inside looked found solid _ ih =>
    exact (ih isFolder).imp_left (.down (kept inside noLink) looked (kept found solid) solid)
  | @link links _ current _ name rest own inside looked found more ih =>
    by_cases same : current ++ [name] = place
    · subst same
      rw [link, Option.some_inj, Item.link.injEq] at found
      subst found
      obtain ⟨between, middle, first, second⟩ := more.split
      refine .inr ⟨links, between, middle, second.folder_start isFolder, ?_⟩
      rwa [List.dropLast_concat]
    · refine (ih isFolder).imp_left (.link (kept inside noLink) looked ?_)
      rw [item?_erase below, if_neg same]
      exact found

/-- Without the link that stands at the place of a path, the path does not lead there any more. -/
def NeedsOwnLink (tree : FileTree) (p : Path) : Prop :=
  ∃ place target, tree.find false p = .ok (.present place (.link target)) ∧
    ¬ (tree.erase place).NamesPlace p place

/-- A path that leads to a file does not come through its own link on the way: the link would lead
to a folder. -/
theorem not_needsOwnLink_of_resolve (ends : p.EndsIn before name) {goal : Location} {item : Item}
    (found : tree.resolve p = .ok (goal, item)) (noFolder : item ≠ .folder) :
    ¬ tree.NeedsOwnLink p := by
  rintro ⟨place, target, there, lost⟩
  obtain ⟨writable, looked, folder, ⟨isFolder, left, route⟩, rfl, link⟩ :=
    (find_iff_of_endsIn ends).mp there
  have below : folder ++ [name] ≠ [] := List.append_ne_nil_of_right_ne_nil _ (List.cons_ne_nil _ _)
  rcases route.avoids_or_enters below link isFolder with
    around | ⟨links, left', middle, inner, through⟩
  · refine lost ((namesPlace_iff ends).mpr ⟨writable, looked, folder, ⟨?_, left, around⟩, rfl⟩)
    rw [item?_erase below, if_neg]
    · exact isFolder
    · exact fun same => List.cons_ne_nil _ _ (List.self_eq_append_right.mp same)
  · obtain ⟨-, ⟨last, whole⟩, there⟩ := resolve_eq_ok_iff.mp found
    rw [ends.namesToFolder] at whole
    obtain ⟨between, folder', first, second⟩ := whole.split
    obtain ⟨rfl, rfl⟩ := route.unique first
    rw [List.dropLast_concat] at through
    cases second with
    | dot => exact ends.noDot rfl
    | up => exact ends.noUp rfl
    | down _ _ found' noLink =>
      rw [link, Spot.item?, Option.some_inj] at found'
      exact noLink target found'.symm
    | @link links' _ _ _ _ _ _ _ _ found' more =>
      rw [link, Spot.item?, Option.some_inj, Item.link.injEq] at found'
      subst found'
      rw [List.append_nil] at more
      -- The same names lead to the file at the end and to a folder on the way.
      have same := (Nat.add_comm links' links ▸ more.more_links links).unique
        (through.more_links links')
      rw [same.2, inner, Option.some_inj] at there
      exact noFolder there.symm

end CatalogAudit.FileTree
