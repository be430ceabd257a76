import CatalogAudit.Proofs.FileTree.Reach

/-!
# Real locations

Every location has a path of its own, and different locations have different ones. Following that
path, or another one with the same steps, leads to the location without any link. So the steps of a
real location are those of a path only if they are the steps of its own real location.
-/

namespace CatalogAudit.FileTree

/-! ## Paths of locations -/

section Paths

variable {location location' : Location} {name : Name}

/-- Names are steps down. -/
theorem map_stepOf (isNames : ∀ name ∈ location, Path.IsName name) :
    location.map Path.stepOf = location.map Path.Step.down :=
  List.map_congr_left fun name member => (isNames name member).stepOf_eq

/-- The path of a location goes from the root down its names. -/
theorem steps_pathOf (isNames : ∀ name ∈ location, Path.IsName name) :
    (pathOf location).steps = .top :: location.map Path.Step.down := by
  have solid : Path.solidPieces (pathOf location).text = location := by
    rw [pathOf, Path.solidPieces_slash,
      Path.solidPieces_joinPieces fun name member => (isNames name member).slashless]
    exact List.filter_eq_self.mpr fun name member => by simp [(isNames name member).solid]
  rw [Path.steps_eq, solid, map_stepOf isNames, Path.origin,
    if_pos (by simp [pathOf, Path.isAbsolute])]
  rfl

/-- Different locations have paths with different steps. -/
theorem pathOf_steps_inj (isNames : ∀ name ∈ location, Path.IsName name)
    (isNames' : ∀ name ∈ location', Path.IsName name)
    (same : (pathOf location).steps = (pathOf location').steps) : location = location' := by
  rw [steps_pathOf isNames, steps_pathOf isNames'] at same
  exact List.map_injective_iff.mpr (fun _ _ => Path.Step.down.inj) (List.cons.inj same).2

/-- The last name of a location stands behind a separator. -/
theorem joinPieces_concat (filled : location ≠ []) :
    Path.joinPieces (location ++ [name]) = Path.joinPieces location ++ Path.slash :: name := by
  induction location with
  | nil => contradiction
  | cons first rest ih =>
    rw [List.cons_append, Path.joinPieces_cons (by simp)]
    by_cases none : rest = []
    · rw [none]
      rfl
    · rw [Path.joinPieces_cons none, ih none, List.append_assoc, List.cons_append]

/-- The path of a folder is no longer than that of an entry of it. -/
theorem length_pathOf_le (location : Location) (name : Name) :
    (pathOf location).text.length ≤
      (pathOf (location ++ [name])).text.length := by
  by_cases none : location = []
  · rw [none]
    change [Path.slash].length ≤ ([Path.slash] ++ name).length
    rw [List.length_append]
    exact Nat.le_add_right _ _
  · rw [pathOf, pathOf, joinPieces_concat none, ← List.cons_append, List.length_append]
    exact Nat.le_add_right _ _

/-- A path with the steps of a location begins at the top, and its names lead to the location, apart
from dots. -/
theorem names_of_steps {p : Path} (isNames : ∀ name ∈ location, Path.IsName name)
    (same : p.steps = (pathOf location).steps) :
    p.isAbsolute = true ∧ (p.names.filter fun name => name != [Path.dot]) = location := by
  rw [steps_pathOf isNames, ← map_stepOf isNames, Path.steps_eq] at same
  have solid : (p.names.filter fun name => name != [Path.dot]) = Path.solidPieces p.text := by
    unfold Path.names Path.solidPieces
    rw [List.filter_filter]
    refine List.filter_congr fun piece _ => ?_
    rw [Path.isIdle, Bool.not_or, Bool.and_comm]
    cases piece <;> rfl
  rw [solid]
  unfold Path.origin at same
  split at same
  · rename_i absolute
    obtain ⟨-, pieces⟩ := List.cons.inj same
    exact ⟨absolute, List.map_injective_iff.mpr Path.stepOf_injective pieces⟩
  · split at same
    · exact absurd (List.cons.inj same).1 (by decide)
    · cases pieces : Path.solidPieces p.text with
      | nil =>
        rw [pieces] at same
        contradiction
      | cons piece others =>
        rw [pieces] at same
        exact absurd (List.cons.inj same).1 (Path.stepOf_ne_top piece)

end Paths

/-! ## Routes along locations -/

section Routes

variable {tree : FileTree} {location current goal : Location} {names : List Name} {item : Item}
  {links left : Nat}

/-- Whatever lies on the way to a folder is a folder. -/
theorem WellFormed.folder_of_append (wf : tree.WellFormed) {more : List Name}
    (folder : tree.item? (location ++ more) = some .folder) :
    tree.item? location = some .folder := by
  induction more using List.reverseRecOn with
  | nil => rwa [List.append_nil] at folder
  | append_singleton more name ih =>
    rw [← List.append_assoc] at folder
    exact ih (wf.item?_folder (wf.mem_children_iff.mpr folder))

/-- Names that are those of a folder's location, apart from dots, lead there without a link. -/
theorem WellFormed.route_to_folder (wf : tree.WellFormed)
    (folder : tree.item? (current ++ names.filter fun name => name != [Path.dot]) = some .folder) :
    Route tree links current names links
      (current ++ names.filter fun name => name != [Path.dot]) := by
  induction names generalizing current with
  | nil =>
    rw [List.filter_nil, List.append_nil]
    exact .stay
  | cons name rest ih =>
    have here := wf.folder_of_append folder
    by_cases dot : name = [Path.dot]
    · subst dot
      exact .dot here (ih folder)
    · rw [List.filter_cons_of_pos (by simpa using dot), List.append_cons] at folder ⊢
      have next := wf.folder_of_append folder
      exact .down here (isLooked_of_child wf (wf.mem_children_iff.mpr next)) next
        (fun _ => Item.noConfusion) (ih folder)

/-- A path with the steps of a location leads there, if it ends in a name. -/
theorem WellFormed.route_of_steps (wf : tree.WellFormed) {p : Path} {name : Name}
    (isName : Path.IsName name) (found : tree.item? location = some item)
    (noLink : ∀ target, item ≠ .link target)
    (same : (p.join ⟨name⟩).steps = (pathOf location).steps) :
    Route tree linkLimit (tree.origin (p.join ⟨name⟩)) (p.join ⟨name⟩).namesToFolder linkLimit
      location := by
  obtain ⟨absolute, lead⟩ := names_of_steps (wf.isName found) same
  have last : (name != [Path.dot]) = true := by simpa using isName.ne_dot
  rw [Path.names_join isName, List.filter_append, List.filter_singleton, last, cond_true] at lead
  rw [origin, if_pos absolute, Path.namesToFolder_join isName]
  rw [← lead] at found
  have child := wf.mem_children_iff.mpr found
  have way : Route tree linkLimit [] p.names linkLimit _ :=
    wf.route_to_folder (wf.item?_folder child)
  refine way.append ?_
  rw [← lead]
  exact .down (wf.item?_folder child) (isLooked_of_child wf child) found noLink .stay

/-- A route with a name begins in a folder. -/
theorem Route.folder_of_ne_nil (route : Route tree links current names left goal)
    (filled : names ≠ []) : tree.item? current = some .folder := by
  cases route with
  | stay => contradiction
  | dot folder | up folder | down folder | link folder => exact folder

/-- A folder is no link. -/
theorem not_link_of_folder (folder : tree.item? location = some .folder) (target : Path) :
    tree.item? location ≠ some (.link target) := by
  rw [folder]
  exact fun same => Item.noConfusion (Option.some.inj same)

/-- A route ends at no link. -/
theorem Route.not_link (wf : tree.WellFormed) (route : Route tree links current names left goal)
    (noLink : ∀ target, tree.item? current ≠ some (.link target)) (target : Path) :
    tree.item? goal ≠ some (.link target) := by
  induction route with
  | stay => exact noLink target
  | dot _ _ ih => exact ih noLink
  | @up _ _ current _ _ folder _ ih =>
    refine ih (not_link_of_folder ?_)
    induction current using List.reverseRecOn with
    | nil => exact folder
    | append_singleton front name =>
      rw [List.dropLast_concat]
      exact wf.folder_of_append folder
  | down _ _ found notLink _ ih =>
    refine ih fun target link => ?_
    rw [found] at link
    exact notLink target (Option.some.inj link)
  | link folder _ _ _ ih =>
    refine ih (not_link_of_folder ?_)
    unfold linkStart
    split
    · rfl
    · exact folder

end Routes

/-! ## Real locations of paths -/

section Real

variable {tree : FileTree} {location : Location}

/-- The part of a tree that can be addressed is a tree. -/
theorem WellFormed.addressable (wf : tree.WellFormed) : tree.addressable.WellFormed where
  distinct := wf.distinct.sublist (List.filter_sublist.map _)
  named := fun entry member => wf.named entry (List.mem_of_mem_filter member)
  short := fun entry member => wf.short entry (List.mem_of_mem_filter member)
  housed := by
    intro entry member
    obtain ⟨listed, fits⟩ := List.mem_filter.mp member
    obtain ⟨filled, folder⟩ := wf.housed entry listed
    refine ⟨filled, ?_⟩
    rw [decide_eq_true_eq] at fits
    have longer := length_pathOf_le entry.1.dropLast (entry.1.getLast filled)
    rw [List.dropLast_concat_getLast] at longer
    rw [item?_addressable, if_pos (longer.trans fits), folder]

/-- A path with the steps of a real location has that location. -/
theorem realLocation?_of_steps (wf : tree.WellFormed) {p q : Path} {name name' : Name}
    (isName : Path.IsName name) (isName' : Path.IsName name')
    (real : tree.realLocation? (q.join ⟨name'⟩) = some location)
    (same : (p.join ⟨name⟩).steps = (pathOf location).steps) :
    tree.realLocation? (p.join ⟨name⟩) = some location := by
  obtain ⟨-, ⟨left, route⟩, item, found⟩ := realLocation?_eq_some_iff.mp real
  have begins := route.folder_of_ne_nil (by simp [Path.namesToFolder_join isName'])
  have noLink : ∀ target, item ≠ .link target := by
    rintro target rfl
    exact route.not_link wf.addressable (not_link_of_folder begins) target found
  exact realLocation?_eq_some_iff.mpr ⟨Path.text_join_ne_nil isName,
    ⟨_, wf.addressable.route_of_steps isName found noLink same⟩, item, found⟩

/-- A path without a real location has the steps of no real location. -/
theorem steps_ne_of_realLocation? (wf : tree.WellFormed) {p q : Path} {name name' : Name}
    (isName : Path.IsName name) (isName' : Path.IsName name')
    (none : tree.realLocation? (p.join ⟨name⟩) = none)
    (real : tree.realLocation? (q.join ⟨name'⟩) = some location) :
    (p.join ⟨name⟩).steps ≠ (pathOf location).steps := by
  intro same
  rw [realLocation?_of_steps wf isName isName' real same] at none
  contradiction

/-- A real location goes along names. -/
theorem isName_of_realLocation? (wf : tree.WellFormed) {p : Path}
    (real : tree.realLocation? p = some location) : ∀ name ∈ location, Path.IsName name := by
  obtain ⟨-, -, item, found⟩ := realLocation?_eq_some_iff.mp real
  exact wf.addressable.isName found

end Real

end CatalogAudit.FileTree
