import CatalogAudit.FileTree.Walk
import CatalogAudit.Proofs.FileTree.Route
import Mathlib.Data.List.Count

/-!
# What a walk comes upon

A walk is a sequence of folders, each entered from the one before it, and what it meets in the last
of them. The fuel of a walk never runs out: entering a folder through a link leaves fewer folders
through which the walk has not come, and entering one by its name leads one level down. So a walk
comes upon exactly what is met in the folders that can be entered one after the other.
-/

namespace CatalogAudit.FileTree

variable {tree : FileTree}

/-- The path of what a walk comes upon. -/
def Visit.path : Visit → Path
  | .file path => path
  | .fault problem => problem.path

/-- The folder can be opened, and it lists the item under the name. -/
structure Lists (tree : FileTree) (here : Ancestor) (name : Name) (item : Item) : Prop where
  /-- The path of the folder leads somewhere. -/
  opened : ∃ found, tree.resolve here.path = .ok found
  /-- The item is in the folder. -/
  child : (name, item) ∈ tree.children here.location

/-- From the nearest of its ancestors a walk enters a folder. -/
inductive Enters (tree : FileTree) : List Ancestor → List Ancestor → Prop
  /-- The folder stands there. -/
  | folder {here : Ancestor} {above : List Ancestor} {name : Name}
      (lists : Lists tree here name .folder) (seen : isHidden name = false) :
      Enters tree (here :: above)
        ({ location := here.location ++ [name], path := here.path.join ⟨name⟩ } :: here :: above)
  /-- A link there leads to the folder, through which the walk has not come. -/
  | link {here : Ancestor} {above : List Ancestor} {name : Name} {target : Path}
      {location : Location} (lists : Lists tree here name (.link target))
      (leads : tree.resolve (here.path.join ⟨name⟩) = .ok (location, .folder))
      (new : ∀ ancestor ∈ here :: above, ancestor.location ≠ location)
      (seen : isHidden name = false) :
      Enters tree (here :: above) ({ location, path := here.path.join ⟨name⟩ } :: here :: above)

/-- In the nearest of its ancestors a walk comes upon something that is no folder to enter. -/
inductive Meets (tree : FileTree) : List Ancestor → Visit → Prop
  /-- The folder itself cannot be opened. -/
  | shut {here : Ancestor} {above : List Ancestor} {error : FileError}
      (closed : tree.resolve here.path = .error error) :
      Meets tree (here :: above) (.fault (.file here.path error))
  /-- A file stands there. -/
  | file {here : Ancestor} {above : List Ancestor} {name : Name} {bytes : ByteArray}
      (lists : Lists tree here name (.file bytes)) (seen : isHidden name = false) :
      Meets tree (here :: above) (.file (here.path.join ⟨name⟩))
  /-- A link there leads to a file. -/
  | linked {here : Ancestor} {above : List Ancestor} {name : Name} {target : Path}
      {location : Location} {item : Item} (lists : Lists tree here name (.link target))
      (leads : tree.resolve (here.path.join ⟨name⟩) = .ok (location, item))
      (noFolder : item ≠ .folder) (seen : isHidden name = false) :
      Meets tree (here :: above) (.file (here.path.join ⟨name⟩))
  /-- A link there leads nowhere. -/
  | broken {here : Ancestor} {above : List Ancestor} {name : Name} {target : Path}
      {error : FileError} (lists : Lists tree here name (.link target))
      (leads : tree.resolve (here.path.join ⟨name⟩) = .error error) :
      Meets tree (here :: above) (.fault (.file (here.path.join ⟨name⟩) error))
  /-- A link there leads to a folder through which the walk has come. -/
  | loop {here ancestor : Ancestor} {above : List Ancestor} {name : Name} {target : Path}
      {location : Location} (lists : Lists tree here name (.link target))
      (leads : tree.resolve (here.path.join ⟨name⟩) = .ok (location, .folder))
      (passed : (here :: above).find? (fun ancestor => ancestor.location == location) =
        some ancestor) :
      Meets tree (here :: above) (.fault (.loop (here.path.join ⟨name⟩) ancestor.path))

/-! ## One folder -/

section Folder

variable {fuel : Nat} {chain above : List Ancestor} {here : Ancestor} {name : Name} {item : Item}
  {visit : Visit} {enter enter' : List Ancestor → List Visit}

/-- The folder is the only item that counts as one. -/
theorem isFolder_iff : item.isFolder = true ↔ item = .folder := by
  cases item <;> simp [Item.isFolder]

/-- What is visited in an entry is met there or in the folder that is entered from there. -/
theorem mem_visitEntry (lists : Lists tree here name item)
    (member : visit ∈ visitEntry tree enter (here :: above) here name item) :
    Meets tree (here :: above) visit ∨
      ∃ next, Enters tree (here :: above) next ∧ visit ∈ enter next := by
  unfold visitEntry at member
  cases item with
  | file bytes =>
    dsimp only at member
    split at member
    · cases member
    · rename_i seen
      rw [List.mem_singleton] at member
      exact .inl (member ▸ .file lists (by simpa using seen))
  | folder =>
    dsimp only at member
    split at member
    · cases member
    · rename_i seen
      exact .inr ⟨_, .folder lists (by simpa using seen), member⟩
  | link target =>
    dsimp only at member
    split at member
    · rename_i leads
      rw [List.mem_singleton] at member
      exact .inl (member ▸ .broken lists leads)
    · rename_i location item leads
      split at member
      · rename_i folder
        rw [isFolder_iff] at folder
        subst folder
        split at member
        · rename_i passed
          rw [List.mem_singleton] at member
          exact .inl (member ▸ .loop lists leads passed)
        · rename_i new
          split at member
          · cases member
          · rename_i seen
            refine .inr ⟨_, .link lists leads ?_ (by simpa using seen), member⟩
            simpa using new
      · rename_i noFolder
        rw [isFolder_iff] at noFolder
        split at member
        · cases member
        · rename_i seen
          rw [List.mem_singleton] at member
          exact .inl (member ▸ .linked lists leads noFolder (by simpa using seen))

/-- The entry by which a folder is entered leads to nothing else. -/
theorem exists_visitEntry_eq {next : List Ancestor} (entered : Enters tree (here :: above) next) :
    ∃ name item, Lists tree here name item ∧
      ∀ enter, visitEntry tree enter (here :: above) here name item = enter next := by
  cases entered with
  | folder lists seen => exact ⟨_, _, lists, fun enter => by simp [visitEntry, seen]⟩
  | link lists leads new seen =>
    refine ⟨_, _, lists, fun enter => ?_⟩
    have none : (here :: above).find? (fun ancestor => ancestor.location == _) = none :=
      List.find?_eq_none.mpr fun ancestor member => by simpa using new ancestor member
    simp only [visitEntry, leads, Item.isFolder, if_true, none, seen]
    rfl

/-- What is met in a folder that can be opened is visited in one of its entries. -/
theorem exists_mem_visitEntry {found : Location × Item}
    (opened : tree.resolve here.path = .ok found) (met : Meets tree (here :: above) visit) :
    ∃ name item, Lists tree here name item ∧
      ∀ enter, visit ∈ visitEntry tree enter (here :: above) here name item := by
  cases met with
  | shut closed =>
    rw [opened] at closed
    contradiction
  | file lists seen => exact ⟨_, _, lists, fun enter => by simp [visitEntry, seen]⟩
  | linked lists leads noFolder seen =>
    exact ⟨_, _, lists, fun enter => by simp [visitEntry, leads, isFolder_iff, noFolder, seen]⟩
  | broken lists leads => exact ⟨_, _, lists, fun enter => by simp [visitEntry, leads]⟩
  | loop lists leads passed =>
    refine ⟨_, _, lists, fun enter => ?_⟩
    simp only [visitEntry, leads, Item.isFolder, if_true, passed, List.mem_singleton]

/-- A folder that cannot be opened is a fault of the walk. -/
theorem walkFrom_shut {error : FileError} (closed : tree.resolve here.path = .error error) :
    tree.walkFrom (fuel + 1) (here :: above) = [.fault (.file here.path error)] := by
  rw [walkFrom, closed]

/-- A folder that opens is walked child by child. -/
theorem walkFrom_open {found : Location × Item} (opened : tree.resolve here.path = .ok found) :
    tree.walkFrom (fuel + 1) (here :: above) =
      (tree.children here.location).flatMap fun child =>
        visitEntry tree (tree.walkFrom fuel) (here :: above) here child.1 child.2 := by
  rw [walkFrom, opened]

/-- What a walk comes upon in a folder is met there, or in a folder that it enters from there. -/
theorem mem_walkFrom_succ_iff :
    visit ∈ tree.walkFrom (fuel + 1) chain ↔
      Meets tree chain visit ∨
        ∃ next, Enters tree chain next ∧ visit ∈ tree.walkFrom fuel next := by
  cases chain with
  | nil =>
    constructor
    · intro member
      cases member
    · rintro (met | ⟨next, entered, -⟩)
      · cases met
      · cases entered
  | cons here above =>
    cases opened : tree.resolve here.path with
    | error e =>
      rw [walkFrom_shut opened, List.mem_singleton]
      have closed : ∀ name item, ¬ Lists tree here name item := by
        rintro name item ⟨⟨found, open'⟩, -⟩
        rw [opened] at open'
        contradiction
      constructor
      · rintro rfl
        exact .inl (.shut opened)
      · rintro (met | ⟨next, entered, -⟩)
        · cases met with
          | shut closed =>
            rw [opened, Except.error.injEq] at closed
            rw [closed]
          | file lists | linked lists | broken lists | loop lists => exact absurd lists (closed _ _)
        · cases entered with
          | folder lists | link lists => exact absurd lists (closed _ _)
    | ok found =>
      rw [walkFrom_open opened, List.mem_flatMap]
      constructor
      · rintro ⟨⟨name, item⟩, child, member⟩
        exact mem_visitEntry ⟨⟨found, opened⟩, child⟩ member
      · rintro (met | ⟨next, entered, member⟩)
        · obtain ⟨name, item, lists, visits⟩ := exists_mem_visitEntry opened met
          exact ⟨(name, item), lists.child, visits _⟩
        · obtain ⟨name, item, lists, visits⟩ := exists_visitEntry_eq entered
          exact ⟨(name, item), lists.child, (visits _).symm ▸ member⟩

end Folder

/-! ## The fuel suffices -/

/-- The most names that lead to an item. -/
def deepest (tree : FileTree) : Nat :=
  tree.items.foldl (fun depth entry => max depth entry.1.length) 0

/-- The locations at which there may be folders. -/
def places (tree : FileTree) : List Location := [] :: tree.items.map Prod.fst

/-- The number of places through which a walk has not come. -/
def fresh (tree : FileTree) (chain : List Ancestor) : Nat :=
  tree.places.countP fun place => decide (∀ ancestor ∈ chain, ancestor.location ≠ place)

/-- More than the number of folders that a walk can still enter one after the other. -/
def room (tree : FileTree) (chain : List Ancestor) : Nat :=
  tree.fresh chain * (tree.deepest + 2) +
    (tree.deepest + 1 - (chain.head?.map fun here => here.location.length).getD 0)

/-- No location is longer than the deepest one. -/
theorem length_le_deepest {entry : Location × Item} (member : entry ∈ tree.items) :
    entry.1.length ≤ tree.deepest := by
  have grows : ∀ (items : List (Location × Item)) (depth : Nat),
      depth ≤ items.foldl (fun depth entry => max depth entry.1.length) depth ∧
        ∀ entry ∈ items, entry.1.length ≤
          items.foldl (fun depth entry => max depth entry.1.length) depth := by
    intro items
    induction items with
    | nil => exact fun depth => ⟨le_refl _, nofun⟩
    | cons first rest ih =>
      intro depth
      obtain ⟨start, others⟩ := ih (max depth first.1.length)
      rw [List.foldl_cons]
      refine ⟨by omega, fun entry member => ?_⟩
      rcases List.mem_cons.mp member with rfl | member
      · omega
      · exact others entry member
  exact (grows tree.items 0).2 entry member

/-- One more ancestor leaves no more places fresh. -/
theorem countP_fresh_cons_le (here : Ancestor) (chain : List Ancestor) (places : List Location) :
    places.countP (fun place => decide (∀ ancestor ∈ here :: chain, ancestor.location ≠ place)) ≤
      places.countP fun place => decide (∀ ancestor ∈ chain, ancestor.location ≠ place) := by
  refine List.countP_mono_left fun place _ new => ?_
  simp only [List.mem_cons, forall_eq_or_imp, decide_eq_true_eq] at new ⊢
  exact new.2

/-- A new ancestor takes one fresh place. -/
theorem fresh_cons_lt {here : Ancestor} {chain : List Ancestor}
    (place : here.location ∈ tree.places)
    (new : ∀ ancestor ∈ chain, ancestor.location ≠ here.location) :
    tree.fresh (here :: chain) < tree.fresh chain := by
  obtain ⟨before, after, places⟩ := List.append_of_mem place
  have passed : ¬ ∀ ancestor ∈ here :: chain, ancestor.location ≠ here.location :=
    fun new => new here List.mem_cons_self rfl
  unfold fresh
  rw [places, List.countP_append, List.countP_append,
    List.countP_cons_of_neg (by rwa [decide_eq_true_eq]),
    List.countP_cons_of_pos (by simpa using new)]
  have first := countP_fresh_cons_le here chain before
  have second := countP_fresh_cons_le here chain after
  omega

/-- Where something is, there is a place. -/
theorem mem_places_of_item? {location : Location} {item : Item}
    (found : tree.item? location = some item) : location ∈ tree.places := by
  by_cases top : location = []
  · rw [top]
    exact List.mem_cons_self
  · exact List.mem_cons_of_mem _ (List.mem_map_of_mem (mem_items_of_item? top found))

/-- Entering a folder takes some of the room. -/
theorem room_lt_of_enters {chain next : List Ancestor} (entered : Enters tree chain next) :
    tree.room next < tree.room chain := by
  cases entered with
  | @folder here above name lists seen =>
    have deep := length_le_deepest (mem_children_iff.mp lists.child)
    have fewer : tree.fresh _ ≤ tree.fresh _ := countP_fresh_cons_le
      { location := here.location ++ [name], path := here.path.join ⟨name⟩ } (here :: above)
      tree.places
    have product := Nat.mul_le_mul_right (tree.deepest + 2) fewer
    unfold room
    simp only [List.head?_cons, Option.map_some, Option.getD_some, List.length_append,
      List.length_singleton] at deep ⊢
    omega
  | @link here above name target location lists leads new seen =>
    have found := (resolve_eq_ok_iff.mp leads).2.2
    have fewer : tree.fresh ({ location, path := here.path.join ⟨name⟩ } :: here :: above) <
        tree.fresh (here :: above) := fresh_cons_lt (mem_places_of_item? found) new
    have product := Nat.mul_le_mul_right (tree.deepest + 2) (Nat.succ_le_of_lt fewer)
    rw [Nat.succ_mul] at product
    unfold room
    omega

/-- A walk begins with more fuel than it needs. -/
theorem room_lt_depthBound (start : Ancestor) : tree.room [start] < tree.depthBound := by
  have bound : tree.depthBound = (tree.items.length + 2) * (tree.deepest + 2) := rfl
  have places : tree.places.length = tree.items.length + 1 := by simp [FileTree.places]
  have fewer : tree.fresh [start] ≤ tree.items.length + 1 := places ▸ List.countP_le_length
  have product := Nat.mul_le_mul_right (tree.deepest + 2) fewer
  unfold room
  rw [bound, Nat.succ_mul]
  omega

/-! ## Ways -/

/-- The folders through which a walk that begins at `start` can come, the nearest first. -/
inductive Way (tree : FileTree) (start : Ancestor) : List Ancestor → Prop
  /-- The walk begins. -/
  | start : Way tree start [start]
  /-- The walk enters one more folder. -/
  | enter {chain next : List Ancestor} (way : Way tree start chain)
      (entered : Enters tree chain next) :
      Way tree start next

/-- Every visit is met at the end of a way. -/
theorem exists_way_of_mem {start : Ancestor} {fuel : Nat} {chain : List Ancestor} {visit : Visit}
    (way : Way tree start chain) (member : visit ∈ tree.walkFrom fuel chain) :
    ∃ chain, Way tree start chain ∧ Meets tree chain visit := by
  induction fuel generalizing chain with
  | zero => cases member
  | succ fuel ih =>
    rcases mem_walkFrom_succ_iff.mp member with met | ⟨next, entered, member⟩
    · exact ⟨chain, way, met⟩
    · exact ih (.enter way entered) member

/-- What a way leads to is visited, as long as the fuel is more than the room. -/
theorem mem_walkFrom_of_way {start : Ancestor} {chain : List Ancestor} {visit : Visit}
    (way : Way tree start chain)
    (seen : ∀ fuel, tree.room chain < fuel → visit ∈ tree.walkFrom fuel chain) :
    ∀ fuel, tree.room [start] < fuel → visit ∈ tree.walkFrom fuel [start] := by
  induction way with
  | start => exact seen
  | enter way entered ih =>
    refine ih fun fuel enough => ?_
    cases fuel with
    | zero => exact absurd enough (Nat.not_lt_zero _)
    | succ fuel =>
      have less := room_lt_of_enters entered
      exact mem_walkFrom_succ_iff.mpr (.inr ⟨_, entered, seen fuel (by omega)⟩)

/-- A walk through a folder comes upon exactly what is met on the ways that begin there. -/
theorem mem_walk_iff {root : Path} {location : Location} {visit : Visit}
    (folder : tree.resolve root = .ok (location, .folder)) :
    visit ∈ tree.walk root ↔
      ∃ chain, Way tree { location, path := root } chain ∧ Meets tree chain visit := by
  rw [walk, folder]
  constructor
  · exact exists_way_of_mem .start
  · rintro ⟨chain, way, met⟩
    refine mem_walkFrom_of_way way (fun fuel enough => ?_) _ (room_lt_depthBound _)
    cases fuel with
    | zero => exact absurd enough (Nat.not_lt_zero _)
    | succ fuel => exact mem_walkFrom_succ_iff.mpr (.inl met)

end CatalogAudit.FileTree
