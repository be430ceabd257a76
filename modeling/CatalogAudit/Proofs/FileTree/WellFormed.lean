import CatalogAudit.Proofs.Path.Below
import Mathlib.Data.List.Nodup

/-!
# Well-formed file trees

In a file tree that a system can hold, no two entries stand at one location, every entry stands in a
folder, and its name is one that a folder can list. What stands at a location is then what the list
of items says, in whatever order it lists them.
-/

namespace CatalogAudit.FileTree

/-- What holds of every tree that a file system shows. -/
structure WellFormed (tree : FileTree) : Prop where
  /-- No location is listed twice. -/
  distinct : (tree.items.map Prod.fst).Nodup
  /-- Every name on the way to an entry can be a name. -/
  named : ∀ entry ∈ tree.items, ∀ name ∈ entry.1, Path.IsName name
  /-- No name is too long. -/
  short : ∀ entry ∈ tree.items, ∀ name ∈ entry.1, name.length ≤ nameLimit
  /-- Every entry stands in a folder. -/
  housed : ∀ entry ∈ tree.items, entry.1 ≠ [] ∧ tree.item? entry.1.dropLast = some .folder

instance (tree : FileTree) : Decidable tree.WellFormed :=
  decidable_of_iff
    ((tree.items.map Prod.fst).Nodup ∧ (∀ entry ∈ tree.items, ∀ name ∈ entry.1, Path.IsName name) ∧
      (∀ entry ∈ tree.items, ∀ name ∈ entry.1, name.length ≤ nameLimit) ∧
      ∀ entry ∈ tree.items, entry.1 ≠ [] ∧ tree.item? entry.1.dropLast = some .folder)
    ⟨fun ⟨distinct, named, short, housed⟩ => ⟨distinct, named, short, housed⟩,
      fun ⟨distinct, named, short, housed⟩ => ⟨distinct, named, short, housed⟩⟩

/-! ## Items -/

section Items

variable {tree other : FileTree} {location folder : Location} {name : Name} {item : Item}

/-- The root is a folder. -/
theorem item?_nil (tree : FileTree) : tree.item? [] = some .folder := rfl

/-- What is below the root is looked up. -/
theorem item?_of_ne_nil (h : location ≠ []) : tree.item? location = tree.items.lookup location := by
  rw [item?, if_neg (by simp [h])]

/-- What is found below the root is an item of the tree. -/
theorem mem_items_of_item? (h : location ≠ []) (found : tree.item? location = some item) :
    (location, item) ∈ tree.items := by
  rw [item?_of_ne_nil h, List.lookup_eq_some_iff] at found
  obtain ⟨before, after, items, -⟩ := found
  rw [items]
  exact List.mem_append_right _ List.mem_cons_self

/-- Of the entries that are kept, the same one is found. -/
theorem lookup_filter {α : Type} (keep : Location → Bool) {items : List (Location × α)}
    (location : Location) :
    (items.filter fun entry => keep entry.1).lookup location =
      if keep location then items.lookup location else none := by
  induction items with
  | nil => simp
  | cons entry items ih =>
    obtain ⟨place, item⟩ := entry
    rw [List.filter_cons]
    by_cases same : location = place
    · subst same
      by_cases kept : keep location <;> simp [kept, ih]
    · have other : (location == place) = false := by simpa using same
      by_cases kept : keep place <;> simp [kept, ih, List.lookup_cons, other]

/-- The children of a folder are the items one name below it. -/
theorem mem_children_iff :
    (name, item) ∈ tree.children folder ↔ (folder ++ [name], item) ∈ tree.items := by
  unfold children
  rw [List.mem_filterMap]
  constructor
  · rintro ⟨⟨location, found⟩, member, listed⟩
    cases last : location.getLast? with
    | none => simp [last] at listed
    | some own =>
      obtain ⟨front, rfl⟩ := List.getLast?_eq_some_iff.mp last
      simp only [List.getLast?_concat, List.dropLast_concat, Option.ite_none_right_eq_some,
        Option.some_inj, Prod.mk.injEq] at listed
      obtain ⟨rfl, rfl, rfl⟩ := listed
      exact member
  · intro member
    exact ⟨_, member, by simp⟩

/-- The entries of a folder are listed as the tree lists them. -/
theorem map_children_sublist (tree : FileTree) (folder : Location) :
    ((tree.children folder).map fun child => (folder ++ [child.1], child.2)).Sublist
      tree.items := by
  unfold children
  induction tree.items with
  | nil => exact .slnil
  | cons entry items ih =>
    obtain ⟨location, item⟩ := entry
    rw [List.filterMap_cons]
    split
    · exact ih.cons _
    · rename_i child listed
      cases last : location.getLast? with
      | none => simp [last] at listed
      | some own =>
        obtain ⟨front, rfl⟩ := List.getLast?_eq_some_iff.mp last
        simp only [List.getLast?_concat, List.dropLast_concat, Option.ite_none_right_eq_some,
          Option.some_inj] at listed
        obtain ⟨rfl, rfl⟩ := listed
        exact ih.cons_cons _

namespace WellFormed

/-- Among different locations each item is found at its own. -/
theorem lookup_eq_some_iff {items : List (Location × Item)}
    (distinct : (items.map Prod.fst).Nodup) :
    items.lookup location = some item ↔ (location, item) ∈ items := by
  rw [List.lookup_eq_some_iff]
  constructor
  · rintro ⟨before, after, rfl, -⟩
    exact List.mem_append_right _ List.mem_cons_self
  · intro member
    obtain ⟨before, after, rfl⟩ := List.append_of_mem member
    refine ⟨before, after, rfl, fun entry earlier => ?_⟩
    rw [List.map_append, List.nodup_append] at distinct
    have different := distinct.2.2 entry.1 (List.mem_map_of_mem earlier) location (by simp)
    simpa using Ne.symm different

/-- What stands at a location below the top is what is listed there. -/
theorem item?_eq_some_iff (wf : tree.WellFormed) (h : location ≠ []) :
    tree.item? location = some item ↔ (location, item) ∈ tree.items := by
  rw [item?_of_ne_nil h, lookup_eq_some_iff wf.distinct]

/-- The names and items in a folder are those that stand one step below it. -/
theorem mem_children_iff (wf : tree.WellFormed) :
    (name, item) ∈ tree.children folder ↔ tree.item? (folder ++ [name]) = some item := by
  rw [FileTree.mem_children_iff, wf.item?_eq_some_iff (by simp)]

/-- No folder lists a name twice. -/
theorem nodup_names (wf : tree.WellFormed) (folder : Location) :
    ((tree.children folder).map Prod.fst).Nodup := by
  have distinct := wf.distinct.sublist ((map_children_sublist tree folder).map Prod.fst)
  rw [List.map_map] at distinct
  refine List.Nodup.of_map (fun name => folder ++ [name]) ?_
  rw [List.map_map]
  exact distinct

/-- An entry has the name of an entry. -/
theorem isName (wf : tree.WellFormed) (found : tree.item? location = some item) :
    ∀ name ∈ location, Path.IsName name := by
  intro name member
  have h : location ≠ [] := List.ne_nil_of_mem member
  exact wf.named _ (mem_items_of_item? h found) name member

/-- A child has a name. -/
theorem isName_of_child (wf : tree.WellFormed) (child : (name, item) ∈ tree.children folder) :
    Path.IsName name :=
  wf.named _ (FileTree.mem_children_iff.mp child) name (by simp)

/-- A child has no name that is too long. -/
theorem short_of_child (wf : tree.WellFormed) (child : (name, item) ∈ tree.children folder) :
    name.length ≤ nameLimit :=
  wf.short _ (FileTree.mem_children_iff.mp child) name (by simp)

/-- An entry of a folder stands in a folder. -/
theorem item?_folder (wf : tree.WellFormed) (child : (name, item) ∈ tree.children folder) :
    tree.item? folder = some .folder := by
  have house := (wf.housed _ (FileTree.mem_children_iff.mp child)).2
  rwa [List.dropLast_concat] at house

end WellFormed

end Items

end CatalogAudit.FileTree
