import CatalogAudit.Proofs.Path.Below

/-!
# How reports show what lies below a root

However a root is written, and however a relative path goes down from it along names, reports show
the path by the root's own name and those names, with slashes between them. A root that ends at the
top of the file tree, or at a dot that stands alone, has no name to show. What is shown is never
absolute, and it tells the names: under one root, paths that go different ways are shown
differently.
-/

namespace CatalogAudit.Path

/-- A path goes down along names, at least one, and nowhere else. -/
structure LeadsDown (rel : Path) (names : List Name) : Prop where
  /-- It goes somewhere. -/
  filled : names ≠ []
  /-- Every step goes down. -/
  steps : rel.steps = names.map Step.down

variable {root rel : Path} {name : Name} {names : List Name}

/-- What a path goes down by is a name. -/
theorem isName_of_mem_steps {p : Path} (member : .down name ∈ p.steps) : IsName name := by
  rw [steps_eq, List.mem_append, List.mem_map] at member
  rcases member with first | ⟨piece, solid, step⟩
  · unfold origin at first
    split at first
    · cases List.mem_singleton.mp first
    · split at first
      · cases List.mem_singleton.mp first
      · cases first
  · obtain ⟨cut, busy⟩ := List.mem_filter.mp solid
    unfold stepOf at step
    split at step
    · cases step
    · rename_i notUp
      cases step
      exact ⟨not_mem_of_mem_pieces cut, by simpa using busy, notUp⟩

namespace LeadsDown

/-- What leads down are names. -/
theorem isName (down : LeadsDown rel names) : ∀ name ∈ names, IsName name := by
  intro name member
  refine isName_of_mem_steps (p := rel) ?_
  rw [down.steps]
  exact List.mem_map_of_mem member

/-- A path that begins at the top does not go down only. -/
theorem relative (down : LeadsDown rel names) : rel.isAbsolute = false := by
  rw [Bool.eq_false_iff]
  intro absolute
  have steps := down.steps
  rw [steps_eq, origin, if_pos absolute] at steps
  cases names with
  | nil => cases steps
  | cons name names => exact Step.noConfusion (List.cons.inj steps).1

/-- Neither does a path that begins with a dot. -/
theorem moving (down : LeadsDown rel names) : rel.startsHere = false := by
  rw [Bool.eq_false_iff]
  intro here
  have steps := down.steps
  rw [steps_eq, origin, if_neg (by simp [down.relative]), if_pos here] at steps
  cases names with
  | nil => cases steps
  | cons name names => exact Step.noConfusion (List.cons.inj steps).1

/-- A root and a path down from it are shown by the root's own name and the names. -/
theorem display_join (down : LeadsDown rel names) :
    (root.join rel).display root =
      ['/'].intercalate ((root.shownName ++ names).map Text.decode) := by
  refine display_of_steps ?_
  rw [steps_join_of_relative down.relative down.moving, down.steps]

/-- What is shown between slashes are the root's own name and the names. -/
theorem splitOn_display_join (down : LeadsDown rel names) :
    ((root.join rel).display root).splitOn '/' = (root.shownName ++ names).map Text.decode := by
  rw [down.display_join]
  exact List.splitOn_intercalate '/' (fun text member => (full_of_mem_shown down.isName member).2)
    (by simp [down.filled])

end LeadsDown

end CatalogAudit.Path
