import CatalogAudit.NameTable

/-!
# Registrations

Which source files register which token. Registrations are recorded one by one or merged from other
registries; neither order nor repetition shows in the result. A token without any file is not in the
registry.
-/

namespace CatalogAudit

/-- The registered tokens with the paths of the files that register them. -/
structure Registry where
  /-- The paths by token. -/
  paths : NameTable NameSet
  /-- No token is without a path. -/
  filled : ∀ row ∈ paths.rows, row.2.names ≠ []

namespace Registry

/-- Placing a row that holds a path leaves no token without one. -/
theorem filled_placeRow {token : String} {change : Option NameSet → NameSet}
    {rows : List (String × NameSet)} (filled : ∀ row ∈ rows, row.2.names ≠ [])
    (fills : ∀ old, (change old).names ≠ []) :
    ∀ row ∈ NameTable.placeRow token change rows, row.2.names ≠ [] := by
  induction rows with
  | nil =>
    intro row member
    rw [NameTable.placeRow, List.mem_singleton] at member
    subst member
    exact fills none
  | cons first rest ih =>
    intro row member
    unfold NameTable.placeRow at member
    split at member
    · rcases List.mem_cons.mp member with rfl | member
      · exact fills none
      · exact filled row member
    · split at member
      · rcases List.mem_cons.mp member with rfl | member
        · exact fills _
        · exact filled row (List.mem_cons_of_mem _ member)
      · rcases List.mem_cons.mp member with rfl | member
        · exact filled row List.mem_cons_self
        · exact ih (fun row h => filled row (List.mem_cons_of_mem _ h)) row member

/-- A set to which a path was added has one. -/
theorem insert_names_ne_nil (path : String) (s : NameSet) : (s.insert path).names ≠ [] :=
  List.ne_nil_of_mem (NameSet.mem_insert.mpr (.inl rfl))

/-- A union with a set that has a path has one. -/
theorem union_names_ne_nil {s paths : NameSet} (some : paths.names ≠ []) :
    (s.union paths).names ≠ [] := by
  obtain ⟨path, member⟩ := List.exists_mem_of_ne_nil _ some
  exact List.ne_nil_of_mem (NameSet.mem_union.mpr (.inl member))

/-- The registry without tokens. -/
def empty : Registry := ⟨.empty, fun _ member => nomatch member⟩

/-- Records that a file registers a token. -/
def record (r : Registry) (token path : String) : Registry :=
  { paths := r.paths.update token fun old => (old.getD .empty).insert path
    filled := filled_placeRow r.filled fun _ => insert_names_ne_nil path _ }

/-- Records all registrations of a list. -/
def recordAll (r : Registry) (registrations : List (String × String)) : Registry :=
  registrations.foldl (fun r registration => r.record registration.1 registration.2) r

/-- Adds the paths of files that all register a token. -/
def addRow (r : Registry) (token : String) (paths : NameSet) (some : paths.names ≠ []) : Registry :=
  { paths := r.paths.update token fun old => (old.getD .empty).union paths
    filled := filled_placeRow r.filled fun _ => union_names_ne_nil some }

/-- Adds one row after the other. -/
def addRows (r : Registry) :
    (rows : List (String × NameSet)) → (∀ row ∈ rows, row.2.names ≠ []) → Registry
  | [], _ => r
  | row :: rest, filled =>
    (r.addRow row.1 row.2 (filled row List.mem_cons_self)).addRows rest fun other member =>
      filled other (List.mem_cons_of_mem _ member)

/-- The registrations of two registries together: the rows of the second are added to the first. -/
def merge (r s : Registry) : Registry := r.addRows s.paths.rows s.filled

/-- The registry of a list of registrations. -/
def ofList (registrations : List (String × String)) : Registry := empty.recordAll registrations

/-- The paths of the files that register a token. -/
def get? (r : Registry) (token : String) : Option NameSet := r.paths.get? token

/-- Whether some file registers the token. -/
def contains (r : Registry) (token : String) : Bool :=
  (r.get? token).any fun paths => !paths.isEmpty

/-- The tokens in ascending order. -/
def tokens (r : Registry) : List String := r.paths.names

/-- Number of tokens. -/
def size (r : Registry) : Nat := r.paths.size

/-- Whether there is no token. -/
def isEmpty (r : Registry) : Bool := r.paths.isEmpty

/-- The tokens that more than one file registers, with those files. -/
def duplicates (r : Registry) : NameTable NameSet :=
  r.paths.filter fun _ paths => decide (1 < paths.size)

end Registry

end CatalogAudit
