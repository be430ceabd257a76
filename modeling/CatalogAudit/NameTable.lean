import CatalogAudit.NameSet

/-!
# Tables by name

A table has one row for each of its names, and its rows ascend by name.
-/

namespace CatalogAudit

/-- A table whose rows are found by name. -/
structure NameTable (α : Type) where
  /-- The rows in ascending order of their names. -/
  rows : List (String × α)
  /-- Every name comes before the next. -/
  ascending : rows.Pairwise fun x y => x.1 < y.1
deriving DecidableEq

namespace NameTable

variable {α : Type}

/-- Rows with the one of a name changed, or with a new one put at its place. -/
def placeRow (name : String) (change : Option α → α) : List (String × α) → List (String × α)
  | [] => [(name, change none)]
  | row :: rest =>
    if name < row.1 then (name, change none) :: row :: rest
    else if name = row.1 then (row.1, change (some row.2)) :: rest
    else row :: placeRow name change rest

/-- A row that is placed brings in no name but its own. -/
theorem name_of_mem_placeRow {name : String} {change : Option α → α} {rows : List (String × α)}
    {row : String × α} (h : row ∈ placeRow name change rows) :
    row.1 = name ∨ ∃ old ∈ rows, old.1 = row.1 := by
  induction rows with
  | nil => simp_all [placeRow]
  | cons first rest ih =>
    unfold placeRow at h
    split at h
    · rcases List.mem_cons.mp h with rfl | h
      · exact .inl rfl
      · exact .inr ⟨row, h, rfl⟩
    · split at h
      · rcases List.mem_cons.mp h with rfl | h
        · exact .inr ⟨first, List.mem_cons_self, rfl⟩
        · exact .inr ⟨row, List.mem_cons_of_mem _ h, rfl⟩
      · rcases List.mem_cons.mp h with rfl | h
        · exact .inr ⟨row, List.mem_cons_self, rfl⟩
        · rcases ih h with same | ⟨old, member, same⟩
          · exact .inl same
          · exact .inr ⟨old, List.mem_cons_of_mem _ member, same⟩

/-- Placing a row keeps the names in order. -/
theorem ascending_placeRow {name : String} {change : Option α → α} {rows : List (String × α)}
    (h : rows.Pairwise fun x y => x.1 < y.1) :
    (placeRow name change rows).Pairwise fun x y => x.1 < y.1 := by
  induction rows with
  | nil => simp [placeRow]
  | cons first rest ih =>
    obtain ⟨below, above⟩ := List.pairwise_cons.mp h
    unfold placeRow
    split
    · rename_i before
      refine List.pairwise_cons.mpr ⟨fun row member => ?_, h⟩
      rcases List.mem_cons.mp member with rfl | member
      · exact before
      · exact String.lt_trans before (below row member)
    · split
      · exact List.pairwise_cons.mpr ⟨below, above⟩
      · rename_i notBefore different
        refine List.pairwise_cons.mpr ⟨fun row member => ?_, ih above⟩
        rcases name_of_mem_placeRow member with same | ⟨old, member, same⟩
        · rw [same]
          rcases Std.lt_trichotomy name first.1 with before | same | after
          · exact absurd before notBefore
          · exact absurd same different
          · exact after
        · rw [← same]
          exact below old member

/-- The table without rows. -/
def empty : NameTable α := ⟨[], .nil⟩

/-- The table with the row of a name changed; `change` is told what the row held, if there was
one. -/
def update (name : String) (change : Option α → α) (t : NameTable α) : NameTable α :=
  ⟨placeRow name change t.rows, ascending_placeRow t.ascending⟩

/-- The table of rows that are put in one after the other; of several rows with one name, the last
counts. -/
def ofRows (rows : List (String × α)) : NameTable α :=
  rows.foldl (fun t row => t.update row.1 fun _ => row.2) empty

/-- What the row of a name holds. -/
def get? (t : NameTable α) (name : String) : Option α := t.rows.lookup name

/-- The names in ascending order. -/
def names (t : NameTable α) : List String := t.rows.map (·.1)

/-- The names of a table ascend. -/
theorem ascending_names (t : NameTable α) : t.names.Pairwise (· < ·) :=
  List.pairwise_map.mpr t.ascending

/-- The set of the names. -/
def nameSet (t : NameTable α) : NameSet := ⟨t.names, t.ascending_names⟩

/-- Number of rows. -/
def size (t : NameTable α) : Nat := t.rows.length

/-- Whether there is no row. -/
def isEmpty (t : NameTable α) : Bool := t.rows.isEmpty

/-- The table of the rows that satisfy `p`. -/
def filter (p : String → α → Bool) (t : NameTable α) : NameTable α :=
  ⟨t.rows.filter fun row => p row.1 row.2, t.ascending.filter _⟩

/-- The table of the rows for which `f` gives something. -/
def filterMap {β : Type} (f : String → α → Option β) (t : NameTable α) : NameTable β :=
  ⟨t.rows.filterMap fun row => (f row.1 row.2).map fun b => (row.1, b), by
    refine List.Pairwise.filterMap _ ?_ t.ascending
    intro x y below b hb c hc
    obtain ⟨_, _, rfl⟩ := Option.map_eq_some_iff.mp hb
    obtain ⟨_, _, rfl⟩ := Option.map_eq_some_iff.mp hc
    exact below⟩

end NameTable

end CatalogAudit
