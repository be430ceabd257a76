/-!
# Sets of names

A set of strings, kept as a list that ascends by code points. Two sets with the same members are
therefore the same list.
-/

namespace CatalogAudit

/-- A set of names. -/
structure NameSet where
  /-- The members in ascending order. -/
  names : List String
  /-- Every member comes before the next. -/
  ascending : names.Pairwise (· < ·)
deriving DecidableEq

namespace NameSet

/-- A list with a name put at its place. -/
def place (name : String) : List String → List String
  | [] => [name]
  | x :: rest =>
    if name < x then name :: x :: rest
    else if name = x then x :: rest
    else x :: place name rest

/-- A name that is placed is among the names, and no other is new. -/
theorem mem_place {name x : String} {names : List String} :
    x ∈ place name names ↔ x = name ∨ x ∈ names := by
  induction names with
  | nil => simp [place]
  | cons y rest ih =>
    unfold place
    split
    · simp
    · split
      · simp_all
      · simp [ih, or_left_comm]

/-- Placing a name keeps the names in order. -/
theorem ascending_place {name : String} {names : List String} (h : names.Pairwise (· < ·)) :
    (place name names).Pairwise (· < ·) := by
  induction names with
  | nil => simp [place]
  | cons x rest ih =>
    obtain ⟨below, above⟩ := List.pairwise_cons.mp h
    unfold place
    split
    · rename_i before
      refine List.pairwise_cons.mpr ⟨fun y member => ?_, h⟩
      rcases List.mem_cons.mp member with rfl | member
      · exact before
      · exact String.lt_trans before (below y member)
    · split
      · exact h
      · rename_i notBefore different
        refine List.pairwise_cons.mpr ⟨fun y member => ?_, ih above⟩
        rcases mem_place.mp member with rfl | member
        · rcases Std.lt_trichotomy y x with before | same | after
          · exact absurd before notBefore
          · exact absurd same different
          · exact after
        · exact below y member

/-- The set without members. -/
def empty : NameSet := ⟨[], .nil⟩

/-- The set with one more member. -/
def insert (name : String) (s : NameSet) : NameSet :=
  ⟨place name s.names, ascending_place s.ascending⟩

/-- The set of the names in a list. -/
def ofList (names : List String) : NameSet := names.foldl (fun s name => s.insert name) empty

/-- The members of either set. -/
def union (s t : NameSet) : NameSet := t.names.foldl (fun s name => s.insert name) s

/-- The members that satisfy `p`. -/
def filter (p : String → Bool) (s : NameSet) : NameSet :=
  ⟨s.names.filter p, s.ascending.filter p⟩

/-- Number of members. -/
def size (s : NameSet) : Nat := s.names.length

/-- Whether there is no member. -/
def isEmpty (s : NameSet) : Bool := s.names.isEmpty

/-- Whether the name is a member. -/
def contains (s : NameSet) (name : String) : Bool := s.names.contains name

/-- The set with one more member has that one and those it had. -/
theorem mem_insert {name x : String} {s : NameSet} :
    x ∈ (s.insert name).names ↔ x = name ∨ x ∈ s.names := mem_place

/-- Names that are inserted one after the other are members, beside those there were. -/
theorem mem_foldl_insert {names : List String} {s : NameSet} {x : String} :
    x ∈ (names.foldl (fun s name => s.insert name) s).names ↔ x ∈ names ∨ x ∈ s.names := by
  induction names generalizing s with
  | nil => simp
  | cons name rest ih => simp [ih, mem_insert, or_left_comm, or_assoc]

/-- The members of the set of a list are those of the list. -/
theorem mem_ofList {names : List String} {x : String} : x ∈ (ofList names).names ↔ x ∈ names := by
  simp [ofList, mem_foldl_insert, empty]

/-- The members of a union are those of either set. -/
theorem mem_union {s t : NameSet} {x : String} :
    x ∈ (s.union t).names ↔ x ∈ t.names ∨ x ∈ s.names := mem_foldl_insert

end NameSet

end CatalogAudit
