import CatalogAudit.Registry
import Mathlib.Data.Finset.Card
import Mathlib.Data.List.Sort

/-!
# Members of name sets, tables and registries

A name set is determined by its members, a table is looked up row by row, and a registry holds a
path under a token exactly when that registration was recorded. The order of recording and its
repetitions leave no trace.
-/

namespace CatalogAudit

namespace NameSet

/-- Two sets with the same members are the same. -/
theorem eq_of_mem_iff {s t : NameSet} (h : ∀ x, x ∈ s.names ↔ x ∈ t.names) : s = t := by
  have same : s.names = t.names := s.ascending.eq_of_mem_iff t.ascending h
  cases s
  cases t
  simp_all

/-- No name stands in a set twice. -/
theorem nodup (s : NameSet) : s.names.Nodup :=
  s.ascending.imp fun below => String.ne_of_lt below

/-- A set has as many members as the finite set of its names. -/
theorem size_eq_card (s : NameSet) : s.size = s.names.toFinset.card :=
  (List.toFinset_card_of_nodup s.nodup).symm

/-- A set is empty when it has no members. -/
theorem isEmpty_iff {s : NameSet} : s.isEmpty = true ↔ ∀ x, x ∉ s.names := by
  unfold isEmpty
  rw [List.isEmpty_iff, List.eq_nil_iff_forall_not_mem]

/-- Filtering a set keeps the members that satisfy the condition. -/
theorem mem_filter {p : String → Bool} {s : NameSet} {x : String} :
    x ∈ (s.filter p).names ↔ x ∈ s.names ∧ p x = true := List.mem_filter

/-- A set has at least two members exactly when two of them are different. -/
theorem one_lt_size_iff {s : NameSet} :
    1 < s.size ↔ ∃ x ∈ s.names, ∃ y ∈ s.names, x ≠ y := by
  rw [size_eq_card, Finset.one_lt_card]
  simp

end NameSet

namespace NameTable

variable {α β : Type}

/-- The first row counts when it has the name, and else the rest does. -/
theorem lookup_row (row : String × α) (rest : List (String × α)) (name : String) :
    (row :: rest).lookup name = if name = row.1 then some row.2 else rest.lookup name := by
  rw [List.lookup_cons]
  by_cases same : name = row.1
  · simp [same]
  · rw [if_neg same, beq_false_of_ne same]

/-- Among ascending names each row is found by its name. -/
theorem lookup_eq_some_iff_mem {rows : List (String × α)} {name : String} {a : α}
    (h : rows.Pairwise fun x y => x.1 < y.1) : rows.lookup name = some a ↔ (name, a) ∈ rows := by
  induction rows with
  | nil => simp
  | cons row rest ih =>
    obtain ⟨below, above⟩ := List.pairwise_cons.mp h
    rw [lookup_row, List.mem_cons]
    by_cases same : name = row.1
    · have absent : (name, a) ∉ rest := fun member =>
        String.ne_of_lt (below _ member) same.symm
      rw [if_pos same, or_iff_left absent, Option.some_inj, Prod.ext_iff]
      exact ⟨fun h => ⟨same, h.symm⟩, fun h => h.2.symm⟩
    · have other : (name, a) ≠ row := fun h => same (congrArg Prod.fst h)
      rw [if_neg same, ih above, or_iff_right other]

/-- A name is looked up as `a` exactly when `a` stands in its row. -/
theorem get?_eq_some_iff {t : NameTable α} {name : String} {a : α} :
    t.get? name = some a ↔ (name, a) ∈ t.rows := lookup_eq_some_iff_mem t.ascending

/-- The names of a table are those under which something is found. -/
theorem mem_names_iff {t : NameTable α} {name : String} :
    name ∈ t.names ↔ (t.get? name).isSome = true := by
  rw [Option.isSome_iff_exists]
  simp only [get?_eq_some_iff, names, List.mem_map, Prod.exists, exists_and_right, exists_eq_right]

/-- A row that is placed changes what is found under its name, and nothing else. -/
theorem lookup_placeRow {name other : String} {change : Option α → α} {rows : List (String × α)}
    (h : rows.Pairwise fun x y => x.1 < y.1) :
    (placeRow name change rows).lookup other =
      if other = name then some (change (rows.lookup name)) else rows.lookup other := by
  induction rows with
  | nil => exact lookup_row (name, change none) [] other
  | cons row rest ih =>
    obtain ⟨below, above⟩ := List.pairwise_cons.mp h
    unfold placeRow
    by_cases before : name < row.1
    · have absent : (row :: rest).lookup name = none := by
        rw [List.lookup_eq_none_iff]
        intro later member
        rcases List.mem_cons.mp member with rfl | member
        · simpa using String.ne_of_lt before
        · simpa using String.ne_of_lt (String.lt_trans before (below _ member))
      rw [if_pos before, lookup_row, absent]
    · rw [if_neg before]
      by_cases same : name = row.1
      · rw [if_pos same, lookup_row, lookup_row, lookup_row, same]
        by_cases found : other = row.1 <;> simp [found]
      · rw [if_neg same, lookup_row, ih above, lookup_row, lookup_row, if_neg same]
        by_cases found : other = name
        · simp [found, same]
        · simp [found]

/-- Changing the row of a name changes what that name is looked up as, and nothing else. -/
theorem get?_update {name other : String} {change : Option α → α} {t : NameTable α} :
    (t.update name change).get? other =
      if other = name then some (change (t.get? name)) else t.get? other :=
  lookup_placeRow t.ascending

/-- A table of rows is looked up from the last of them on. -/
theorem get?_ofRows {rows : List (String × α)} {name : String} :
    (ofRows rows).get? name = rows.reverse.lookup name := by
  have looked : ∀ t : NameTable α, (rows.foldl (fun t row => t.update row.1 fun _ => row.2) t).get?
      name = (rows.reverse.lookup name).or (t.get? name) := by
    induction rows with
    | nil => exact fun t => rfl
    | cons row rest ih =>
      intro t
      rw [List.foldl_cons, ih, get?_update, List.reverse_cons, List.lookup_append, Option.or_assoc,
        lookup_row]
      by_cases same : name = row.1 <;> simp [same]
  exact (looked empty).trans Option.or_none

/-- A table made of rows has their names. -/
theorem mem_names_ofRows {rows : List (String × α)} {name : String} :
    name ∈ (ofRows rows).names ↔ name ∈ rows.map (·.1) := by
  rw [mem_names_iff, get?_ofRows, List.lookup_isSome_iff]
  simp only [List.mem_reverse, List.mem_map, beq_iff_eq]
  exact exists_congr fun row => and_congr_right fun _ => eq_comm

/-- A row of a table of rows is one of them. -/
theorem mem_of_mem_rows_ofRows {rows : List (String × α)} {row : String × α}
    (member : row ∈ (ofRows rows).rows) : row ∈ rows := by
  have found : (ofRows rows).get? row.1 = some row.2 := get?_eq_some_iff.mpr member
  rw [get?_ofRows, List.lookup_eq_some_iff] at found
  obtain ⟨before, after, split, -⟩ := found
  rw [← List.mem_reverse, split]
  exact List.mem_append_right _ List.mem_cons_self

/-- A table of the rows that satisfy `p` is looked up through `p`. -/
theorem get?_filter {p : String → α → Bool} {t : NameTable α} {name : String} :
    (t.filter p).get? name = (t.get? name).filter (p name) := by
  apply Option.ext
  intro a
  rw [get?_eq_some_iff, Option.filter_eq_some_iff, get?_eq_some_iff]
  exact List.mem_filter

/-- A table of the rows for which `f` gives something is looked up through `f`. -/
theorem get?_filterMap {f : String → α → Option β} {t : NameTable α} {name : String} :
    (t.filterMap f).get? name = (t.get? name).bind (f name) := by
  apply Option.ext
  intro b
  rw [get?_eq_some_iff, Option.bind_eq_some_iff]
  simp only [filterMap, List.mem_filterMap, Option.map_eq_some_iff, Prod.mk.injEq, Prod.exists,
    get?_eq_some_iff]
  constructor
  · rintro ⟨_, a, member, _, given, rfl, rfl⟩
    exact ⟨a, member, given⟩
  · rintro ⟨a, member, given⟩
    exact ⟨name, a, member, b, given, rfl, rfl⟩

/-- A table has no rows exactly when no name is looked up as anything. -/
theorem isEmpty_iff {t : NameTable α} : t.isEmpty = true ↔ ∀ name, t.get? name = none := by
  unfold isEmpty
  rw [List.isEmpty_iff, List.eq_nil_iff_forall_not_mem]
  constructor
  · intro absent name
    rw [Option.eq_none_iff_forall_ne_some]
    exact fun a found => absent _ (get?_eq_some_iff.mp found)
  · intro absent row member
    have found : t.get? row.1 = some row.2 := get?_eq_some_iff.mpr member
    rw [absent] at found
    contradiction

end NameTable

namespace Registry

/-- The paths of the files that register a token, none when it is not registered. -/
def pathsOf (r : Registry) (token : String) : NameSet := (r.get? token).getD .empty

/-- Nothing is recorded in an empty registry. -/
theorem mem_pathsOf_empty {token path : String} : path ∉ (empty.pathsOf token).names :=
  List.not_mem_nil

/-- Recording a registration adds exactly that one. -/
theorem mem_pathsOf_record {r : Registry} {token path other p : String} :
    p ∈ ((r.record token path).pathsOf other).names ↔
      (other = token ∧ p = path) ∨ p ∈ (r.pathsOf other).names := by
  have looked : (r.record token path).get? other =
      if other = token then some ((r.pathsOf token).insert path) else r.get? other :=
    NameTable.get?_update
  unfold pathsOf at looked ⊢
  rw [looked]
  by_cases same : other = token
  · subst same
    simp [NameSet.mem_insert]
  · simp [same]

/-- After registrations were recorded, a path is there when it was one of them or there before. -/
theorem mem_pathsOf_recordAll {r : Registry} {registrations : List (String × String)}
    {token p : String} :
    p ∈ ((r.recordAll registrations).pathsOf token).names ↔
      (token, p) ∈ registrations ∨ p ∈ (r.pathsOf token).names := by
  unfold recordAll
  induction registrations generalizing r with
  | nil => simp
  | cons first rest ih =>
    rw [List.foldl_cons, ih, mem_pathsOf_record, List.mem_cons, Prod.ext_iff, ← or_assoc,
      or_comm (a := (token, p) ∈ rest)]

/-- A registry of a list holds exactly the registrations in the list. -/
theorem mem_pathsOf_ofList {registrations : List (String × String)} {token p : String} :
    p ∈ ((ofList registrations).pathsOf token).names ↔ (token, p) ∈ registrations := by
  unfold ofList
  rw [mem_pathsOf_recordAll, or_iff_left mem_pathsOf_empty]

/-- A registry has no row for a token without paths. -/
theorem get?_eq_ite {r : Registry} {token : String} :
    r.get? token = if (r.pathsOf token).isEmpty then none else some (r.pathsOf token) := by
  unfold pathsOf
  cases found : r.get? token with
  | none => rfl
  | some paths =>
    have filled : paths.names ≠ [] := r.filled _ (NameTable.get?_eq_some_iff.mp found)
    rw [Option.getD_some, if_neg]
    rwa [NameSet.isEmpty, List.isEmpty_iff]

/-- A token is in the registry exactly when it has a row. -/
theorem contains_eq (r : Registry) (token : String) : r.contains token = (r.get? token).isSome := by
  unfold contains
  rw [get?_eq_ite]
  by_cases none : (r.pathsOf token).isEmpty = true
  · rw [if_pos none]
    rfl
  · rw [if_neg none, Option.any_some, Option.isSome_some, Bool.not_eq_true']
    exact Bool.eq_false_iff.mpr none

/-- A registry contains a token for which a path is recorded. -/
theorem contains_iff {r : Registry} {token : String} :
    r.contains token = true ↔ ∃ p, p ∈ (r.pathsOf token).names := by
  rw [contains_eq, get?_eq_ite]
  by_cases none : (r.pathsOf token).isEmpty = true
  · have absent := NameSet.isEmpty_iff.mp none
    simp [none, absent]
  · have present := none
    rw [NameSet.isEmpty_iff, not_forall_not] at present
    simp [none, present]

/-- The tokens of a registry are those that it contains. -/
theorem mem_tokens_iff {r : Registry} {token : String} :
    token ∈ r.tokens ↔ r.contains token = true := by
  rw [contains_eq]
  exact NameTable.mem_names_iff

/-- The duplicates of a registry are the tokens with two paths or more. -/
theorem get?_duplicates {r : Registry} {token : String} :
    r.duplicates.get? token =
      if 1 < (r.pathsOf token).size then some (r.pathsOf token) else none := by
  unfold duplicates
  rw [NameTable.get?_filter]
  change (r.get? token).filter _ = _
  rw [get?_eq_ite]
  by_cases none : (r.pathsOf token).isEmpty = true
  · have small : ¬ 1 < (r.pathsOf token).size := by
      rw [NameSet.isEmpty, List.isEmpty_iff] at none
      simp [NameSet.size, none]
    rw [if_pos none, if_neg small, Option.filter_none]
  · simp only [if_neg none, Option.filter_some, decide_eq_true_eq]

end Registry

end CatalogAudit
