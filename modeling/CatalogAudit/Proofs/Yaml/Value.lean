import CatalogAudit.Yaml.Value.Resolution
import Mathlib.Data.List.Basic

/-!
# What nodes mean

The meaning of nodes without names and tags: scalars by their text, lists by their items, and
mappings by their entries, the keys of which differ. Nothing in them is an alias, so that no limit
on aliases counts.
-/

namespace CatalogAudit.Yaml.Node

/-- Within some levels the node means the value, and no alias is followed for that. -/
def Means (depth : Nat) (n : Node) (v : Value) : Prop :=
  ∀ (aliases : Aliases) (jumps : Nat), value? aliases depth false n jumps = some (v, jumps)

section Levels

variable (aliases : Aliases) (depth jumps : Nat)

/-- A scalar without tag and anchor has the value of its text. -/
theorem value?_scalar (text : List Char) (plain : Bool) :
    value? aliases depth false (.scalar none none text plain) jumps
      = (scalarValue? none text plain).map fun value => (value, jumps) := by
  cases depth <;> rfl

/-- A sequence has the values of its items. -/
theorem value?_sequence (items : List Node) :
    value? aliases (depth + 1) false (.sequence none none items) jumps
      = (itemValues? (value? aliases depth) [] jumps items).map fun (values, jumps) =>
          (.sequence values, jumps) := rfl

/-- A mapping has the values of its entries. -/
theorem value?_mapping (entries : List (Node × Node)) :
    value? aliases (depth + 1) false (.mapping none none entries) jumps
      = (entryValues? (value? aliases depth) false [] jumps entries).map fun (values, jumps) =>
          (.mapping values, jumps) := rfl

end Levels

/-- A scalar means its value at every depth. -/
theorem means_scalar {text : List Char} {plain : Bool} {v : Value}
    (means : scalarValue? none text plain = some v) (depth : Nat) :
    Means depth (.scalar none none text plain) v := by
  intro aliases jumps
  rw [value?_scalar, means, Option.map_some]

/-- An empty node means the null value. -/
theorem means_empty (depth : Nat) : Means depth .empty .null := means_scalar rfl depth

section Items

variable {α : Type} {items : List α}

/-- Items that mean values make a list of them. -/
theorem itemValues?_items (meaning : Meaning) {node : α → Node} {value : α → Value} {jumps : Nat}
    (each : ∀ item ∈ items, meaning false (node item) jumps = some (value item, jumps))
    (before : List Value) :
    itemValues? meaning before jumps (items.map node)
      = some (before.reverse ++ items.map value, jumps) := by
  induction items generalizing before with
  | nil => simp [itemValues?]
  | cons item items ih =>
    rw [List.forall_mem_cons] at each
    rw [List.map_cons, itemValues?, each.1]
    simp only
    rw [ih each.2]
    simp

/-- A list means the list of what its items mean. -/
theorem means_sequence {depth : Nat} {node : α → Node} {value : α → Value}
    (each : ∀ item ∈ items, Means depth (node item) (value item)) :
    Means (depth + 1) (.sequence none none (items.map node)) (.sequence (items.map value)) := by
  intro aliases jumps
  have read := itemValues?_items (value? aliases depth)
    (fun item mem => each item mem aliases jumps) []
  rw [value?_sequence, read, List.reverse_nil, List.nil_append, Option.map_some]

/-- Entries that mean values, under different keys, make a mapping of them. -/
theorem entryValues?_entries (meaning : Meaning) {node : α → Node × Node}
    {value : α → Value × Value} {jumps : Nat}
    (each : ∀ item ∈ items, meaning false (node item).1 jumps = some ((value item).1, jumps) ∧
      meaning false (node item).2 jumps = some ((value item).2, jumps))
    (distinct : (items.map value).Pairwise fun x y => y.1.same x.1 = false)
    (before : List (Value × Value))
    (fresh : ∀ item ∈ items, ∀ entry ∈ before, (value item).1.same entry.1 = false) :
    entryValues? meaning false before jumps (items.map node)
      = some (before.reverse ++ items.map value, jumps) := by
  induction items generalizing before with
  | nil => simp [entryValues?]
  | cons item items ih =>
    rw [List.forall_mem_cons] at each fresh
    rw [List.map_cons, List.pairwise_cons] at distinct
    have unseen : (before.any fun entry => (value item).1.same entry.1) = false := by
      rw [List.any_eq_false]
      intro entry mem
      rw [fresh.1 entry mem]
      exact Bool.false_ne_true
    have later : ∀ other ∈ items, ∀ entry ∈ value item :: before,
        (value other).1.same entry.1 = false := by
      intro other mem
      rw [List.forall_mem_cons]
      exact ⟨distinct.1 _ (List.mem_map_of_mem mem), fresh.2 other mem⟩
    rw [List.map_cons, entryValues?, each.1.1]
    simp only [unseen, Bool.false_eq_true, if_false, each.1.2]
    rw [ih each.2 distinct.2 _ later]
    simp

/-- A mapping whose keys mean different values means what its entries mean. -/
theorem means_mapping {depth : Nat} {node : α → Node × Node} {value : α → Value × Value}
    (each : ∀ item ∈ items,
      Means depth (node item).1 (value item).1 ∧ Means depth (node item).2 (value item).2)
    (distinct : (items.map value).Pairwise fun x y => y.1.same x.1 = false) :
    Means (depth + 1) (.mapping none none (items.map node)) (.mapping (items.map value)) := by
  intro aliases jumps
  have read := entryValues?_entries (value? aliases depth)
    (fun item mem => ⟨(each item mem).1 aliases jumps, (each item mem).2 aliases jumps⟩) distinct []
    (fun item _ entry absent => absurd absent List.not_mem_nil)
  rw [value?_mapping, read, List.reverse_nil, List.nil_append, Option.map_some]

end Items

end CatalogAudit.Yaml.Node
