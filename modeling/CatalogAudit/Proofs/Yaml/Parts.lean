import CatalogAudit.Yaml.Value.Resolution
import Mathlib.Data.List.Forall2

/-!
# What the parts of a node mean

A collection that means something means what its parts mean: a list has the values of its items one
by one, and a mapping has under each of its keys what belongs to that key. No two keys of a mapping
mean the same, so what is found under a name is the only thing that stands there.
-/

namespace CatalogAudit.Yaml

/-- A key that is a string is found with its value where no key comes twice. -/
theorem Value.field?_eq_some {fields : List (Value × Value)} {name : String} {v : Value}
    (distinct : fields.Pairwise fun x y => y.1.same x.1 = false)
    (mem : (.text name.toList, v) ∈ fields) : Value.field? fields name = some v := by
  induction fields with
  | nil => cases mem
  | cons first rest ih =>
    obtain ⟨fresh, distinct⟩ := List.pairwise_cons.mp distinct
    rw [Value.field?, List.find?_cons]
    cases named : first.1.isText name.toList with
    | false =>
      have other : (.text name.toList, v) ≠ first := by
        rintro rfl
        rw [Value.isText, beq_self_eq_true] at named
        cases named
      exact ih distinct ((List.mem_cons.mp mem).resolve_left other)
    | true =>
      obtain same | later := List.mem_cons.mp mem
      · rw [← same]
        rfl
      · -- The first key would be the same as the later one.
        have differs := fresh _ later
        unfold Value.isText at named
        split at named
        · rename_i text isKey
          rw [isKey, beq_iff_eq.mp named] at differs
          simp [Value.same] at differs
        · cases named

namespace Node

/-- In some place of a document the node means the value. -/
def MeansThere (meaning : Meaning) (n : Node) (v : Value) : Prop :=
  ∃ jumps later, meaning false n jumps = some (v, later)

section Parts

variable {meaning : Meaning} {jumps later : Nat}

/-- The values of a list are those of its items. -/
theorem exists_of_itemValues? {items : List Node} {before values : List Value}
    (means : itemValues? meaning before jumps items = some (values, later)) :
    ∃ more, values = before.reverse ++ more ∧ List.Forall₂ (MeansThere meaning) items more := by
  induction items generalizing before jumps with
  | nil =>
    obtain ⟨rfl, -⟩ := Prod.mk.inj (Option.some.inj means)
    exact ⟨[], (List.append_nil _).symm, .nil⟩
  | cons item items ih =>
    rw [itemValues?] at means
    split at means
    · cases means
    · rename_i value between first
      obtain ⟨more, rfl, rest⟩ := ih means
      refine ⟨value :: more, ?_, .cons ⟨_, _, first⟩ rest⟩
      rw [List.reverse_cons, List.append_assoc]
      rfl

/-- The keys and values of a mapping are those of its entries, and no key comes twice. -/
theorem exists_of_entryValues? {entries : List (Node × Node)} {before values : List (Value × Value)}
    (distinct : before.reverse.Pairwise fun x y => y.1.same x.1 = false)
    (means : entryValues? meaning false before jumps entries = some (values, later)) :
    ∃ more, values = before.reverse ++ more ∧
      (List.Forall₂ fun entry value =>
        MeansThere meaning entry.1 value.1 ∧ MeansThere meaning entry.2 value.2) entries more ∧
      values.Pairwise fun x y => y.1.same x.1 = false := by
  induction entries generalizing before jumps with
  | nil =>
    obtain ⟨rfl, -⟩ := Prod.mk.inj (Option.some.inj means)
    exact ⟨[], (List.append_nil _).symm, .nil, distinct⟩
  | cons entry entries ih =>
    rw [entryValues?] at means
    split at means
    · cases means
    · rename_i key between first
      split at means
      · cases means
      · rename_i fresh
        split at means
        · cases means
        · rename_i value after second
          have distinct : ((key, value) :: before).reverse.Pairwise
              fun x y => y.1.same x.1 = false := by
            rw [List.reverse_cons, List.pairwise_append]
            refine ⟨distinct, List.pairwise_singleton _ _, fun x mem y isKey => ?_⟩
            rw [List.mem_singleton.mp isKey]
            rw [Bool.not_eq_true, List.any_eq_false] at fresh
            simpa using fresh x (List.mem_reverse.mp mem)
          obtain ⟨more, rfl, rest, distinct⟩ := ih distinct means
          refine ⟨(key, value) :: more, ?_, .cons ⟨⟨_, _, first⟩, _, _, second⟩ rest, distinct⟩
          rw [List.reverse_cons, List.append_assoc]
          rfl

end Parts

/-- The text of a plain scalar without a tag. -/
def plain? : Node → Option (List Char)
  | .scalar _ none text true => some text
  | _ => none

/-- The items of a list without a tag. -/
def items? : Node → Option (List Node)
  | .sequence _ none items => some items
  | _ => none

/-- Whether the node is a scalar without a tag that has the text, in quotes or not. -/
def isText (text : List Char) : Node → Bool
  | .scalar _ none other _ => other == text
  | _ => false

/-- What belongs to a name in a mapping without a tag. -/
def field? (name : String) : Node → Option Node
  | .mapping _ none entries => (entries.find? fun entry => entry.1.isText name.toList).map (·.2)
  | _ => none

section Shapes

variable {aliases : Aliases} {depth : Nat} {n : Node} {v : Value}

/-- Where a scalar means something, its text does. -/
theorem scalarValue?_of_meansThere {name : Option Nat} {text : List Char} {plain : Bool}
    (means : MeansThere (value? aliases depth) (.scalar name none text plain) v) :
    scalarValue? none text plain = some v := by
  obtain ⟨jumps, later, means⟩ := means
  have split : value? aliases depth false (.scalar name none text plain) jumps =
      (scalarValue? none text plain).map fun value => (value, jumps) := by
    cases depth <;> rfl
  rw [split, Option.map_eq_some_iff] at means
  obtain ⟨value, means, same⟩ := means
  rw [means, (Prod.mk.inj same).1]

/-- A name that is a string, in quotes or not, means itself. -/
theorem eq_text_of_isText {name : List Char} (string : Plain.value? name = some (.text name))
    (isName : n.isText name = true) (means : MeansThere (value? aliases depth) n v) :
    v = .text name := by
  unfold isText at isName
  split at isName
  · rw [beq_iff_eq] at isName
    have means := scalarValue?_of_meansThere means
    rw [isName] at means
    unfold scalarValue? at means
    dsimp only at means
    split at means
    · exact Option.some.inj (means.symm.trans string)
    · exact (Option.some.inj means).symm
  · cases isName

/-- A plain scalar means what it spells. -/
theorem value?_of_plain? {text : List Char} (plain : n.plain? = some text)
    (means : MeansThere (value? aliases depth) n v) : Plain.value? text = some v := by
  unfold plain? at plain
  split at plain
  · rw [← Option.some.inj plain]
    exact scalarValue?_of_meansThere means
  · cases plain

/-- A list means the list of what its items mean. -/
theorem exists_of_items? {items : List Node} (list : n.items? = some items)
    (means : MeansThere (value? aliases depth) n v) :
    ∃ inner values, v = .sequence values ∧
      List.Forall₂ (MeansThere (value? aliases inner)) items values := by
  unfold items? at list
  split at list
  · obtain rfl := Option.some.inj list
    obtain ⟨jumps, later, means⟩ := means
    cases depth with
    | zero => cases means
    | succ inner =>
      obtain ⟨⟨values, after⟩, means, same⟩ := Option.map_eq_some_iff.mp means
      obtain ⟨_, rfl, parts⟩ := exists_of_itemValues? means
      exact ⟨inner, values, (Prod.mk.inj same).1.symm, parts⟩
  · cases list

/-- Under a name a mapping has what belongs to the name there. -/
theorem exists_of_field? {name : String} {part : Node}
    (string : Plain.value? name.toList = some (.text name.toList))
    (field : n.field? name = some part) (means : MeansThere (value? aliases depth) n v) :
    ∃ inner fields w, v = .mapping fields ∧ Value.field? fields name = some w ∧
      MeansThere (value? aliases inner) part w := by
  unfold field? at field
  split at field
  · obtain ⟨⟨key, part'⟩, found, rfl⟩ := Option.map_eq_some_iff.mp field
    obtain ⟨jumps, later, means⟩ := means
    cases depth with
    | zero => cases means
    | succ inner =>
      obtain ⟨⟨fields, after⟩, means, same⟩ := Option.map_eq_some_iff.mp means
      obtain ⟨_, rfl, parts, distinct⟩ := exists_of_entryValues? .nil means
      obtain ⟨i, isEntry⟩ := List.get_of_mem (List.mem_of_find?_eq_some found)
      have inside : i < fields.length := parts.length_eq ▸ i.2
      obtain ⟨keyMeans, partMeans⟩ := parts.get i.2 inside
      rw [isEntry] at keyMeans partMeans
      have isName : key.isText name.toList = true := by simpa using List.find?_some found
      have named := eq_text_of_isText string isName keyMeans
      refine ⟨inner, fields, (fields.get ⟨i, inside⟩).2, (Prod.mk.inj same).1.symm,
        Value.field?_eq_some distinct ?_, partMeans⟩
      rw [← named]
      exact List.get_mem fields ⟨i, inside⟩
  · cases field

end Shapes

end Node

end CatalogAudit.Yaml
