import CatalogAudit.Yaml.Token

/-!
# Nodes of a document

What a document says before the meaning of its scalars is settled: scalars, lists and mappings, with
their names and tags, and aliases that stand for a named node. Names are numbered in the order of
their first use; a name that is used again takes the next number, and so does the next new name. An
alias has the number that its name has when the alias is read, and means the last node of the
document with that number.
-/

namespace CatalogAudit.Yaml

/-- A node of a document. Tags are written out in full; a lone exclamation mark on a scalar is as
good as none. -/
inductive Node
  /-- A reference to a named node. -/
  | alias (name : Nat)
  /-- A scalar, with its name and its tag; `plain` when it is written without quotes and is no
  block. -/
  | scalar (name : Option Nat) (tag : Option (List Char)) (text : List Char) (plain : Bool)
  /-- A list. -/
  | sequence (name : Option Nat) (tag : Option (List Char)) (items : List Node)
  /-- A list of keys with their values. -/
  | mapping (name : Option Nat) (tag : Option (List Char)) (entries : List (Node × Node))

namespace Node

/-- A node of which nothing is written. -/
def empty : Node := .scalar none none [] true

/-- The name of a node that is not an alias. -/
def name? : Node → Option Nat
  | .alias _ => none
  | .scalar name _ _ _ => name
  | .sequence name _ _ => name
  | .mapping name _ _ => name

mutual

/-- The nodes that have a name, in the order of their beginnings. -/
def named (n : Node) : List (Nat × Node) :=
  let inner :=
    match n with
    | .alias _ => []
    | .scalar _ _ _ _ => []
    | .sequence _ _ items => namedItems items
    | .mapping _ _ entries => namedEntries entries
  match n.name? with
  | some name => (name, n) :: inner
  | none => inner

/-- The named nodes within the items of a list. -/
def namedItems : List Node → List (Nat × Node)
  | [] => []
  | item :: items => item.named ++ namedItems items

/-- The named nodes within the entries of a mapping. -/
def namedEntries : List (Node × Node) → List (Nat × Node)
  | [] => []
  | (key, value) :: entries => key.named ++ value.named ++ namedEntries entries

end

mutual

/-- Size of a node: one for a scalar or an alias, two and the sizes of its parts for a
collection. -/
def weight : Node → Nat
  | .alias _ => 1
  | .scalar _ _ _ _ => 1
  | .sequence _ _ items => 2 + weightOfItems items
  | .mapping _ _ entries => 2 + weightOfEntries entries

/-- Size of the items of a list together. -/
def weightOfItems : List Node → Nat
  | [] => 0
  | item :: items => item.weight + weightOfItems items

/-- Size of the entries of a mapping together. -/
def weightOfEntries : List (Node × Node) → Nat
  | [] => 0
  | (key, value) :: entries => key.weight + value.weight + weightOfEntries entries

end

end Node

end CatalogAudit.Yaml
