import CatalogAudit.Yaml.Node.Reader
import CatalogAudit.Yaml.Token.Reader
import CatalogAudit.Yaml.Value.Plain

/-!
# The value of a document

Nodes become values: plain scalars by their spelling, scalars with a tag of the standard as that tag
demands, and aliases by the node that they stand for. A local tag, one that begins with an
exclamation mark, is kept with the value. No mapping has the same key twice. Collections are nested
at most 128 deep, and aliases are followed at most a hundred times as often as the document has
parts, so that no document takes for ever.
-/

namespace CatalogAudit.Yaml

namespace Tag

/-- The name of a local tag. -/
def localName? (tag : List Char) : Option (List Char) :=
  let bare (text : List Char) : List Char :=
    match text with
    | '!' :: c :: rest => c :: rest
    | _ => text
  match tag with
  | '!' :: _ => some (bare (bare tag))
  | _ => none

/-- A tag of the standard. -/
def standard (name : String) : List Char := "tag:yaml.org,2002:".toList ++ name.toList

end Tag

namespace Node

/-- The most levels to which collections are nested. -/
def depthLimit : Nat := 128

/-- The meaning of a scalar; its local tag, if any, has been dealt with or does not count. -/
def scalarValue? (tag : Option (List Char)) (text : List Char) (plain : Bool) : Option Value :=
  let untagged : Option Value := if plain then Plain.value? text else some (.text text)
  match tag with
  | none => untagged
  | some tag =>
    if tag = Tag.standard "bool" then (Plain.truth? text).map .boolean
    else if tag = Tag.standard "int" then Plain.wholeOnly? text
    else if tag = Tag.standard "float" then (Plain.double? text).map .number
    else if tag = Tag.standard "null" then
      if Plain.isNullWord text then some .null else none
    else some (.text text)

/-- What aliases stand for. -/
structure Aliases where
  /-- The named nodes, last first. -/
  nodes : List (Nat × Node)
  /-- How often aliases may be followed. -/
  limit : Nat

/-- The meaning of the parts of a collection: whether local tags are left out of account, the part,
and how many aliases were followed before; the result comes with that number afterwards. -/
abbrev Meaning := (untagged : Bool) → Node → (jumps : Nat) → Option (Value × Nat)

/-- The meaning of the items of a list after `values`, which are backwards. -/
def itemValues? (meaning : Meaning) (values : List Value) (jumps : Nat) :
    List Node → Option (List Value × Nat)
  | [] => some (values.reverse, jumps)
  | item :: items =>
    match meaning false item jumps with
    | none => none
    | some (value, jumps) => itemValues? meaning (value :: values) jumps items

/-- The meaning of the entries of a mapping after `values`, which are backwards. A repeated key is
refused before its value is looked at. -/
def entryValues? (meaning : Meaning) (untagged : Bool) (values : List (Value × Value))
    (jumps : Nat) : List (Node × Node) → Option (List (Value × Value) × Nat)
  | [] => some (values.reverse, jumps)
  | (key, value) :: entries =>
    match meaning untagged key jumps with
    | none => none
    | some (key, jumps) =>
      if values.any fun entry => key.same entry.1 then none
      else
        match meaning false value jumps with
        | none => none
        | some (value, jumps) =>
          entryValues? meaning untagged ((key, value) :: values) jumps entries

/-- The meaning of a node that is no alias. `meaning` is that of its parts; there is none where no
deeper level is allowed. -/
def contentValue? (meaning : Option Meaning) : Meaning := fun untagged node jumps =>
  let tag :=
    match node with
    | .alias _ => none
    | .scalar _ tag _ _ => tag
    | .sequence _ tag _ => tag
    | .mapping _ tag _ => tag
  let name := if untagged then none else tag.bind Tag.localName?
  let untagged := untagged || name.isSome
  let content : Option (Value × Nat) :=
    match node, meaning with
    | .alias _, _ => none
    | .scalar _ tag text plain, _ =>
      (scalarValue? (if untagged then none else tag) text plain).map fun value => (value, jumps)
    | .sequence _ _ items, some meaning =>
      (itemValues? meaning [] jumps items).map fun (values, jumps) => (.sequence values, jumps)
    | .mapping _ _ entries, some meaning =>
      (entryValues? meaning untagged [] jumps entries).map fun (values, jumps) =>
        (.mapping values, jumps)
    | _, none => none
  match name with
  | some name => content.map fun (value, jumps) => (.tagged name value, jumps)
  | none => content

/-- The meaning of a node, an alias or not, when `meaning` is that of its parts. -/
def followed? (aliases : Aliases) (meaning : Option Meaning) : Meaning :=
  fun untagged node jumps =>
    match node with
    | .alias name =>
      if jumps < aliases.limit then
        match aliases.nodes.lookup name with
        | none => none
        | some target => contentValue? meaning false target (jumps + 1)
      else none
    | _ => contentValue? meaning untagged node jumps

/-- The meaning of a node within which `depth` more levels are allowed. -/
def value? (aliases : Aliases) : (depth : Nat) → Meaning
  | 0 => followed? aliases none
  | depth + 1 => followed? aliases (some (value? aliases depth))

end Node

/-- The value of the document in a text, if it is well-formed. -/
def Value.ofText? (text : List Char) : Option Value := do
  let tokens ← Token.ofText? text
  let root ← Node.ofTokens? tokens
  let aliases : Node.Aliases := { nodes := root.named.reverse, limit := 100 * root.weight }
  let (value, _) ← Node.value? aliases Node.depthLimit false root 0
  return value

end CatalogAudit.Yaml
