import CatalogAudit.Manifest.Structured
import CatalogAudit.Proofs.Manifest.Markup.Nodes
import CatalogAudit.Proofs.Manifest.Markup.Spelling
import CatalogAudit.Proofs.Yaml.Value

/-!
# What layouts mean in markup

Every layout that is markup is read by the reader of markup as a manifest with the same entries and
modes in the same order. But a plain value is taken there with all that surrounds it but spaces and
tabs.
-/

namespace CatalogAudit.Manifest.Layout

open Yaml (Node Value)
open Yaml.Node (Means)

/-- The value as markup has it. -/
def Scalar.spelled : Scalar → List Char
  | quoted q => q.value
  | plain p => p.whole

/-- A scalar means its text. -/
theorem Scalar.means (scalar : Scalar) (depth : Nat) :
    Means depth scalar.node (.text scalar.spelled) := by
  cases scalar with
  | quoted q => exact Yaml.Node.means_scalar rfl depth
  | plain p =>
    have value : Yaml.Node.scalarValue? none p.whole true = some (.text p.whole) :=
      value?_eq_text p.whole_ne_nil (Line.spelledType?_eq_none_iff.mpr p.wholeString)
    exact Yaml.Node.means_scalar value depth

/-- A key means its name. -/
theorem Key.means {name : List Char} (key : Key name) (word : IsWord name)
    (string : Line.spelledType? name = none) (depth : Nat) : Means depth key.node (.text name) := by
  have value : Yaml.Node.scalarValue? none name true = some (.text name) :=
    value?_eq_text word.1 string
  obtain ⟨spelling, gap⟩ := key
  cases spelling with
  | bare => exact Yaml.Node.means_scalar value depth
  | quoted q same => exact Yaml.Node.means_scalar rfl depth

/-- The values of the modes in markup. -/
def Modes.spelled (modes : Modes) : List (List Char) := modes.scalars.map Scalar.spelled

/-- The modes mean the list of their texts. -/
theorem Modes.means (modes : Modes) (depth : Nat) :
    Means (depth + 1) modes.node (.sequence (modes.spelled.map .text)) := by
  rw [node, spelled, List.map_map]
  exact Yaml.Node.means_sequence fun scalar _ => scalar.means depth

/-- The name of a field is read as a string. -/
theorem string_name (field : Field) : Line.spelledType? field.name = none := by
  cases field <;> decide

namespace Entry

variable (e : Entry)

/-- What belongs to a key. -/
def fieldValue : Field → Value
  | .token => .text e.token.scalar.spelled
  | .kind => .text e.kind.scalar.spelled
  | .modes => .sequence ((e.modes.map fun (_, modes) => modes.spelled.map .text).getD [])

/-- A key and what belongs to it. -/
def keyed (field : Field) : Value × Value := (.text field.name, e.fieldValue field)

/-- The value of the entry. -/
def value : Value := .mapping ((e.first :: e.others).map e.keyed)

variable {e}

/-- A field means its name and its value. -/
theorem means_field {field : Field} (has : e.Has field) (depth : Nat) :
    Means (depth + 1) (e.fieldNode field).1 (.text field.name) ∧
      Means (depth + 1) (e.fieldNode field).2 (e.fieldValue field) := by
  cases field with
  | token =>
    exact ⟨e.token.key.means (isWord_name .token) (string_name .token) _, e.token.scalar.means _⟩
  | kind =>
    exact ⟨e.kind.key.means (isWord_name .kind) (string_name .kind) _, e.kind.scalar.means _⟩
  | modes =>
    obtain ⟨⟨key, modes⟩, some⟩ := Option.isSome_iff_exists.mp (has rfl)
    simp only [fieldNode, fieldValue, some, Option.map_some, Option.getD_some]
    exact ⟨key.means (isWord_name .modes) (string_name .modes) _, modes.means depth⟩

variable (e)

/-- An entry means its mapping. -/
theorem means (depth : Nat) : Means (depth + 2) e.node e.value := by
  apply Yaml.Node.means_mapping
  · intro field mem
    exact means_field (e.has_of_mem mem) depth
  · rw [List.pairwise_map]
    refine e.nodup_fields.imp fun {f g} differ => ?_
    refine beq_eq_false_iff_ne.mpr fun same => ?_
    exact differ (name_inj same).symm

/-- The entry as markup has it. -/
def spelled : Declared :=
  { token := String.ofList e.token.scalar.spelled
    kind := String.ofList e.kind.scalar.spelled
    modes := e.modes.map fun (_, modes) => modes.spelled.map String.ofList }

/-- Under the name of a key what belongs to it is found, if the key is there. -/
theorem field?_keyed (fields : List Field) {field : Field} {name : String}
    (named : field.name = name.toList) :
    Value.field? (fields.map e.keyed) name
      = if field ∈ fields then some (e.fieldValue field) else none := by
  induction fields with
  | nil => rfl
  | cons other fields ih =>
    rw [Value.field?, List.map_cons]
    by_cases same : field = other
    · subst same
      have found : (e.keyed field).1.isText name.toList = true := by
        rw [← named]
        exact beq_self_eq_true field.name
      simp only [List.find?_cons, found, if_pos List.mem_cons_self]
      rfl
    · have passed : ¬(e.keyed other).1.isText name.toList = true := by
        rw [← named]
        intro found
        exact same (name_inj (beq_iff_eq.mp found))
      have mem : field ∈ other :: fields ↔ field ∈ fields := by simp [same]
      rw [if_congr mem rfl rfl, ← ih, Value.field?]
      simp only [List.find?_cons, passed]

/-- A list of strings is a list of strings. -/
theorem mapM_string? (texts : List (List Char)) :
    ((texts.map Value.text).map Structured.string?).mapM id = some (texts.map String.ofList) := by
  induction texts with
  | nil => rfl
  | cons text texts ih =>
    rw [List.map_cons, List.map_cons, List.mapM_cons, ih]
    rfl

/-- What markup says of the entry is what stands there. -/
theorem rawEntry_keyed :
    Structured.rawEntry ((e.first :: e.others).map e.keyed) = e.spelled.raw := by
  have token : Value.field? ((e.first :: e.others).map e.keyed) "token"
      = some (e.fieldValue .token) := by
    rw [e.field?_keyed _ (Eq.refl Field.token.name), if_pos]
    exact e.complete.mem_iff.mpr (by simp)
  have kind : Value.field? ((e.first :: e.others).map e.keyed) "kind"
      = some (e.fieldValue .kind) := by
    rw [e.field?_keyed _ (Eq.refl Field.kind.name), if_pos]
    exact e.complete.mem_iff.mpr (by simp)
  have modes : Value.field? ((e.first :: e.others).map e.keyed) "modes"
      = if e.modes.isSome then some (e.fieldValue .modes) else none := by
    rw [e.field?_keyed _ (Eq.refl Field.modes.name), if_congr e.complete.mem_iff rfl rfl]
    cases e.modes <;> simp
  rw [Structured.rawEntry, token, kind, modes]
  cases written : e.modes with
  | none =>
    simp [spelled, Declared.raw, written, fieldValue, Structured.rawModes, Structured.rawValue]
  | some keyed =>
    obtain ⟨key, modes⟩ := keyed
    have list : Structured.rawModes (some (.sequence (modes.spelled.map .text)))
        = .list (modes.spelled.map String.ofList) := by
      rw [Structured.rawModes, RawModes.ofItems, mapM_string?]
    simp only [Option.isSome_some, if_true, fieldValue, written, Option.map_some, Option.getD_some,
      list]
    rw [spelled, Declared.raw, written]
    rfl

end Entry

namespace Document

variable (doc : Document)

/-- The value of the list of the entries. -/
def listValue : Value :=
  if doc.entries = [] then .null else .sequence (doc.entries.map Entry.value)

/-- The entries mean the list of their mappings. -/
theorem means_list (depth : Nat) : Means (depth + 3) doc.listNode doc.listValue := by
  rw [listNode, listValue]
  split
  · exact Yaml.Node.means_empty _
  · exact Yaml.Node.means_sequence fun e _ => e.means depth

/-- The document means the mapping with its list. -/
theorem means (depth : Nat) :
    Means (depth + 4) doc.node (.mapping [(.text entriesKey.toList, doc.listValue)]) := by
  have string : Line.spelledType? entriesKey.toList = none := by decide
  have all : Means (depth + 4)
      (.mapping none none ([(doc.key.node, doc.listNode)].map fun entry => entry))
      (.mapping ([(doc.key.node, doc.listNode)].map fun _ =>
        (.text entriesKey.toList, doc.listValue))) := by
    apply Yaml.Node.means_mapping
    · intro entry mem
      rw [List.mem_singleton.mp mem]
      exact ⟨doc.key.means isWord_entriesKey string _, doc.means_list depth⟩
    · exact List.pairwise_singleton _ _
  exact all

/-- The manifest as markup has it. -/
def spelled : List Declared := doc.entries.map Entry.spelled

/-- The mappings of entries are read as the entries. -/
theorem rawEntries_values (entries : List Entry) (before : List RawEntry) (number : Nat) :
    Structured.rawEntries before number (entries.map Entry.value)
      = .ok (before.reverse ++ entries.map fun e => e.spelled.raw) := by
  induction entries generalizing before number with
  | nil => simp [Structured.rawEntries]
  | cons e entries ih =>
    rw [List.map_cons, Entry.value, Structured.rawEntries, ih, e.rawEntry_keyed]
    simp

end Document

end CatalogAudit.Manifest.Layout

namespace CatalogAudit.Manifest.Structured

open Layout

/-- As markup a layout is read as what it says, with plain values as they are spelled. -/
theorem parse_text (doc : Document) (markup : doc.IsMarkup) :
    parse doc.text = .ok (doc.spelled.map Declared.raw) := by
  have value : Yaml.Value.ofText? doc.text
      = some (.mapping [(.text entriesKey.toList, doc.listValue)]) := by
    have means := doc.means 124
    simp only [Yaml.Value.ofText?, Document.ofText?_text markup, doc.ofTokens?_tokens,
      Option.bind_eq_bind, Option.bind_some]
    rw [Yaml.Node.depthLimit, means]
    rfl
  have field : Yaml.Value.field? [(.text entriesKey.toList, doc.listValue)] entriesKey
      = some doc.listValue := rfl
  rw [parse, value]
  simp only [field]
  by_cases none : doc.entries = []
  · have noList : doc.listValue = .null := if_pos none
    rw [noList, Document.spelled, none]
    rfl
  · have list : doc.listValue = .sequence (doc.entries.map Entry.value) := if_neg none
    simp only [list]
    rw [Document.rawEntries_values, Document.spelled, List.map_map]
    rfl

end CatalogAudit.Manifest.Structured
