import CatalogAudit.Manifest.DocumentFault
import CatalogAudit.Manifest.RawEntry
import CatalogAudit.Yaml.Value.Resolution

/-!
# Structured manifests

Reads a manifest as a document of general markup: the top level is a mapping, its key `entries`
holds a list or nothing, and every item of the list is a mapping. Only strings count as strings;
numbers and truth values are not turned into them.
-/

namespace CatalogAudit.Manifest.Structured

/-- A value as validation sees it. -/
def rawValue : Yaml.Value → RawValue
  | .text text => .text (String.ofList text)
  | .null => .other .null
  | .boolean _ => .other .boolean
  | .number _ => .other .number
  | .sequence _ => .other .sequence
  | .mapping _ => .other .mapping
  | .tagged _ _ => .other .tagged

/-- The string that a value is. -/
def string? : Yaml.Value → Option String
  | .text text => some (String.ofList text)
  | _ => none

/-- The modes that a value is. -/
def rawModes : Option Yaml.Value → RawModes
  | none => .absent
  | some .null => .absent
  | some (.sequence items) => .ofItems (items.map string?)
  | some _ => .invalid

/-- One entry as validation sees it. -/
def rawEntry (fields : List (Yaml.Value × Yaml.Value)) : RawEntry :=
  { token := (Yaml.Value.field? fields "token").map rawValue
    kind := (Yaml.Value.field? fields "kind").map rawValue
    modes := rawModes (Yaml.Value.field? fields "modes") }

/-- The entries of a list from the one of that number on, after `raw`, which is backwards. -/
def rawEntries (raw : List RawEntry) (number : Nat) :
    List Yaml.Value → Except DocumentFault (List RawEntry)
  | [] => .ok raw.reverse
  | .mapping fields :: items => rawEntries (rawEntry fields :: raw) (number + 1) items
  | _ :: _ => .error (.entryNotMapping number)

/-- Reads the entries of a manifest. -/
def parse (text : List Char) : Except DocumentFault (List RawEntry) :=
  match Yaml.Value.ofText? text with
  | none => .error .markup
  | some (.mapping root) =>
    match Yaml.Value.field? root entriesKey with
    | some (.sequence items) => rawEntries [] 1 items
    | some .null => .ok []
    | some _ => .error .entriesNotList
    | none => .error .missingEntries
  | some _ => .error .rootNotMapping

end CatalogAudit.Manifest.Structured
