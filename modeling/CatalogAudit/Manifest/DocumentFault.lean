import CatalogAudit.Manifest.Line.Fault

/-!
# Faults of a manifest document

Why a text or a file is no manifest at all. What is wrong with single fields of entries is a matter
of validation.
-/

namespace CatalogAudit.Manifest

/-- Why a document is no manifest. -/
inductive DocumentFault
  /-- The line of that number cannot be read. -/
  | line (number : Nat) (fault : Line.Fault)
  /-- The text is not well-formed markup. -/
  | markup
  /-- The top level is no mapping. -/
  | rootNotMapping
  /-- The top level has no list of entries. -/
  | missingEntries
  /-- The entries are no list. -/
  | entriesNotList
  /-- The entry of that number is no mapping. -/
  | entryNotMapping (number : Nat)
  /-- The path leads to something else than a file. -/
  | notFile
  /-- The file is too long. -/
  | tooLarge
  /-- The file is no text. -/
  | notText
deriving DecidableEq, Repr

/-- The words for a fault. -/
def DocumentFault.message : DocumentFault → String
  | line number fault => "line " ++ toString number ++ ": " ++ fault.message
  | markup => "Failed to parse YAML"
  | rootNotMapping => "manifest root must be a mapping"
  | missingEntries => "missing top-level `entries` list"
  | entriesNotList => "`entries` must be a list"
  | entryNotMapping number => "manifest entry " ++ toString number ++ " must be a mapping"
  | notFile => "manifest path is not a file"
  | tooLarge => "manifest file too large (max 4MB)"
  | notText => "manifest is not valid UTF-8"

end CatalogAudit.Manifest
