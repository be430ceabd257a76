import CatalogAudit.Manifest.Basic
import CatalogAudit.Manifest.Line.Reader
import CatalogAudit.Manifest.Structured

/-!
# The two written forms of a manifest

A manifest is read line by line, or as a document of general markup. Either reader yields raw
entries, which one validation turns into a catalog.
-/

namespace CatalogAudit.Manifest

/-- The way in which a manifest is read. -/
inductive Form
  /-- As a document of general markup. -/
  | structured
  /-- Line by line. -/
  | line
deriving DecidableEq, Repr

namespace Form

/-- The form that is assumed when none is asked for. -/
def default : Form := structured

/-- The name of a form. -/
def name : Form → String
  | structured => "structured"
  | line => "line"

/-- The raw entries of a text. -/
def parse : Form → List Char → Except DocumentFault (List RawEntry)
  | structured => Structured.parse
  | line => Line.parse

end Form

/-- Why a text is no valid manifest. -/
inductive Fault
  /-- The document cannot be read. -/
  | document (fault : DocumentFault)
  /-- An entry is not valid. -/
  | entry (fault : EntryFault)
deriving DecidableEq, Repr

/-- Reads and validates a manifest. -/
def ofText (form : Form) (text : List Char) : Except Fault Manifest :=
  match form.parse text with
  | .error fault => .error (.document fault)
  | .ok raw =>
    match validate raw with
    | .error fault => .error (.entry fault)
    | .ok entries => .ok (ofEntries entries)

end CatalogAudit.Manifest
