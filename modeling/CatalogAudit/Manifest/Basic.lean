import CatalogAudit.Manifest.Validation
import CatalogAudit.NameTable

/-!
# The catalog

The entries of a valid manifest in their order, with an index that leads from a token to the
position of its entry.
-/

namespace CatalogAudit

/-- The declared catalog. -/
structure Manifest where
  /-- The entries in the order of the document. -/
  entries : List Manifest.Entry
  /-- Position of each token's entry. -/
  index : NameTable Nat
deriving DecidableEq

namespace Manifest

/-- The catalog of valid entries. Of several entries with one token the index knows the last. -/
def ofEntries (entries : List Entry) : Manifest :=
  { entries
    index := .ofRows (entries.zipIdx.map fun (entry, position) => (entry.token, position)) }

/-- The tokens in the order of the document. -/
def tokens (m : Manifest) : List String := m.entries.map (·.token)

/-- Number of entries. -/
def size (m : Manifest) : Nat := m.entries.length

/-- Whether there is no entry. -/
def isEmpty (m : Manifest) : Bool := m.entries.isEmpty

/-- Whether some entry has the token. -/
def contains (m : Manifest) (token : String) : Bool := (m.index.get? token).isSome

/-- The entry of a token. -/
def get? (m : Manifest) (token : String) : Option Entry :=
  match m.index.get? token with
  | some position => m.entries[position]?
  | none => none

end Manifest

end CatalogAudit
