import CatalogAudit.Fault
import CatalogAudit.Manifest.Form

/-!
# Loading a manifest

Reads the manifest from its file, which must be a file of at most four million bytes.
-/

namespace CatalogAudit.Manifest

/-- The most bytes that a manifest may have. -/
def sizeLimit : Nat := 4000000

/-- The text of a manifest file. -/
def readText (tree : FileTree) (path : Path) : Except CatalogAudit.Fault (List Char) :=
  match tree.resolve path with
  | .error .missing => .error (.manifestMissing path)
  | .error e => .error (.file path e)
  | .ok (_, .file bytes) =>
    if sizeLimit < bytes.size then .error (.manifestDocument path .tooLarge)
    else
      match tree.readText path with
      | .ok text => .ok text
      | .error .notText => .error (.manifestDocument path .notText)
      | .error e => .error (.file path e)
  | .ok (_, _) => .error (.manifestDocument path .notFile)

/-- Loads the manifest of a path. -/
def load (tree : FileTree) (form : Form) (path : Path) : Except CatalogAudit.Fault Manifest :=
  match readText tree path with
  | .error fault => .error fault
  | .ok text =>
    match ofText form text with
    | .ok manifest => .ok manifest
    | .error (.document fault) => .error (.manifestDocument path fault)
    | .error (.entry fault) => .error (.manifestEntry fault)

end CatalogAudit.Manifest
