import CatalogAudit.Fault
import CatalogAudit.System

/-!
# Writing artifacts

An artifact is written to a file beside its place, which then takes that place. So nobody finds half
an artifact, unless at the name of that file, and a failed write leaves the old one alone.
-/

namespace CatalogAudit.Artifact

/-- The name of the file that is written first. It is made from the name as text. -/
def temporaryName (name : Name) : Name := Text.encode ('.' :: Text.decode name ++ ".tmp".toList)

/-- The folder above a path that has to be made, if the path names any. -/
def folderOf? (p : Path) : Option Path :=
  match p.parent? with
  | some parent => if parent.text.isEmpty then none else some parent
  | none => none

/-- Writes the temporary file and puts it in the place of the artifact. When it cannot be put there,
the temporary file is removed again. -/
def replace (p temporary : Path) (bytes : ByteArray) : Script (Option Fault) := do
  match ← Script.writeFile temporary bytes with
  | some e => return some (.file temporary e)
  | none =>
    match ← Script.call (.move temporary p) with
    | .ok () => return none
    | .error e =>
      let _ ← Script.call (.remove temporary)
      return some (.file p e)

/-- Makes the folders above an artifact. -/
def makeAbove (p : Path) : Script (Option Fault) :=
  match folderOf? p with
  | none => return none
  | some folder => return (← Script.makeFolders folder).map fun e => .file folder e

/-- How an artifact is written, with the folders above it. The result is the fault if one comes
up. -/
def script (p : Path) (bytes : ByteArray) : Script (Option Fault) := do
  match ← makeAbove p with
  | some fault => return some fault
  | none =>
    match p.fileName? with
    | none => return some (.config (.noFileName p))
    | some name => replace p (p.withFileName (temporaryName name)) bytes

/-- Writes an artifact in a file tree: the tree afterwards, and the fault if one came up. -/
def write (tree : FileTree) (p : Path) (bytes : ByteArray) : FileTree × Option Fault :=
  (script p bytes).run tree

end CatalogAudit.Artifact
