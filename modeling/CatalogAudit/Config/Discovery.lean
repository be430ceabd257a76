import CatalogAudit.Config.Basic
import CatalogAudit.Fault

/-!
# Finding the configuration

The configuration is read from the file that was asked for, or else from the one in the repository,
or else it is the default.
-/

namespace CatalogAudit.Config

/-- Reads a configuration file. -/
def load (tree : FileTree) (path : Path) : Except Fault Config :=
  match tree.readText path with
  | .error e => .error (.file path e)
  | .ok text =>
    match ofText? text with
    | some config => .ok config
    | none => .error (.config (.unreadable path))

/-- The configuration of the repository at `root`. -/
def discover (tree : FileTree) (root : Path) (explicit : Option Path) : Except Fault Config :=
  match explicit with
  | some path => load tree (root.join path)
  | none =>
    let candidate := root.join (.ofString fileName)
    match tree.resolve candidate with
    | .ok _ => load tree candidate
    | .error .missing => .ok {}
    | .error e => .error (.file candidate e)

end CatalogAudit.Config
