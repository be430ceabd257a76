import CatalogAudit.FileTree.Basic
import CatalogAudit.Manifest.Form

/-!
# Fatal faults

What ends an audit before it comes to a verdict. Findings are no faults: they are part of a report.
Every fault is a failure of the setup and has the same exit status.
-/

namespace CatalogAudit

/-- What is wrong with a configuration. -/
inductive ConfigFault
  /-- The file of that path is no configuration. -/
  | unreadable (path : Path)
  /-- No source root is given. -/
  | noSourceRoot
  /-- A file-name pattern of that field cannot be read. -/
  | badGlob (field : String)
  /-- The text pattern of that field cannot be read. -/
  | badPattern (field : String)
  /-- The text pattern of that field has no group to take a name from. -/
  | noGroup (field : String)
  /-- The path given for an output names no file. -/
  | noFileName (path : Path)
deriving DecidableEq, Repr

/-- The words for a fault of a configuration. -/
def ConfigFault.message : ConfigFault → String
  | unreadable path => "Failed to parse " ++ path.toString
  | noSourceRoot => "at least one source root is required"
  | badGlob field => "invalid glob in `" ++ field ++ "`"
  | badPattern field => "invalid regex in `" ++ field ++ "`"
  | noGroup field => "`" ++ field ++ "` must contain a capture group for the extracted name"
  | noFileName path => "output path has no file name: " ++ path.toString

/-- What ends an audit. -/
inductive Fault
  /-- There is no manifest. -/
  | manifestMissing (path : Path)
  /-- The manifest is no document of the right form. -/
  | manifestDocument (path : Path) (fault : Manifest.DocumentFault)
  /-- An entry of the manifest is not valid. -/
  | manifestEntry (fault : Manifest.EntryFault)
  /-- A source root is no folder. -/
  | rootNotFolder (path : Path)
  /-- A source root cannot be looked at. -/
  | rootUnreadable (path : Path) (error : FileError)
  /-- The configuration is not usable. -/
  | config (fault : ConfigFault)
  /-- A file operation failed. -/
  | file (path : Path) (error : FileError)
deriving DecidableEq, Repr

namespace Fault

/-- The words for a fault. -/
def message : Fault → String
  | manifestMissing path => "effects manifest not found: " ++ path.toString
  | manifestDocument path fault => "malformed manifest " ++ path.toString ++ ": " ++ fault.message
  | manifestEntry fault => fault.message
  | rootNotFolder path => "source root unreadable " ++ path.toString ++ ": not a directory"
  | rootUnreadable path error => "source root unreadable " ++ path.toString ++ ": " ++ error.message
  | config fault => "invalid configuration: " ++ fault.message
  | file path error => "I/O error on " ++ path.toString ++ ": " ++ error.message

/-- What caused a fault, when that has words of its own. -/
def cause? : Fault → Option String
  | file _ error => some error.message
  | _ => none

end Fault

end CatalogAudit
