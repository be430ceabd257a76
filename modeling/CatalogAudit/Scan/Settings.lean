import CatalogAudit.Config.Basic
import CatalogAudit.Fault
import CatalogAudit.Glob.Reading
import CatalogAudit.Pattern.Reading
import CatalogAudit.Scan.Entry

/-!
# Settings of a scan

The patterns of a configuration, read. Every text pattern needs a group, because a name is taken
from it.
-/

namespace CatalogAudit

namespace Scan

/-- What a scan has to know. -/
structure Settings where
  /-- File-name patterns of source files. -/
  extensions : List Glob
  /-- The patterns by which files are searched. -/
  patterns : Patterns
deriving DecidableEq, Repr

end Scan

namespace Config

/-- Reads the file-name patterns of a field. -/
def readGlobs (field : Field) (globs : List String) : Except ConfigFault (List Glob) :=
  match globs.mapM fun glob => Glob.ofText? glob.toList with
  | some globs => .ok globs
  | none => .error (.badGlob field.key)

/-- Reads the text pattern of a field. -/
def readPattern (field : Field) (pattern : String) : Except ConfigFault Pattern :=
  match Pattern.ofText? pattern.toList with
  | none => .error (.badPattern field.key)
  | some p => if p.groupCount = 0 then .error (.noGroup field.key) else .ok p

/-- The settings of a scan. -/
def scanSettings (config : Config) : Except ConfigFault Scan.Settings := do
  if config.sourceRoots.isEmpty then throw .noSourceRoot
  let extensions ← readGlobs .extensions config.extensions
  let token ← readPattern .tokenPattern config.tokenPattern
  let symbol ← readPattern .symbolPattern config.symbolPattern
  let heuristic ← readPattern .heuristicPattern config.heuristicPattern
  return { extensions, patterns := { token, symbol, heuristic } }

/-- The file-name patterns of files that bundle registrations. -/
def monolithGlobs (config : Config) : Except ConfigFault (List Glob) :=
  readGlobs .monolithFiles config.monolithFiles

end Config

end CatalogAudit
