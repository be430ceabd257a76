import CatalogAudit.Registry
import CatalogAudit.Scan.Entry

/-!
# What a scan yields
-/

namespace CatalogAudit.Scan

/-- A file or a folder that could not be read. -/
structure Unreadable where
  /-- The path by which reports show it. -/
  path : String
  /-- Why it could not be read. -/
  reason : String
deriving DecidableEq, Repr

/-- The outcome of a scan. -/
structure Outcome where
  /-- The registrations of all files together. -/
  registry : Registry
  /-- What has been found in each file, by path. -/
  entries : List Entry
  /-- What could not be read, by path. -/
  unreadable : List Unreadable

/-- The registry of entries: the registries of the single files, merged one after the other. -/
def registryOf (entries : List Entry) : Registry :=
  entries.foldl (fun registry entry =>
    registry.merge (.ofList (entry.tokens.map fun token => (token, entry.path)))) .empty

end CatalogAudit.Scan
