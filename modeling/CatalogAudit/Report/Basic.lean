import CatalogAudit.Glob.Reading
import CatalogAudit.Manifest.Basic
import CatalogAudit.Path
import CatalogAudit.Scan.Outcome

/-!
# Reconciliation

Compares the catalog with the registrations: which tokens of the catalog nobody registers, which
registered tokens the catalog does not know, and which tokens several files register. What files
bundle and what file names suggest is reported as well, but decides nothing.
-/

namespace CatalogAudit

namespace Report

/-- Numbers of what has been looked at. -/
structure Totals where
  /-- Entries of the catalog. -/
  manifest : Nat
  /-- Registered tokens. -/
  registered : Nat
  /-- Files that were read. -/
  scanned : Nat
  /-- Files and folders that could not be read. -/
  unreadable : Nat
deriving DecidableEq, Repr

/-- A file without registrations whose name suggests one. -/
structure Hint where
  /-- The path of the file. -/
  path : String
  /-- The name that is suggested. -/
  candidate : String
deriving DecidableEq, Repr

end Report

/-- The findings of an audit. -/
structure Report where
  /-- Tokens of the catalog that no file registers. -/
  missing : NameSet
  /-- Registered tokens that are not in the catalog. -/
  extra : NameSet
  /-- Tokens that several files register, with those files. -/
  duplicates : NameTable NameSet
  /-- What has been looked at. -/
  totals : Report.Totals
  /-- Tokens that files which bundle registrations register, with those files. -/
  bundled : NameTable NameSet
  /-- Files whose names suggest a registration. -/
  hints : List Report.Hint
  /-- What could not be read. -/
  unreadable : List Scan.Unreadable
  /-- What has been found in each file, if that is asked for. -/
  files : Option (List Scan.Entry)
deriving DecidableEq

namespace Report

/-- Whether the file of a path bundles registrations. -/
def isMonolith (monoliths : List Glob) (path : String) : Bool :=
  match (Path.ofString path).fileName? with
  | some name => Glob.acceptsAny monoliths name
  | none => false

/-- The hint that an entry gives, if it registers nothing. -/
def hintOf? (entry : Scan.Entry) : Option Hint :=
  if entry.tokens.isEmpty then
    entry.candidate.map fun candidate => { path := entry.path, candidate }
  else none

/-- The tokens that monoliths register, with those files. -/
def bundledIn (monoliths : List Glob) (registry : Registry) : NameTable NameSet :=
  registry.paths.filterMap fun _ paths =>
    let inside := paths.filter (isMonolith monoliths)
    if inside.isEmpty then none else some inside

/-- Compares a catalog with the outcome of a scan. -/
def reconcile (manifest : Manifest) (scan : Scan.Outcome) (monoliths : List Glob) : Report :=
  { missing := NameSet.ofList (manifest.tokens.filter fun token => !scan.registry.contains token)
    extra := (scan.registry.paths.filter fun token paths =>
      !paths.isEmpty && !manifest.contains token).nameSet
    duplicates := scan.registry.duplicates
    totals :=
      { manifest := manifest.size
        registered := scan.registry.size
        scanned := scan.entries.length
        unreadable := scan.unreadable.length }
    bundled := bundledIn monoliths scan.registry
    hints := scan.entries.filterMap hintOf?
    unreadable := scan.unreadable
    files := none }

/-- The report together with what has been found in each file. -/
def withFiles (report : Report) (entries : List Scan.Entry) : Report :=
  { report with files := some entries }

/-- Whether the catalog and the registrations have different tokens. -/
def hasMismatch (report : Report) : Bool := !report.missing.isEmpty || !report.extra.isEmpty

/-- Whether some token is registered by several files. -/
def hasDuplicates (report : Report) : Bool := !report.duplicates.isEmpty

end Report

end CatalogAudit
