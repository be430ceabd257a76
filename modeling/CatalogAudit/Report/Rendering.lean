import CatalogAudit.Json.Printing
import CatalogAudit.Report.Decision

/-!
# Reports as text

A report is written for programs as JSON, whose keys ascend at every level, and for people as a
summary. The summary has a section for each kind of finding, and none for kinds of which there is
nothing.
-/

namespace CatalogAudit.Report

/-! ## JSON -/

/-- A set of names as JSON. -/
def namesJson (names : NameSet) : Json := .ofStrings names.names

/-- A table of sets of names as JSON. -/
def tableJson (table : NameTable NameSet) : Json :=
  .ofMembers (table.rows.map fun (name, names) => (name, namesJson names))

/-- What has been found in a file as JSON. -/
def entryJson (entry : Scan.Entry) : Json :=
  let candidate : List (String × Json) :=
    match entry.candidate with
    | some candidate => [("heuristic_name", .ofString candidate)]
    | none => []
  .ofFields
    ([("path", .ofString entry.path),
      ("tokens", .ofStrings entry.tokens),
      ("symbol_names", .ofStrings entry.symbols)] ++ candidate)

/-- A hint as JSON. -/
def hintJson (hint : Hint) : Json :=
  .ofFields [("path", .ofString hint.path), ("candidate", .ofString hint.candidate)]

/-- Something unreadable as JSON. -/
def unreadableJson (file : Scan.Unreadable) : Json :=
  .ofFields [("path", .ofString file.path), ("reason", .ofString file.reason)]

/-- Numbers as JSON. -/
def totalsJson (totals : Totals) : Json :=
  .ofFields
    [("manifest_count", .ofNat totals.manifest),
     ("registered_count", .ofNat totals.registered),
     ("files_scanned", .ofNat totals.scanned),
     ("files_unreadable", .ofNat totals.unreadable)]

/-- A report and its verdict as JSON. -/
def toJson (report : Report) (decision : Decision) : Json :=
  let files : List (String × Json) :=
    match report.files with
    | some entries => [("files", .array (entries.map entryJson))]
    | none => []
  .ofFields
    ([("status", .ofString decision.name),
      ("missing_tokens", namesJson report.missing),
      ("extra_tokens", namesJson report.extra),
      ("duplicate_tokens", tableJson report.duplicates),
      ("totals", totalsJson report.totals),
      ("monolith_registrations", tableJson report.bundled),
      ("heuristic_hints", .array (report.hints.map hintJson)),
      ("unreadable_files", .array (report.unreadable.map unreadableJson))] ++ files)

/-- The JSON text of a report. -/
def renderJson (report : Report) (decision : Decision) : String :=
  String.ofList (report.toJson decision).print

/-! ## Summary -/

/-- A section of the summary, each item of which ends its line. -/
def renderSection (title : String) (items : List String) : String :=
  if items.isEmpty then ""
  else
    title ++ " (" ++ toString items.length ++ "):\n"
      ++ String.join (items.map fun item => item ++ "\n")

/-- An item of a section. -/
def item (text : String) : String := "  - " ++ text

/-- A duplicate token with its files, each on a line of its own. -/
def duplicateItem (row : String × NameSet) : String :=
  item row.1 ++ String.join (row.2.names.map fun path => "\n      " ++ path)

/-- A bundled token with its files. -/
def bundledItem (row : String × NameSet) : String :=
  item (row.1 ++ " (" ++ ", ".intercalate row.2.names ++ ")")

/-- The first line of the summary. -/
def headLine (totals : Totals) : String :=
  "Manifest entries: " ++ toString totals.manifest
    ++ "  Registered tokens: " ++ toString totals.registered
    ++ "  Files scanned: " ++ toString totals.scanned ++ "\n"

/-- The last line of the summary. -/
def verdictLine : Decision → String
  | .pass => "Effect audit passed.\n"
  | .fail => "Effect audit failed.\n"

/-- The summary of a report. -/
def renderText (report : Report) (decision : Decision) : String :=
  headLine report.totals
    ++ renderSection "Unregistered tokens" (report.missing.names.map item)
    ++ renderSection "Tokens not present in manifest" (report.extra.names.map item)
    ++ renderSection "Duplicate registrations" (report.duplicates.rows.map duplicateItem)
    ++ renderSection "Registrations in monolith files" (report.bundled.rows.map bundledItem)
    ++ renderSection "Files named like effects without a registration"
      (report.hints.map fun hint => item (hint.path ++ " (" ++ hint.candidate ++ ")"))
    ++ renderSection "Unreadable files"
      (report.unreadable.map fun file => item (file.path ++ ": " ++ file.reason))
    ++ verdictLine decision

end CatalogAudit.Report
