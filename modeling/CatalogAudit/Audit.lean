import CatalogAudit.Config.Discovery
import CatalogAudit.Manifest.Loading
import CatalogAudit.Report.Decision
import CatalogAudit.Scan.Run

/-!
# The audit

Reads the settings, loads the catalog, scans the sources, compares the two and gives the verdict.
The first fault on that way ends the audit.
-/

namespace CatalogAudit

namespace Audit

/-- What is to be audited. -/
structure Request where
  /-- The root of the repository. -/
  root : Path
  /-- The settings. -/
  config : Config
  /-- The form of the manifest. -/
  form : Manifest.Form := .default
  /-- Whether the report is to show every file. -/
  details : Bool := false

end Audit

/-- A finished audit. -/
structure Audit where
  /-- The catalog. -/
  manifest : Manifest
  /-- What the scan has found. -/
  scan : Scan.Outcome
  /-- The findings. -/
  report : Report
  /-- The verdict. -/
  decision : Decision

namespace Audit

/-- Carries an audit out. -/
def run (tree : FileTree) (request : Request) : Except Fault Audit := do
  let config := request.config
  let settings ← config.scanSettings.mapError Fault.config
  let monoliths ← config.monolithGlobs.mapError Fault.config
  let manifest ← Manifest.load tree request.form (config.manifestPath request.root)
  let scan ← Scan.run tree settings (config.sourceRootPaths request.root)
  let findings := Report.reconcile manifest scan monoliths
  let report := if request.details then findings.withFiles scan.entries else findings
  return { manifest, scan, report, decision := .ofReport report (.ofConfig config) }

end Audit

end CatalogAudit
