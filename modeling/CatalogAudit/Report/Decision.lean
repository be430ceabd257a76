import CatalogAudit.Config.Basic
import CatalogAudit.Report.Basic

/-!
# The verdict

An audit fails when the catalog and the registrations differ. Duplicate registrations fail it only
under the strict policy.
-/

namespace CatalogAudit

/-- Whether duplicate registrations alone fail an audit. -/
inductive Policy
  /-- They do not. -/
  | lenient
  /-- They do. -/
  | strict
deriving DecidableEq, Repr

namespace Policy

/-- The name of a policy. -/
def name : Policy → String
  | lenient => "lenient"
  | strict => "strict"

/-- The policy of a configuration. -/
def ofConfig (config : Config) : Policy := if config.strictDuplicates then strict else lenient

end Policy

/-- The verdict of an audit. -/
inductive Decision
  /-- The audit passes. -/
  | pass
  /-- The audit fails. -/
  | fail
deriving DecidableEq, Repr

namespace Decision

/-- The name of a verdict. -/
def name : Decision → String
  | pass => "pass"
  | fail => "fail"

/-- The exit status of a verdict. -/
def exitCode : Decision → Nat
  | pass => 0
  | fail => 1

/-- The verdict on a report. -/
def ofReport (report : Report) (policy : Policy) : Decision :=
  if report.hasMismatch then fail
  else if report.hasDuplicates && policy = .strict then fail
  else pass

end Decision

end CatalogAudit
