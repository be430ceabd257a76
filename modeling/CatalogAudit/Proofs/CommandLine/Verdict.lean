import CatalogAudit.Proofs.Audit.Diagnostics
import CatalogAudit.Proofs.CommandLine.Arguments
import CatalogAudit.Proofs.CommandLine.Delivery
import CatalogAudit.Proofs.Report.Verdict

/-!
# The verdict of a run

A run ends with the exit status 2 when something fails on its way, and else with the verdict on its
findings, which the report tells as well. In which form the report is written and where it goes
changes neither the findings nor the exit status.
-/

namespace CatalogAudit.CommandLine

/-! ## What is audited -/

section Requests

variable {tree : FileTree} {o o' : Options} {config : Config} {audit : Audit} {fault : Fault}

/-- What options and a configuration ask for. -/
def Options.request (o : Options) (config : Config) : Audit.Request where
  root := o.root
  config := o.apply config
  form := o.parser.getD .default
  details := o.details

/-- With a configuration found, the audit is run on the request. -/
theorem auditOf_of_discover (found : Config.discover tree o.root o.config = .ok config) :
    auditOf tree o = Audit.run tree (o.request config) := by
  unfold auditOf
  rw [found]
  rfl

/-- Without a configuration there is no audit. -/
theorem auditOf_of_discover_error (failed : Config.discover tree o.root o.config = .error fault) :
    auditOf tree o = .error fault := by
  unfold auditOf
  rw [failed]
  rfl

/-- Why a run that has read its arguments ends without a verdict. -/
inductive Stops (tree : FileTree) (time : String) (o : Options) : Prop
  /-- The configuration cannot be found or read. -/
  | discovery {fault : Fault} (failed : Config.discover tree o.root o.config = .error fault)
  /-- The audit cannot be carried out. -/
  | audit {config : Config} {fault : Fault}
      (found : Config.discover tree o.root o.config = .ok config)
      (failed : Audit.run tree (o.request config) = .error fault)
  /-- An artifact that is asked for cannot be written. -/
  | write {config : Config} {audit : Audit} {delivery : Delivery} {fault : Fault}
      (found : Config.discover tree o.root o.config = .ok config)
      (audited : Audit.run tree (o.request config) = .ok audit)
      (failed : (writeAll tree (o.parcels time audit)).2 = some (delivery, fault))

/-- Options that say the same besides how and where results are shown are answered alike. -/
theorem auditOf_of_without_shows (tree : FileTree)
    (same : o'.without shows = o.without shows) :
    (∃ fault, auditOf tree o = .error fault ∧ auditOf tree o' = .error fault) ∨
      ∃ audit audit', auditOf tree o = .ok audit ∧ auditOf tree o' = .ok audit' ∧
        audit.SameVerdict audit' := by
  have root : o'.root = o.root := (congrArg Options.root same :)
  have explicit : o'.config = o.config := (congrArg Options.config same :)
  have apply : o'.apply = o.apply := (congrArg Options.apply same :)
  have parser : o'.parser = o.parser := (congrArg Options.parser same :)
  cases found : Config.discover tree o.root o.config with
  | error fault =>
    refine .inl ⟨fault, auditOf_of_discover_error found, auditOf_of_discover_error ?_⟩
    rw [root, explicit, found]
  | ok config =>
    have request : o'.request config = { o.request config with details := o'.details } := by
      unfold Options.request
      rw [root, apply, parser]
    rw [auditOf_of_discover found,
      auditOf_of_discover (by rw [root, explicit]; exact found), request]
    exact Audit.run_withDetails tree (o.request config) o'.details

end Requests

/-! ## What a report tells -/

/-- The text of a report tells of a verdict. -/
def Announces : Format → String → Decision → Prop
  | .json => Report.TellsStatus
  | .text => Report.LastLineTells

/-- What is printed behind a report, so that its last line is closed. -/
def Format.lineEnd : Format → String
  | .json => "\n"
  | .text => ""

/-- In either format the report announces the verdict and no other one. -/
theorem announces_reportText_iff {o : Options} {audit : Audit} {told : Decision} :
    Announces (o.format.getD .json) (o.reportText audit) told ↔ told = audit.decision := by
  unfold Options.reportText
  cases o.format.getD .json with
  | json => exact Report.tellsStatus_renderJson_iff
  | text => exact Report.lastLineTells_renderText_iff

/-- What is printed ends its line, and only JSON needs help with that. -/
theorem closeLine_reportText (o : Options) (audit : Audit) :
    closeLine (o.reportText audit) = o.reportText audit ++ (o.format.getD .json).lineEnd := by
  unfold closeLine Options.reportText
  cases o.format.getD .json with
  | json =>
    refine if_neg ?_
    dsimp only
    rw [Report.getLast?_renderJson]
    decide
  | text =>
    rw [Format.lineEnd, String.append_empty]
    exact if_pos (Report.endsLine_renderText _ _)

/-! ## How a run ends -/

/-- No artifact that was asked for has failed to be written. -/
def Outcome.Delivers (outcome : Outcome) : Prop :=
  ∀ delivery fault, outcome.failure ≠ some (.fault (some delivery) fault)

/-- A run ends with the verdict on an audit, and its report says the same. -/
structure Concludes (tree : FileTree) (time : String) (o : Options) (config : Config)
    (audit : Audit) (outcome : Outcome) : Prop where
  /-- The exit status is 0 when the findings pass under the policy that applies. -/
  passes : outcome.exitCode = 0 ↔ audit.report.Passes (o.ci || config.strictDuplicates)
  /-- It is 1 when they do not. -/
  fails : outcome.exitCode = 1 ↔ ¬ audit.report.Passes (o.ci || config.strictDuplicates)
  /-- The report tells the same. -/
  announces : ∀ decision, Announces (o.format.getD .json) (o.reportText audit) decision ↔
    outcome.exitCode = decision.exitCode
  /-- If no file is named for the report, it is printed and its last line closed. -/
  printed : o.report = none →
    outcome.output = o.reportText audit ++ (o.format.getD .json).lineEnd
  /-- If one is, nothing is printed, and the report is written behind the snapshot. It arrives
  unless a link stands at its temporary name. -/
  written : ∀ path, o.report = some path → outcome.output = "" ∧ ∃ before,
    writeAll tree (o.snapshotParcels time audit) = (before, none) ∧
    Artifact.write before path (o.reportText audit).toUTF8 = (outcome.tree, none) ∧
    (Artifact.IsUnlinked before path →
      Artifact.Arrives before outcome.tree path (o.reportText audit).toUTF8)

section Run

variable {tree : FileTree} {time : String} {arguments : List String} {o : Options}
  {config : Config} {audit : Audit}

/-- The exit code of a verdict is never that of a failure. -/
theorem exitCode_ne_two (decision : Decision) : decision.exitCode ≠ 2 := by
  cases decision <;> decide

/-- Different verdicts have different exit codes. -/
theorem exitCode_injective {decision told : Decision} (same : decision.exitCode = told.exitCode) :
    decision = told := by
  cases decision <;> cases told
  case pass.pass | fail.fail => rfl
  case pass.fail | fail.pass => cases same

/-- The exit status of a run with a verdict is that of the verdict, unless a write fails. -/
theorem exitCode_conclude (o : Options) (audit : Audit) (tree : FileTree) :
    (o.conclude audit (tree, none)).exitCode = audit.decision.exitCode := rfl

/-- A run whose artifacts are all written ends with its verdict. -/
theorem concludes_of_writeAll {after : FileTree}
    (audited : Audit.run tree (o.request config) = .ok audit)
    (written : writeAll tree (o.parcels time audit) = (after, none)) :
    Concludes tree time o config audit (o.conclude audit (after, none)) := by
  have decision : audit.decision = .pass ↔
      audit.report.Passes (o.ci || config.strictDuplicates) := by
    rw [Audit.decision_of_run audited]
    exact Report.ofReport_eq_pass_iff
  constructor
  case passes =>
    rw [exitCode_conclude, ← decision]
    cases audit.decision <;> decide
  case fails =>
    rw [exitCode_conclude, ← decision]
    cases audit.decision <;> decide
  case announces =>
    intro told
    rw [announces_reportText_iff, exitCode_conclude]
    exact ⟨fun same => same ▸ rfl, fun same => (exitCode_injective same).symm⟩
  case printed =>
    intro unnamed
    rw [← closeLine_reportText]
    unfold Options.conclude Options.ending
    rw [unnamed]
    rfl
  case written =>
    intro path named
    obtain ⟨before, snapshot, report⟩ := exists_between_of_writeAll written
    rw [Options.reportParcels, named, Option.map_some, Option.toList_some] at report
    have write := writeAll_singleton_iff.mp report
    refine ⟨?_, before, snapshot, write, fun unlinked => Artifact.arrives_of_write unlinked write⟩
    unfold Options.conclude Options.ending
    rw [named]
    rfl

/-- A run that writes all its artifacts does not end with the exit status 2, and one that fails to
write does. -/
theorem exitCode_conclude_eq_two_iff {result : FileTree × Option (Delivery × Fault)} :
    (o.conclude audit result).exitCode = 2 ↔
      ∃ delivery fault, result.2 = some (delivery, fault) := by
  rcases result with ⟨after, _ | ⟨delivery, fault⟩⟩
  · exact iff_of_false (exitCode_ne_two audit.decision) nofun
  · exact iff_of_true rfl ⟨delivery, fault, rfl⟩

/-- The exit status is 2 just when something fails. -/
theorem exitCode_eq_two_iff (accepted : readArguments {} arguments = .audit o) :
    (run tree time arguments).exitCode = 2 ↔ Stops tree time o := by
  cases found : Config.discover tree o.root o.config with
  | error fault =>
    rw [run_of_error accepted (auditOf_of_discover_error found)]
    exact iff_of_true rfl (.discovery found)
  | ok config =>
    have audits := auditOf_of_discover found
    cases audited : Audit.run tree (o.request config) with
    | error fault =>
      rw [run_of_error accepted (audits.trans audited)]
      exact iff_of_true rfl (.audit found audited)
    | ok audit =>
      rw [run_of_ok accepted (audits.trans audited), exitCode_conclude_eq_two_iff]
      constructor
      · rintro ⟨delivery, fault, failed⟩
        exact .write found audited failed
      · rintro (failed | ⟨found', failed⟩ | ⟨found', audited', failed⟩)
        · cases found.symm.trans failed
        · cases found.symm.trans found'
          cases audited.symm.trans failed
        · cases found.symm.trans found'
          cases audited.symm.trans audited'
          exact ⟨_, _, failed⟩

/-- Without the option for it, the report is to be no file. -/
theorem without_report (o : Options) : o.without (· == "report") = { o with report := none } := by
  simp [Options.without]

/-- Otherwise the run ends with its verdict, and without a file for the report it would have printed
the report. -/
theorem concludes_of_exitCode (accepted : readArguments {} arguments = .audit o)
    (finished : (run tree time arguments).exitCode ≠ 2) :
    ∃ config audit, Config.discover tree o.root o.config = .ok config ∧
      Audit.run tree (o.request config) = .ok audit ∧
      Concludes tree time o config audit (run tree time arguments) ∧
      (run tree time (without (· == "report") arguments)).exitCode =
        (run tree time arguments).exitCode ∧
      (run tree time (without (· == "report") arguments)).output =
        o.reportText audit ++ (o.format.getD .json).lineEnd := by
  have unstopped := mt (exitCode_eq_two_iff accepted).mpr finished
  cases found : Config.discover tree o.root o.config with
  | error fault => exact absurd (.discovery found) unstopped
  | ok config =>
  have audits := auditOf_of_discover found
  cases audited : Audit.run tree (o.request config) with
  | error fault => exact absurd (.audit found audited) unstopped
  | ok audit =>
  rcases written : writeAll tree (o.parcels time audit) with ⟨after, _ | ⟨delivery, fault⟩⟩
  · have ran : run tree time arguments = o.conclude audit (after, none) := by
      rw [run_of_ok accepted (audits.trans audited), written]
    obtain ⟨before, snapshot, -⟩ := exists_between_of_writeAll written
    have accepted' : readArguments {} (without (· == "report") arguments) =
        .audit { o with report := none } := by
      rw [← without_report]
      exact accepted_without _ accepted
    have alone : ({ o with report := none } : Options).parcels time audit =
        o.snapshotParcels time audit := List.append_nil _
    rw [ran, run_of_ok accepted' (audits.trans audited), alone, snapshot]
    exact ⟨config, audit, rfl, audited, concludes_of_writeAll audited written, rfl,
      closeLine_reportText o audit⟩
  · exact absurd (.write found audited (congrArg Prod.snd written)) unstopped

/-! ## Runs that only show differently -/

/-- A run that delivers ends with the verdict of its audit. -/
theorem exitCode_of_delivers (accepted : readArguments {} arguments = .audit o)
    (delivers : (run tree time arguments).Delivers) (audited : auditOf tree o = .ok audit) :
    (run tree time arguments).exitCode = audit.decision.exitCode := by
  rw [run_of_ok accepted audited] at delivers ⊢
  rcases written : writeAll tree (o.parcels time audit) with ⟨after, _ | ⟨delivery, fault⟩⟩
  · rfl
  · rw [written] at delivers
    exact absurd rfl (delivers delivery fault)

/-- Two runs whose arguments differ only in how and where results are shown end alike if they
deliver. -/
theorem run_of_without_shows {time' : String} {arguments' : List String} {o' : Options}
    (accepted : readArguments {} arguments = .audit o)
    (accepted' : readArguments {} arguments' = .audit o')
    (same : without shows arguments' = without shows arguments)
    (delivers : (run tree time arguments).Delivers)
    (delivers' : (run tree time' arguments').Delivers) :
    (run tree time' arguments').exitCode = (run tree time arguments).exitCode ∧
      ((∃ fault, auditOf tree o = .error fault ∧ auditOf tree o' = .error fault) ∨
        ∃ audit audit', auditOf tree o = .ok audit ∧ auditOf tree o' = .ok audit' ∧
          audit.SameVerdict audit') := by
  have options : o'.without shows = o.without shows := by
    have read := accepted_without shows accepted
    have read' := accepted_without shows accepted'
    rw [same] at read'
    exact Command.audit.inj (read'.symm.trans read)
  have audits := auditOf_of_without_shows tree options
  refine ⟨?_, audits⟩
  rcases audits with ⟨fault, stopped, stopped'⟩ | ⟨audit, audit', audited, audited', alike⟩
  · rw [run_of_error accepted stopped, run_of_error accepted' stopped']
  · rw [exitCode_of_delivers accepted delivers audited,
      exitCode_of_delivers accepted' delivers' audited', alike.decision]

/-! ## Every run -/

/-- **The exit status, the findings and the report agree.** A run whose arguments are accepted ends
with the exit status 2 just when the configuration, the audit or a write fails. Otherwise its exit
status says whether the findings pass under the policy that applies, and so does the report, which
is the same text in a file and on the output, but for the end of its last line. Two runs that
deliver and whose arguments differ only in how and where results are shown have the same exit status
and the same findings. -/
theorem run_of_accepted (tree : FileTree) (time : String)
    (accepted : readArguments {} arguments = .audit o) :
    ((run tree time arguments).exitCode = 2 ↔ Stops tree time o) ∧
      ((run tree time arguments).exitCode ≠ 2 → ∃ config audit,
        Config.discover tree o.root o.config = .ok config ∧
        Audit.run tree (o.request config) = .ok audit ∧
        Concludes tree time o config audit (run tree time arguments) ∧
        (run tree time (without (· == "report") arguments)).exitCode =
          (run tree time arguments).exitCode ∧
        (run tree time (without (· == "report") arguments)).output =
          o.reportText audit ++ (o.format.getD .json).lineEnd) ∧
      ∀ time' arguments' o', readArguments {} arguments' = .audit o' →
        without shows arguments' = without shows arguments → (run tree time arguments).Delivers →
        (run tree time' arguments').Delivers →
        (run tree time' arguments').exitCode = (run tree time arguments).exitCode ∧
          ((∃ fault, auditOf tree o = .error fault ∧ auditOf tree o' = .error fault) ∨
            ∃ audit audit', auditOf tree o = .ok audit ∧ auditOf tree o' = .ok audit' ∧
              audit.SameVerdict audit') :=
  ⟨exitCode_eq_two_iff accepted, concludes_of_exitCode accepted,
    fun _ _ _ accepted' same delivers delivers' =>
      run_of_without_shows accepted accepted' same delivers delivers'⟩

end Run

/-! ## A summary in a file -/

/-- The strict policy, and a summary in a file. -/
def summaryArguments : List String := ["--ci", "--format", "text", "--report", "r.txt"]

/-- What they say. -/
def summaryOptions : Options where
  ci := true
  format := some .text
  report := some (.ofString "r.txt")

/-- The strict policy, and more words. -/
def wordyArguments : List String := ["--ci", "-v"]

/-- Both runs end without a failure, the first one with a verdict that passes. -/
theorem run_summaryArguments :
    (run Audit.sampleRepository "now" summaryArguments).exitCode = 0 ∧
      (run Audit.sampleRepository "now" summaryArguments).failure = none ∧
      (run Audit.sampleRepository "now" wordyArguments).failure = none := by
  decide +kernel

/-- The summary in the file is what would be printed, and the run ends like one that prints JSON. -/
theorem run_of_accepted_summary :
    readArguments {} summaryArguments = .audit summaryOptions ∧
      readArguments {} wordyArguments = .audit { ci := true } ∧
      without shows wordyArguments = without shows summaryArguments ∧
      ∃ config audit,
        Concludes Audit.sampleRepository "now" summaryOptions config audit
          (run Audit.sampleRepository "now" summaryArguments) ∧
        (run Audit.sampleRepository "now" (without (· == "report") summaryArguments)).output =
          summaryOptions.reportText audit ++ Format.text.lineEnd ∧
        (run Audit.sampleRepository "now" wordyArguments).exitCode =
          (run Audit.sampleRepository "now" summaryArguments).exitCode := by
  have accepted : readArguments {} summaryArguments = .audit summaryOptions := by decide +kernel
  have accepted' : readArguments {} wordyArguments = .audit { ci := true } := by decide +kernel
  have same : without shows wordyArguments = without shows summaryArguments := by decide +kernel
  obtain ⟨code, failure, failure'⟩ := run_summaryArguments
  have finished : (run Audit.sampleRepository "now" summaryArguments).exitCode ≠ 2 := by
    rw [code]
    decide
  have delivers : (run Audit.sampleRepository "now" summaryArguments).Delivers := by
    intro delivery fault
    rw [failure]
    exact nofun
  have delivers' : (run Audit.sampleRepository "now" wordyArguments).Delivers := by
    intro delivery fault
    rw [failure']
    exact nofun
  obtain ⟨-, concluded, alike⟩ := run_of_accepted Audit.sampleRepository "now" accepted
  obtain ⟨config, audit, -, -, concludes, -, printed⟩ := concluded finished
  obtain ⟨codes, -⟩ := alike "now" wordyArguments _ accepted' same delivers delivers'
  exact ⟨accepted, accepted', same, config, audit, concludes, printed, codes⟩

/-! ## A report that is lost -/

/-- A repository with a link at the temporary name of a report, which leads to the place of the
report. -/
def linkedRepository : FileTree :=
  { Audit.sampleRepository with
    items := Audit.sampleRepository.items ++
      [([.ofString ".r.json.tmp"], .link (.ofString "r.json"))] }

/-- The run passes, and the report cannot be read. -/
theorem run_linkedRepository :
    (run linkedRepository "now" ["--report", "r.json"]).exitCode = 0 ∧
      ((run linkedRepository "now" ["--report", "r.json"]).tree.read
        (.ofString "r.json")).isOk = false := by
  decide +kernel

/-- The report is written through the link, which then takes its place. The run passes, and there is
nothing to read. -/
theorem passing_run_loses_report :
    (run linkedRepository "now" ["--report", "r.json"]).exitCode = 0 ∧
      ∀ bytes, (run linkedRepository "now" ["--report", "r.json"]).tree.read
        (.ofString "r.json") ≠ .ok bytes := by
  obtain ⟨code, unreadable⟩ := run_linkedRepository
  refine ⟨code, fun bytes read => ?_⟩
  rw [read] at unreadable
  cases unreadable

end CatalogAudit.CommandLine
