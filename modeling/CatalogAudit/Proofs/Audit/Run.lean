import CatalogAudit.Audit
import CatalogAudit.Proofs.Report.Findings

/-!
# The steps of an audit

An audit reads its settings, loads the catalog, scans the sources and draws its conclusion. It is
finished when every one of these steps succeeds, and what it concludes is made from what they give.
-/

namespace CatalogAudit

/-- Two computations succeed when the first one does and the second one with its result. -/
theorem bind_eq_ok_iff {ε α β : Type} {first : Except ε α} {next : α → Except ε β} {b : β} :
    first >>= next = .ok b ↔ ∃ a, first = .ok a ∧ next a = .ok b := by
  cases first with
  | error e =>
    constructor
    · intro h
      cases h
    · rintro ⟨_, bad, -⟩
      cases bad
  | ok a =>
    constructor
    · intro h
      exact ⟨a, rfl, h⟩
    · rintro ⟨_, same, h⟩
      rw [← Except.ok.inj same] at h
      exact h

/-- Another name for the error makes no difference to success. -/
theorem mapError_eq_ok_iff {ε ε' α : Type} {result : Except ε α} {f : ε → ε'} {a : α} :
    result.mapError f = .ok a ↔ result = .ok a := by
  unfold Except.mapError
  cases result with
  | error e => simp only [reduceCtorEq]
  | ok b => simp only [Except.ok.injEq]

/-- The settings of a scan can be read when there is something to scan and all patterns can be
read. -/
theorem Config.scanSettings_eq_ok_iff {config : Config} {settings : Scan.Settings} :
    config.scanSettings = .ok settings ↔
      config.sourceRoots.isEmpty = false ∧
        readGlobs .extensions config.extensions = .ok settings.extensions ∧
        readPattern .tokenPattern config.tokenPattern = .ok settings.patterns.token ∧
        readPattern .symbolPattern config.symbolPattern = .ok settings.patterns.symbol ∧
        readPattern .heuristicPattern config.heuristicPattern =
          .ok settings.patterns.heuristic := by
  unfold scanSettings
  cases config.sourceRoots.isEmpty with
  | true => exact ⟨nofun, fun h => absurd h.1 Bool.noConfusion⟩
  | false =>
    rw [if_neg Bool.false_ne_true]
    simp only [bind_eq_ok_iff, true_and]
    constructor
    · rintro ⟨extensions, first, token, second, symbol, third, heuristic, fourth, same⟩
      rw [← Except.ok.inj same]
      exact ⟨first, second, third, fourth⟩
    · rintro ⟨first, second, third, fourth⟩
      exact ⟨_, first, _, second, _, third, _, fourth, rfl⟩

namespace Audit

/-- What an audit concludes from the catalog and the scan. -/
def conclude (request : Request) (monoliths : List Glob) (manifest : Manifest)
    (scan : Scan.Outcome) : Audit :=
  let findings := Report.reconcile manifest scan monoliths
  let report := if request.details then findings.withFiles scan.entries else findings
  { manifest, scan, report, decision := .ofReport report (.ofConfig request.config) }

variable {tree : FileTree} {request : Request} {audit : Audit}

/-- With settings that can be read, what is left is to load, to scan and to conclude. -/
theorem run_of_readable {settings : Scan.Settings} {monoliths : List Glob}
    (compiled : request.config.scanSettings = .ok settings)
    (compiled' : request.config.monolithGlobs = .ok monoliths) :
    run tree request = do
      let manifest ← Manifest.load tree request.form (request.config.manifestPath request.root)
      let scan ← Scan.run tree settings (request.config.sourceRootPaths request.root)
      return conclude request monoliths manifest scan := by
  unfold run
  dsimp only
  rw [compiled, compiled']
  rfl

/-- An audit is finished when each of its steps succeeds. -/
theorem run_eq_ok_iff :
    run tree request = .ok audit ↔
      ∃ settings monoliths manifest scan, request.config.scanSettings = .ok settings ∧
        request.config.monolithGlobs = .ok monoliths ∧
        Manifest.load tree request.form (request.config.manifestPath request.root) = .ok manifest ∧
        Scan.run tree settings (request.config.sourceRootPaths request.root) = .ok scan ∧
        conclude request monoliths manifest scan = audit := by
  unfold run
  simp only [bind_eq_ok_iff, mapError_eq_ok_iff]
  constructor
  · rintro ⟨settings, first, monoliths, second, manifest, third, scan, fourth, same⟩
    exact ⟨settings, monoliths, manifest, scan, first, second, third, fourth, Except.ok.inj same⟩
  · rintro ⟨settings, monoliths, manifest, scan, first, second, third, fourth, rfl⟩
    exact ⟨settings, first, monoliths, second, manifest, third, scan, fourth, rfl⟩

/-- The verdict of an audit is that on its report. -/
theorem decision_of_run (finished : run tree request = .ok audit) :
    audit.decision = .ofReport audit.report (.ofConfig request.config) := by
  obtain ⟨settings, monoliths, manifest, scan, -, -, -, -, rfl⟩ := run_eq_ok_iff.mp finished
  rfl

/-- A repository in which one file registers the one token of the catalog. -/
def sampleRepository : FileTree :=
  let sources : Location := [.ofString "libs", .ofString "avs-effects-legacy", .ofString "src"]
  { items :=
      [([.ofString "docs"], .folder),
       ([.ofString "docs", .ofString "effects_manifest.yaml"],
        .file "entries:\n  - token: glow\n    kind: effect\n".toUTF8),
       ([.ofString "libs"], .folder),
       ([.ofString "libs", .ofString "avs-effects-legacy"], .folder),
       (sources, .folder),
       (sources ++ [.ofString "a.cpp"], .file "REGISTER_AVS_EFFECT(Glow, \"glow\")".toUTF8)] }

end Audit

end CatalogAudit
