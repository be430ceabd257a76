import CatalogAudit.Proofs.Audit.Run
import CatalogAudit.Proofs.Scan.Accounting

/-!
# What a verdict rests on

Besides the registrations, a scan looks for declared names and for names that file names suggest,
and a report shows which files bundle registrations. All of that is told for the reader's sake. Here
an audit is carried out twice with other patterns for it, and with or without the list of files:
either both audits end with the same fault, or they agree in the catalog, the registry, the findings
that count, and the verdict.

What two scans have in common is said by the listing of each entry: its path with its tokens.
-/

namespace CatalogAudit

/-! ## Scans that list the same -/

namespace Scan

/-- The path of an entry with the tokens that it lists. -/
def Entry.listing (entry : Entry) : String × List String := (entry.path, entry.tokens)

/-- Two outcomes list the same tokens under the same paths, in the same order, and could not read
the same things. -/
structure Outcome.Alike (outcome outcome' : Outcome) : Prop where
  /-- The registries are the same. -/
  registry : outcome.registry = outcome'.registry
  /-- The entries have the same paths and tokens. -/
  listings : outcome.entries.map Entry.listing = outcome'.entries.map Entry.listing
  /-- The same could not be read. -/
  unreadable : outcome.unreadable = outcome'.unreadable

/-- An outcome is like itself. -/
theorem Outcome.Alike.refl (outcome : Outcome) : outcome.Alike outcome := ⟨rfl, rfl, rfl⟩

variable {tree : FileTree} {settings settings' : Settings} {patterns patterns' : Patterns}

/-- What a file registers is found by the pattern of registrations alone. -/
theorem listing_extract (token : patterns.token = patterns'.token) (path : String)
    (fileName text : List Char) :
    (patterns.extract path fileName text).listing =
      (patterns'.extract path fileName text).listing := by
  unfold Patterns.extract Entry.listing
  rw [token]

/-- What is registered in a file depends on the token pattern only. -/
theorem map_listing_readFile (token : patterns.token = patterns'.token) (file : SourceFile) :
    (readFile tree patterns file).map Entry.listing =
      (readFile tree patterns' file).map Entry.listing := by
  unfold readFile
  cases tree.readText file.path with
  | ok text => exact congrArg Except.ok (listing_extract token _ _ text)
  | error e => rfl

/-- The registry is made of what the entries list. -/
theorem registryOf_eq_foldl (entries : List Entry) :
    registryOf entries =
      (entries.map Entry.listing).foldl (fun registry listing =>
        registry.merge (.ofList (listing.2.map fun token => (token, listing.1)))) .empty := by
  rw [List.foldl_map]
  rfl

/-- What the entries list is what was read of the files. -/
theorem map_listing_entries (results : List (Except Unreadable Entry))
    (unreadable : List Unreadable) :
    (outcomeOf results unreadable).entries.map Entry.listing =
      (results.map (Except.map Entry.listing)).filterMap Except.toOption := by
  change (results.filterMap _).map Entry.listing = _
  rw [List.filterMap_map, List.map_filterMap]
  refine List.filterMap_congr fun result _ => ?_
  cases result <;> rfl

/-- The failure that a result is. -/
def failure? {α : Type} : Except Unreadable α → Option Unreadable
  | .ok _ => none
  | .error file => some file

/-- A failure has nothing to list, so it shows in the image that lists. -/
theorem failures_eq_filterMap (results : List (Except Unreadable Entry)) :
    failures results = (results.map (Except.map Entry.listing)).filterMap failure? := by
  unfold failures
  rw [List.filterMap_map]
  refine List.filterMap_congr fun result _ => ?_
  cases result <;> rfl

/-- Results with the same listings make outcomes that are alike. -/
theorem outcomeOf_alike_of_listings {results results' : List (Except Unreadable Entry)}
    (same : results.map (Except.map Entry.listing) = results'.map (Except.map Entry.listing))
    (unreadable : List Unreadable) :
    (outcomeOf results unreadable).Alike (outcomeOf results' unreadable) := by
  have listings : (outcomeOf results unreadable).entries.map Entry.listing =
      (outcomeOf results' unreadable).entries.map Entry.listing := by
    rw [map_listing_entries, map_listing_entries, same]
  refine ⟨?_, listings, ?_⟩
  · change registryOf (outcomeOf results unreadable).entries =
      registryOf (outcomeOf results' unreadable).entries
    rw [registryOf_eq_foldl, listings, ← registryOf_eq_foldl]
  · change (unreadable ++ failures results).mergeSort _ =
      (unreadable ++ failures results').mergeSort _
    rw [failures_eq_filterMap, failures_eq_filterMap, same]

/-- Scans for the same registrations in the same files fail alike or have outcomes that are
alike. -/
theorem run_alike (tree : FileTree) (roots : List Path)
    (extensions : settings.extensions = settings'.extensions)
    (token : settings.patterns.token = settings'.patterns.token) :
    (∃ fault, run tree settings roots = .error fault ∧ run tree settings' roots = .error fault) ∨
      ∃ outcome outcome', run tree settings roots = .ok outcome ∧
        run tree settings' roots = .ok outcome' ∧ outcome.Alike outcome' := by
  unfold run
  cases roots.mapM (visitsOf tree) with
  | error fault => exact .inl ⟨fault, rfl, rfl⟩
  | ok visits =>
    refine .inr ⟨_, _, rfl, rfl, ?_⟩
    unfold ofVisits
    rw [extensions]
    refine outcomeOf_alike_of_listings ?_ _
    rw [List.map_map, List.map_map]
    exact List.map_congr_left fun file _ => map_listing_readFile token file

end Scan

/-! ## Settings -/

namespace Config

/-- The configuration with other patterns for what is only shown. -/
def withDiagnostics (config : Config) (symbol heuristic : String) (monoliths : List String) :
    Config :=
  { config with
    symbolPattern := symbol
    heuristicPattern := heuristic
    monolithFiles := monoliths }

/-- The patterns of the configuration can be read, and there is something to scan. -/
def Compiles (config : Config) : Prop :=
  (∃ settings, config.scanSettings = .ok settings) ∧
    ∃ monoliths, config.monolithGlobs = .ok monoliths

instance (config : Config) : Decidable config.Compiles :=
  decidable_of_iff (config.scanSettings.toBool = true ∧ config.monolithGlobs.toBool = true) (by
    unfold Compiles Except.toBool
    cases config.scanSettings <;> cases config.monolithGlobs <;> simp)

/-- Which files are scanned, and for which registrations, is said by fields of their own. -/
theorem scanSettings_withDiagnostics {config : Config} {symbol heuristic : String}
    {monoliths : List String} {settings settings' : Scan.Settings}
    (h : config.scanSettings = .ok settings)
    (h' : (config.withDiagnostics symbol heuristic monoliths).scanSettings = .ok settings') :
    settings.extensions = settings'.extensions ∧
      settings.patterns.token = settings'.patterns.token := by
  obtain ⟨-, extensions, token, -, -⟩ := scanSettings_eq_ok_iff.mp h
  obtain ⟨-, extensions', token', -, -⟩ := scanSettings_eq_ok_iff.mp h'
  exact ⟨Except.ok.inj (extensions.symm.trans extensions'),
    Except.ok.inj (token.symm.trans token')⟩

end Config

/-! ## Findings that count -/

namespace Report

/-- Two reports have the same findings that count, the same numbers, and the same that could not be
read. -/
structure SameFindings (report report' : Report) : Prop where
  /-- The same tokens are missing. -/
  missing : report.missing = report'.missing
  /-- The same tokens are extra. -/
  extra : report.extra = report'.extra
  /-- The same tokens are duplicate, in the same files. -/
  duplicates : report.duplicates = report'.duplicates
  /-- The same numbers are reported. -/
  totals : report.totals = report'.totals
  /-- The same could not be read. -/
  unreadable : report.unreadable = report'.unreadable

variable {report report' report'' : Report}

/-- The same findings twice are the same findings. -/
theorem SameFindings.trans (first : report.SameFindings report')
    (second : report'.SameFindings report'') : report.SameFindings report'' where
  missing := first.missing.trans second.missing
  extra := first.extra.trans second.extra
  duplicates := first.duplicates.trans second.duplicates
  totals := first.totals.trans second.totals
  unreadable := first.unreadable.trans second.unreadable

/-- Having the same findings goes both ways. -/
theorem SameFindings.symm (same : report.SameFindings report') : report'.SameFindings report where
  missing := same.missing.symm
  extra := same.extra.symm
  duplicates := same.duplicates.symm
  totals := same.totals.symm
  unreadable := same.unreadable.symm

/-- The list of files is no finding. -/
theorem sameFindings_withFiles (report : Report) (entries : List Scan.Entry) :
    (report.withFiles entries).SameFindings report := ⟨rfl, rfl, rfl, rfl, rfl⟩

/-- The findings that count are made from what scans that are alike have in common. -/
theorem sameFindings_reconcile {scan scan' : Scan.Outcome} (alike : scan.Alike scan')
    (manifest : Manifest) (monoliths monoliths' : List Glob) :
    (reconcile manifest scan monoliths).SameFindings (reconcile manifest scan' monoliths') := by
  have scanned : scan.entries.length = scan'.entries.length := by
    have lengths := congrArg List.length alike.listings
    rwa [List.length_map, List.length_map] at lengths
  unfold reconcile
  rw [alike.registry, alike.unreadable, scanned]
  exact ⟨rfl, rfl, rfl, rfl, rfl⟩

/-- The verdict is drawn from the findings that count. -/
theorem SameFindings.ofReport_eq (same : report.SameFindings report') (policy : Policy) :
    Decision.ofReport report policy = Decision.ofReport report' policy := by
  unfold Decision.ofReport hasMismatch hasDuplicates
  rw [same.missing, same.extra, same.duplicates]

end Report

/-! ## Audits that agree -/

namespace Audit

/-- Two audits agree in the catalog, the registry, the findings that count, and the verdict. -/
structure SameVerdict (audit audit' : Audit) : Prop where
  /-- The catalogs are the same. -/
  manifest : audit.manifest = audit'.manifest
  /-- The registries are the same. -/
  registry : audit.scan.registry = audit'.scan.registry
  /-- The findings that count are the same. -/
  findings : audit.report.SameFindings audit'.report
  /-- The verdicts are the same. -/
  decision : audit.decision = audit'.decision

variable {tree : FileTree} {request request' : Request} {scan scan' : Scan.Outcome}

/-- Hints and details add no findings. -/
theorem sameFindings_conclude (request : Request) (monoliths : List Glob) (manifest : Manifest)
    (scan : Scan.Outcome) :
    (conclude request monoliths manifest scan).report.SameFindings
      (Report.reconcile manifest scan monoliths) := by
  unfold conclude
  cases request.details with
  | true => exact Report.sameFindings_withFiles _ _
  | false => exact ⟨rfl, rfl, rfl, rfl, rfl⟩

/-- Conclusions from the same catalog and from scans that are alike agree, if the policy is the
same. -/
theorem sameVerdict_conclude
    (policy : request.config.strictDuplicates = request'.config.strictDuplicates)
    (alike : scan.Alike scan') (monoliths monoliths' : List Glob) (manifest : Manifest) :
    (conclude request monoliths manifest scan).SameVerdict
      (conclude request' monoliths' manifest scan') := by
  have findings := (sameFindings_conclude request monoliths manifest scan).trans
    ((Report.sameFindings_reconcile alike manifest monoliths monoliths').trans
      (sameFindings_conclude request' monoliths' manifest scan').symm)
  refine ⟨rfl, alike.registry, findings, ?_⟩
  have same : Policy.ofConfig request.config = Policy.ofConfig request'.config := by
    unfold Policy.ofConfig
    rw [policy]
  change Decision.ofReport _ (Policy.ofConfig request.config) =
    Decision.ofReport _ (Policy.ofConfig request'.config)
  rw [same]
  exact findings.ofReport_eq _

/-- With settings that can be read, two requests for the same catalog under the same policy are
answered alike when their scans are. -/
theorem run_of_alike {settings settings' : Scan.Settings} {monoliths monoliths' : List Glob}
    (compiled : request.config.scanSettings = .ok settings)
    (read : request.config.monolithGlobs = .ok monoliths)
    (compiled' : request'.config.scanSettings = .ok settings')
    (read' : request'.config.monolithGlobs = .ok monoliths')
    (catalog : Manifest.load tree request'.form (request'.config.manifestPath request'.root) =
      Manifest.load tree request.form (request.config.manifestPath request.root))
    (policy : request.config.strictDuplicates = request'.config.strictDuplicates)
    (scans : let scanned := Scan.run tree settings (request.config.sourceRootPaths request.root)
      let scanned' := Scan.run tree settings' (request'.config.sourceRootPaths request'.root)
      (∃ fault, scanned = .error fault ∧ scanned' = .error fault) ∨
        ∃ scan scan', scanned = .ok scan ∧ scanned' = .ok scan' ∧ scan.Alike scan') :
    (∃ fault, run tree request = .error fault ∧ run tree request' = .error fault) ∨
      ∃ audit audit', run tree request = .ok audit ∧ run tree request' = .ok audit' ∧
        audit.SameVerdict audit' := by
  rw [run_of_readable compiled read, run_of_readable compiled' read', catalog]
  cases Manifest.load tree request.form (request.config.manifestPath request.root) with
  | error fault => exact .inl ⟨fault, rfl, rfl⟩
  | ok manifest =>
    change (∃ fault, (Scan.run tree settings _ >>= _) = .error fault ∧
        (Scan.run tree settings' _ >>= _) = .error fault) ∨
      ∃ audit audit', (Scan.run tree settings _ >>= _) = .ok audit ∧
        (Scan.run tree settings' _ >>= _) = .ok audit' ∧ _
    rcases scans with ⟨fault, failed, failed'⟩ | ⟨scan, scan', scanned, scanned', alike⟩
    · rw [failed, failed']
      exact .inl ⟨fault, rfl, rfl⟩
    · rw [scanned, scanned']
      exact .inr ⟨_, _, rfl, rfl, sameVerdict_conclude policy alike monoliths monoliths' manifest⟩

/-- Whether the list of files is asked for changes neither a fault nor a verdict. -/
theorem run_withDetails (tree : FileTree) (request : Request) (details : Bool) :
    let request' : Request := { request with details }
    (∃ fault, run tree request = .error fault ∧ run tree request' = .error fault) ∨
      ∃ audit audit', run tree request = .ok audit ∧ run tree request' = .ok audit' ∧
        audit.SameVerdict audit' := by
  intro request'
  cases compiled : request.config.scanSettings with
  | error e =>
    refine .inl ⟨.config e, ?_, ?_⟩
    all_goals
      unfold run
      dsimp only [request']
      rw [compiled]
      rfl
  | ok settings =>
  cases read : request.config.monolithGlobs with
  | error e =>
    refine .inl ⟨.config e, ?_, ?_⟩
    all_goals
      unfold run
      dsimp only [request']
      rw [compiled, read]
      rfl
  | ok monoliths =>
    refine run_of_alike compiled read compiled read rfl rfl ?_
    dsimp only [request']
    cases Scan.run tree settings (request.config.sourceRootPaths request.root) with
    | error fault => exact .inl ⟨fault, rfl, rfl⟩
    | ok scan => exact .inr ⟨scan, scan, rfl, rfl, .refl scan⟩

/-- Two requests that ask for the same catalog, sources, registrations and policy are answered
alike: with the same fault, or by audits that agree. What they say of declared names, of names
suggested by file names, of files that bundle registrations and of the list of files does not
matter, as long as it can be read. -/
theorem run_withDiagnostics (compiles : request.config.Compiles) {symbol heuristic : String}
    {monoliths : List String}
    (compiles' : (request.config.withDiagnostics symbol heuristic monoliths).Compiles)
    (details : Bool) (tree : FileTree) :
    let request' : Request :=
      { request with
        config := request.config.withDiagnostics symbol heuristic monoliths
        details }
    (∃ fault, run tree request = .error fault ∧ run tree request' = .error fault) ∨
      ∃ audit audit', run tree request = .ok audit ∧ run tree request' = .ok audit' ∧
        audit.SameVerdict audit' := by
  intro request'
  obtain ⟨⟨settings, compiled⟩, globs, read⟩ := compiles
  obtain ⟨⟨settings', compiled'⟩, globs', read'⟩ := compiles'
  obtain ⟨extensions, token⟩ := Config.scanSettings_withDiagnostics compiled compiled'
  exact run_of_alike compiled read compiled' read' rfl rfl
    (Scan.run_alike tree (request.config.sourceRootPaths request.root) extensions token)

/-- Everything that is only shown is changed, and the list of files is asked for. The audit is
finished all the same. -/
theorem run_withDiagnostics_default :
    let request : Request := { root := .ofString ".", config := {} }
    let changed := request.config.withDiagnostics "(def) [a-z]+" "^(.)" ["*"]
    let request' : Request := { request with config := changed, details := true }
    request.config.Compiles ∧ changed.Compiles ∧ (run sampleRepository request).isOk = true ∧
      ((∃ fault, run sampleRepository request = .error fault ∧
          run sampleRepository request' = .error fault) ∨
        ∃ audit audit', run sampleRepository request = .ok audit ∧
          run sampleRepository request' = .ok audit' ∧ audit.SameVerdict audit') := by
  intro request changed request'
  have compiles : request.config.Compiles := by decide +kernel
  have compiles' : changed.Compiles := by decide +kernel
  have finished : (run sampleRepository request).isOk = true := by decide +kernel
  exact ⟨compiles, compiles', finished,
    run_withDiagnostics compiles compiles' true sampleRepository⟩

end Audit

end CatalogAudit
