import CatalogAudit.Proofs.Manifest.Catalog
import CatalogAudit.Proofs.Path.FileName
import CatalogAudit.Proofs.Scan.Listing
import CatalogAudit.Report.Decision
import Mathlib.Data.List.Permutation

/-!
# What a report and a verdict say

The findings of a report are computed from a registry and from the index of the catalog. Here they
are stated over the entries of the single files and the entries of the catalog: which tokens nobody
lists, which listed tokens the catalog does not have, and which tokens are listed under several
paths. The verdict follows from them.
-/

namespace CatalogAudit.Report

open Scan (Outcome)

/-- A path has the name of a file that bundles registrations last: one of the patterns accepts its
bytes. -/
def Bundles (monoliths : List Glob) (path : String) : Prop :=
  ∃ name, Path.IsNameText name ∧ Path.LastName name path.toList ∧
    Glob.acceptsAny monoliths (Text.encode name) = true

/-- The file name of a path is matched exactly when the path bundles registrations. -/
theorem isMonolith_iff {monoliths : List Glob} {path : String} :
    isMonolith monoliths path = true ↔ Bundles monoliths path := by
  have named := @Path.fileName?_ofString_eq_some_iff path
  unfold isMonolith Bundles
  cases last : (Path.ofString path).fileName? with
  | none =>
    refine ⟨nofun, fun ⟨name, isName, ends, _⟩ => ?_⟩
    have found := named.mpr ⟨name, isName, ends, rfl⟩
    rw [last] at found
    cases found
  | some bytes =>
    constructor
    · intro accepted
      obtain ⟨name, isName, ends, rfl⟩ := named.mp last
      exact ⟨name, isName, ends, accepted⟩
    · rintro ⟨name, isName, ends, accepted⟩
      have found := named.mpr ⟨name, isName, ends, rfl⟩
      rw [last, Option.some_inj] at found
      rwa [← found] at accepted

/-- What a report on a catalog and a scan has to say. -/
structure Answers (m : Manifest) (outcome : Outcome) (monoliths : List Glob) (report : Report) :
    Prop where
  /-- The missing tokens are those of the catalog that no entry lists. -/
  missing : ∀ token, token ∈ report.missing.names ↔
    token ∈ m.tokens ∧ ∀ path, ¬ outcome.Lists token path
  /-- The extra tokens are the listed ones that the catalog does not have. -/
  extra : ∀ token, token ∈ report.extra.names ↔
    (∃ path, outcome.Lists token path) ∧ token ∉ m.tokens
  /-- The duplicate tokens are those listed under two different paths. -/
  duplicate : ∀ token, (report.duplicates.get? token).isSome = true ↔
    ∃ p q, p ≠ q ∧ outcome.Lists token p ∧ outcome.Lists token q
  /-- A duplicate token comes with all paths under which it is listed. -/
  duplicatePaths : ∀ token paths, report.duplicates.get? token = some paths →
    ∀ path, path ∈ paths.names ↔ outcome.Lists token path
  /-- The bundled tokens are those listed under the path of a file that bundles. -/
  bundled : ∀ token, (report.bundled.get? token).isSome = true ↔
    ∃ path, outcome.Lists token path ∧ Bundles monoliths path
  /-- A bundled token comes with all paths of such files under which it is listed. -/
  bundledPaths : ∀ token paths, report.bundled.get? token = some paths →
    ∀ path, path ∈ paths.names ↔ outcome.Lists token path ∧ Bundles monoliths path
  /-- The hints are the entries that list nothing and have a candidate, in their order. -/
  hints : report.hints =
    (outcome.entries.filter fun entry => entry.tokens.isEmpty && entry.candidate.isSome).map
      fun entry => { path := entry.path, candidate := entry.candidate.getD "" }
  /-- The size of the catalog is reported. -/
  manifest : report.totals.manifest = m.tokens.length
  /-- The two sides differ in size by their unmatched tokens. -/
  balance : report.totals.manifest + report.extra.size =
    report.totals.registered + report.missing.size

variable {m : Manifest} {outcome : Outcome} {entries : List Manifest.Entry}

/-! ## Findings -/

/-- What is missing is in the catalog, and no entry lists it. -/
theorem mem_missing_iff (folded : outcome.IsFolded) {monoliths : List Glob} {token : String} :
    token ∈ (reconcile m outcome monoliths).missing.names ↔
      token ∈ m.tokens ∧ ∀ path, ¬ outcome.Lists token path := by
  unfold reconcile
  rw [NameSet.mem_ofList, List.mem_filter, Bool.not_eq_true', ← Bool.not_eq_true,
    folded.contains_iff, not_exists]

/-- What is extra is listed by an entry, and the catalog does not have it. -/
theorem mem_extra_iff (folded : outcome.IsFolded) {monoliths : List Glob} {token : String} :
    token ∈ (reconcile (.ofEntries entries) outcome monoliths).extra.names ↔
      (∃ path, outcome.Lists token path) ∧ token ∉ (Manifest.ofEntries entries).tokens := by
  rw [← folded.contains_iff, Registry.contains_eq, ← Manifest.contains_iff]
  change token ∈ (outcome.registry.paths.filter _).names ↔ _
  rw [NameTable.mem_names_iff, NameTable.get?_filter]
  change ((outcome.registry.get? token).filter _).isSome = true ↔ _
  cases found : outcome.registry.get? token with
  | none => simp
  | some paths =>
    have filled : paths.isEmpty = false := by
      rw [NameSet.isEmpty, List.isEmpty_eq_false_iff]
      exact Registry.filled_of_get? found
    simp [filled]

/-- A token is a duplicate when the registry has more than one path for it, and these are its
paths. -/
theorem get?_duplicates_eq (m : Manifest) (outcome : Outcome) (monoliths : List Glob)
    (token : String) : (reconcile m outcome monoliths).duplicates.get? token =
      if 1 < (outcome.registry.pathsOf token).size then some (outcome.registry.pathsOf token)
      else none := Registry.get?_duplicates

/-- A duplicate is listed under two different paths. -/
theorem duplicate_iff (folded : outcome.IsFolded) {monoliths : List Glob} {token : String} :
    ((reconcile m outcome monoliths).duplicates.get? token).isSome = true ↔
      ∃ p q, p ≠ q ∧ outcome.Lists token p ∧ outcome.Lists token q := by
  have several : 1 < (outcome.registry.pathsOf token).size ↔
      ∃ p q, p ≠ q ∧ outcome.Lists token p ∧ outcome.Lists token q := by
    rw [NameSet.one_lt_size_iff]
    simp only [folded.mem_pathsOf_iff]
    constructor
    · rintro ⟨p, first, q, second, distinct⟩
      exact ⟨p, q, distinct, first, second⟩
    · rintro ⟨p, q, distinct, first, second⟩
      exact ⟨p, first, q, second, distinct⟩
  rw [get?_duplicates_eq, ← several]
  by_cases large : 1 < (outcome.registry.pathsOf token).size <;> simp [large]

/-- The paths of a duplicate are all under which it is listed. -/
theorem mem_duplicatePaths_iff (folded : outcome.IsFolded) {monoliths : List Glob}
    {token path : String} {paths : NameSet}
    (h : (reconcile m outcome monoliths).duplicates.get? token = some paths) :
    path ∈ paths.names ↔ outcome.Lists token path := by
  rw [get?_duplicates_eq, Option.ite_none_right_eq_some, Option.some_inj] at h
  rw [← h.2]
  exact folded.mem_pathsOf_iff

/-- The bundled tokens are looked up through the monoliths among the paths of the registry. -/
theorem get?_bundledIn {monoliths : List Glob} {registry : Registry} {token : String} :
    (bundledIn monoliths registry).get? token =
      if ((registry.pathsOf token).filter (isMonolith monoliths)).isEmpty then none
      else some ((registry.pathsOf token).filter (isMonolith monoliths)) := by
  unfold bundledIn
  rw [NameTable.get?_filterMap]
  change (registry.get? token).bind _ = _
  rw [Registry.get?_eq_ite]
  by_cases none : (registry.pathsOf token).isEmpty = true
  · have inside : ((registry.pathsOf token).filter (isMonolith monoliths)).isEmpty = true := by
      rw [NameSet.isEmpty_iff] at none ⊢
      exact fun path member => none path (NameSet.mem_filter.mp member).1
    rw [if_pos none, if_pos inside, Option.bind_none]
  · rw [if_neg none, Option.bind_some]

/-- Of the paths of a token those are bundled whose file name is matched. -/
theorem mem_monolithPaths_iff (folded : outcome.IsFolded) {monoliths : List Glob}
    {token path : String} :
    path ∈ ((outcome.registry.pathsOf token).filter (isMonolith monoliths)).names ↔
      outcome.Lists token path ∧ Bundles monoliths path := by
  rw [NameSet.mem_filter, folded.mem_pathsOf_iff, isMonolith_iff]

/-- A bundled token is listed under a path whose file name is matched. -/
theorem bundled_iff (folded : outcome.IsFolded) {monoliths : List Glob} {token : String} :
    ((reconcile m outcome monoliths).bundled.get? token).isSome = true ↔
      ∃ path, outcome.Lists token path ∧ Bundles monoliths path := by
  have some : (∃ path, outcome.Lists token path ∧ Bundles monoliths path) ↔
      ¬ ((outcome.registry.pathsOf token).filter (isMonolith monoliths)).isEmpty = true := by
    rw [NameSet.isEmpty_iff, not_forall_not]
    exact exists_congr fun path => (mem_monolithPaths_iff folded).symm
  rw [some]
  change ((bundledIn monoliths outcome.registry).get? token).isSome = true ↔ _
  rw [get?_bundledIn]
  by_cases none : ((outcome.registry.pathsOf token).filter (isMonolith monoliths)).isEmpty = true
  · simp [none]
  · simp [none]

/-- The paths of a bundled token are all such paths under which it is listed. -/
theorem mem_bundledPaths_iff (folded : outcome.IsFolded) {monoliths : List Glob}
    {token path : String} {paths : NameSet}
    (h : (reconcile m outcome monoliths).bundled.get? token = some paths) :
    path ∈ paths.names ↔ outcome.Lists token path ∧ Bundles monoliths path := by
  change (bundledIn monoliths outcome.registry).get? token = _ at h
  rw [get?_bundledIn, Option.ite_none_left_eq_some, Option.some_inj] at h
  rw [← h.2]
  exact mem_monolithPaths_iff folded

/-- A hint stands for every file without registrations that has the name of a candidate. -/
theorem hints_eq (entries : List Scan.Entry) :
    entries.filterMap hintOf? =
      (entries.filter fun entry => entry.tokens.isEmpty && entry.candidate.isSome).map
        fun entry => { path := entry.path, candidate := entry.candidate.getD "" } := by
  induction entries with
  | nil => rfl
  | cons entry rest ih =>
    rw [List.filterMap_cons, List.filter_cons, ih]
    unfold hintOf?
    cases listed : entry.tokens.isEmpty <;> cases named : entry.candidate <;> simp [named]

/-- A catalog without repeated tokens and the registry differ in size by what either lacks. -/
theorem size_balance (folded : outcome.IsFolded) {monoliths : List Glob}
    (distinct : (Manifest.ofEntries entries).tokens.Nodup) :
    let report := reconcile (.ofEntries entries) outcome monoliths
    report.totals.manifest + report.extra.size =
      report.totals.registered + report.missing.size := by
  intro report
  let declared := (Manifest.ofEntries entries).tokens.toFinset
  let registered := outcome.registry.paths.nameSet.names.toFinset
  have extra : report.extra.names.toFinset = registered \ declared := by
    ext token
    rw [List.mem_toFinset, mem_extra_iff folded, Finset.mem_sdiff, List.mem_toFinset,
      List.mem_toFinset, ← folded.contains_iff, ← Registry.mem_tokens_iff]
    rfl
  have missing : report.missing.names.toFinset = declared \ registered := by
    ext token
    rw [List.mem_toFinset, mem_missing_iff folded, Finset.mem_sdiff, List.mem_toFinset,
      List.mem_toFinset, ← not_exists, ← folded.contains_iff, ← Registry.mem_tokens_iff]
    rfl
  have declaredSize : report.totals.manifest = declared.card := by
    rw [List.toFinset_card_of_nodup distinct]
    exact (List.length_map _).symm
  have registeredSize : report.totals.registered = registered.card := by
    rw [← NameSet.size_eq_card]
    exact (List.length_map _).symm
  rw [NameSet.size_eq_card, NameSet.size_eq_card, extra, missing, declaredSize, registeredSize,
    Nat.add_comm, Nat.add_comm registered.card, Finset.card_sdiff_add_card,
    Finset.card_sdiff_add_card, Finset.union_comm]

/-- The report on valid entries and a scan's outcome answers the questions of an audit. -/
theorem answers_reconcile (folded : outcome.IsFolded) (monoliths : List Glob)
    (distinct : (Manifest.ofEntries entries).tokens.Nodup) :
    Answers (.ofEntries entries) outcome monoliths
      (reconcile (.ofEntries entries) outcome monoliths) where
  missing _ := mem_missing_iff folded
  extra _ := mem_extra_iff folded
  duplicate _ := duplicate_iff folded
  duplicatePaths _ _ h _ := mem_duplicatePaths_iff folded h
  bundled _ := bundled_iff folded
  bundledPaths _ _ h _ := mem_bundledPaths_iff folded h
  hints := hints_eq outcome.entries
  manifest := (List.length_map _).symm
  balance := size_balance folded distinct

/-! ## The verdict -/

/-- No mismatch means that nothing is missing and nothing is extra. -/
theorem hasMismatch_iff {report : Report} :
    report.hasMismatch = false ↔
      (∀ token, token ∉ report.missing.names) ∧ ∀ token, token ∉ report.extra.names := by
  unfold hasMismatch
  rw [Bool.or_eq_false_iff, Bool.not_eq_false', Bool.not_eq_false', NameSet.isEmpty_iff,
    NameSet.isEmpty_iff]

/-- No duplicates means that no token is one. -/
theorem hasDuplicates_iff {report : Report} :
    report.hasDuplicates = false ↔
      ∀ token, ¬ (report.duplicates.get? token).isSome = true := by
  unfold hasDuplicates
  rw [Bool.not_eq_false', NameTable.isEmpty_iff]
  exact forall_congr' fun token => by rw [Bool.not_eq_true, Option.isSome_eq_false_iff,
    Option.isNone_iff_eq_none]

/-- A lenient verdict looks at mismatches only. -/
theorem ofReport_lenient_eq_pass_iff {report : Report} :
    Decision.ofReport report .lenient = .pass ↔ report.hasMismatch = false := by
  unfold Decision.ofReport
  cases report.hasMismatch <;> simp

/-- A strict verdict looks at duplicates as well. -/
theorem ofReport_strict_eq_pass_iff {report : Report} :
    Decision.ofReport report .strict = .pass ↔
      report.hasMismatch = false ∧ report.hasDuplicates = false := by
  unfold Decision.ofReport
  cases report.hasMismatch <;> cases report.hasDuplicates <;> simp

variable {monoliths : List Glob} {report : Report}

/-- Nothing is missing or extra exactly when the catalog and the entries have the same tokens. -/
theorem Answers.no_mismatch_iff (h : Answers m outcome monoliths report) :
    report.hasMismatch = false ↔
      ∀ token, token ∈ m.tokens ↔ ∃ path, outcome.Lists token path := by
  rw [hasMismatch_iff]
  simp only [h.missing, h.extra, not_and, not_not]
  constructor
  · rintro ⟨found, known⟩ token
    refine ⟨fun declared => ?_, known token⟩
    have listed := found token declared
    rwa [not_forall_not] at listed
  · intro same
    refine ⟨fun token declared => ?_, fun token listed => (same token).mpr listed⟩
    rw [not_forall_not]
    exact (same token).mp declared

/-- There are no duplicates exactly when no token is listed under two paths. -/
theorem Answers.no_duplicates_iff (h : Answers m outcome monoliths report) :
    report.hasDuplicates = false ↔
      ∀ token p q, outcome.Lists token p → outcome.Lists token q → p = q := by
  rw [hasDuplicates_iff]
  simp only [h.duplicate, not_exists, not_and]
  constructor
  · intro none token p q first second
    by_contra distinct
    exact none token p q distinct first second
  · intro alike token p q distinct first second
    exact distinct (alike token p q first second)

/-- Under the lenient policy an audit passes exactly when the catalog and the entries have the same
tokens. -/
theorem Answers.lenient_pass_iff (h : Answers m outcome monoliths report) :
    Decision.ofReport report .lenient = .pass ↔
      ∀ token, token ∈ m.tokens ↔ ∃ path, outcome.Lists token path := by
  rw [ofReport_lenient_eq_pass_iff, h.no_mismatch_iff]

/-- Under the strict policy an audit passes exactly when every token of the catalog is listed under
one path only and no other token is listed. -/
theorem Answers.strict_pass_iff (h : Answers m outcome monoliths report) :
    Decision.ofReport report .strict = .pass ↔
      (∀ token ∈ m.tokens, ∃! path, outcome.Lists token path) ∧
        ∀ token path, outcome.Lists token path → token ∈ m.tokens := by
  rw [ofReport_strict_eq_pass_iff, h.no_mismatch_iff, h.no_duplicates_iff]
  constructor
  · rintro ⟨same, alike⟩
    refine ⟨fun token declared => ?_, fun token path listed => (same token).mpr ⟨path, listed⟩⟩
    obtain ⟨path, listed⟩ := (same token).mp declared
    exact ⟨path, listed, fun other also => alike token other path also listed⟩
  · rintro ⟨once, known⟩
    constructor
    · intro token
      refine ⟨fun declared => (once token declared).exists, ?_⟩
      rintro ⟨path, listed⟩
      exact known token path listed
    · intro token p q first second
      exact (once token (known token p first)).unique first second

/-- The report on any valid catalog and any scan answers the questions of an audit, and the verdict
is drawn from the answers: leniently from equality of the tokens alone, strictly from every token of
the catalog having exactly one path. -/
theorem reconcile_decides {raw : List Manifest.RawEntry} {entries : List Manifest.Entry}
    (valid : Manifest.validate raw = .ok entries) {tree : FileTree} {settings : Scan.Settings}
    {roots : List Path} {outcome : Outcome}
    (scanned : Scan.run tree settings roots = .ok outcome) (monoliths : List Glob) :
    let m := Manifest.ofEntries entries
    let report := reconcile m outcome monoliths
    Answers m outcome monoliths report ∧
      (Decision.ofReport report .strict = .pass ↔
        (∀ token ∈ m.tokens, ∃! path, outcome.Lists token path) ∧
          ∀ token path, outcome.Lists token path → token ∈ m.tokens) ∧
      (Decision.ofReport report .lenient = .pass ↔
        ∀ token, token ∈ m.tokens ↔ ∃ path, outcome.Lists token path) := by
  intro m report
  have answers : Answers m outcome monoliths report :=
    answers_reconcile (Scan.isFolded_of_run scanned) monoliths (Manifest.nodup_of_validate valid)
  exact ⟨answers, answers.strict_pass_iff, answers.lenient_pass_iff⟩

/-- Two source files that both register `blur`; the second registers `glow` as well. -/
def sampleTree : FileTree :=
  { items :=
      [([.ofString "src"], .folder),
       ([.ofString "src", .ofString "a.cpp"], .file "@blur".toUTF8),
       ([.ofString "src", .ofString "b.cpp"], .file "@glow @blur".toUTF8)] }

/-- Registrations are written with an at sign. -/
def sampleSettings : Scan.Settings :=
  let word : Pattern := .group 1 (.repeated 1 none true (.one (.range 'a' 'z')))
  let registration : Pattern := .seq (.one (.single '@')) word
  { extensions := [⟨[.many, .literal '.', .literal 'c', .literal 'p', .literal 'p']⟩]
    patterns := { token := registration, symbol := registration, heuristic := registration } }

/-- What the scan of those files yields. -/
def sampleOutcome : Outcome :=
  { registry := .ofList [("blur", "src/a.cpp"), ("glow", "src/b.cpp"), ("blur", "src/b.cpp")]
    entries :=
      [⟨"src/a.cpp", ["blur"], ["blur"], none⟩,
       ⟨"src/b.cpp", ["glow", "blur"], ["glow", "blur"], none⟩]
    unreadable := [] }

/-- Scanning those files yields that outcome. -/
theorem run_sampleTree :
    Scan.run sampleTree sampleSettings [.ofString "src"] = .ok sampleOutcome := by
  let root : Path := .ofString "src"
  let visits : List FileTree.Visit := [.file (.ofString "src/a.cpp"), .file (.ofString "src/b.cpp")]
  let files : List Scan.SourceFile :=
    [⟨.ofString "src/a.cpp", [.top, .down (.ofString "src"), .down (.ofString "a.cpp")],
        "src/a.cpp"⟩,
     ⟨.ofString "src/b.cpp", [.top, .down (.ofString "src"), .down (.ofString "b.cpp")],
        "src/b.cpp"⟩]
  have walked : [root].mapM (Scan.visitsOf sampleTree) = .ok [(root, visits)] := by
    decide +kernel
  have found : [(root, visits)].flatMap (fun walk =>
      walk.2.filterMap (Scan.fileOf? sampleTree sampleSettings.extensions walk.1)) = files := by
    decide +kernel
  have arranged : Scan.arrange files = files := by cbv
  have read : files.map (Scan.readFile sampleTree sampleSettings.patterns) =
      [.ok ⟨"src/a.cpp", ["blur"], ["blur"], none⟩,
       .ok ⟨"src/b.cpp", ["glow", "blur"], ["glow", "blur"], none⟩] := by decide +kernel
  unfold Scan.run
  rw [walked]
  change Except.ok (Scan.ofVisits _ _ _) = _
  unfold Scan.ofVisits
  dsimp only
  rw [found, arranged, read]
  cbv

/-- Files whose names begin with a b bundle registrations. -/
def sampleMonoliths : List Glob := [⟨[.literal 'b', .many]⟩]

/-- With `fade` in the catalog there are a missing, an extra and a duplicate token at once, and both
registered tokens are bundled in the second file. -/
theorem reconcile_decides_sample :
    let raw : List Manifest.RawEntry :=
      [{ token := some (.text "blur"), kind := some (.text "effect") },
       { token := some (.text "fade"), kind := some (.text "support") }]
    let entries : List Manifest.Entry := [⟨"blur", .effect, []⟩, ⟨"fade", .support, []⟩]
    let m := Manifest.ofEntries entries
    let report := reconcile m sampleOutcome sampleMonoliths
    Manifest.validate raw = .ok entries ∧
      Scan.run sampleTree sampleSettings [.ofString "src"] = .ok sampleOutcome ∧
      report.bundled.rows.map (fun row => (row.1, row.2.names)) =
        [("blur", ["src/b.cpp"]), ("glow", ["src/b.cpp"])] ∧
      Answers m sampleOutcome sampleMonoliths report ∧
      (Decision.ofReport report .strict = .pass ↔
        (∀ token ∈ m.tokens, ∃! path, sampleOutcome.Lists token path) ∧
          ∀ token path, sampleOutcome.Lists token path → token ∈ m.tokens) ∧
      (Decision.ofReport report .lenient = .pass ↔
        ∀ token, token ∈ m.tokens ↔ ∃ path, sampleOutcome.Lists token path) := by
  intro raw entries m report
  have valid : Manifest.validate raw = .ok entries := by decide
  exact ⟨valid, run_sampleTree, by decide +kernel,
    reconcile_decides valid run_sampleTree sampleMonoliths⟩

end CatalogAudit.Report
