import CatalogAudit.Proofs.Report.Findings
import CatalogAudit.Proofs.Scan.Order

/-!
# Paths under which files are reported

Files that would be shown alike are shown by their whole paths instead. A whole path may be what yet
another file is shown by, and nothing looks for that. Here it is said exactly when different files
are reported under different paths: when no file that is told apart from others hides behind another
one. Then no registration is lost, and every token that two files register is reported as a
duplicate. A scan of three files shows how one hides behind another.
-/

namespace CatalogAudit.Scan

/-- The source files that the walks through all roots come upon, once for each way to them. -/
def sources (tree : FileTree) (extensions : List Glob) (roots : List Path) : List SourceFile :=
  roots.flatMap fun root => (tree.walk root).filterMap (fileOf? tree extensions root)

/-- The source files that are read: one for each place that has been reached. -/
def kept (tree : FileTree) (extensions : List Glob) (roots : List Path) : List SourceFile :=
  firstOfEach ((sources tree extensions roots).mergeSort SourceFile.atMost)

/-- What reading the source files yields, in the order of the paths under which they are
reported. -/
def records (tree : FileTree) (settings : Settings) (roots : List Path) :
    List (Except Unreadable Entry) :=
  (arrange (sources tree settings.extensions roots)).map (readFile tree settings.patterns)

/-- What the walks through all roots cannot visit. -/
def faults (tree : FileTree) (roots : List Path) : List Unreadable :=
  roots.flatMap fun root => (tree.walk root).filterMap (faultOf? root)

/-- The path under which a file is reported, be it read or not. -/
def recordPath : Except Unreadable Entry → String
  | .ok entry => entry.path
  | .error file => file.path

/-- Reading a file keeps the path under which it is reported, whether it succeeds or not. -/
theorem recordPath_readFile (tree : FileTree) (patterns : Patterns) (file : SourceFile) :
    recordPath (readFile tree patterns file) = file.shown := by
  unfold readFile
  split <;> rfl

/-! ## Telling files apart -/

namespace SourceFile

/-- Another file among those given would be shown like this one. -/
def IsShared (files : List SourceFile) (file : SourceFile) : Prop :=
  ∃ other ∈ files, other ≠ file ∧ other.shown = file.shown

/-- The path under which the file is reported when it is read together with others. -/
def reportedIn (files : List SourceFile) (file : SourceFile) : String :=
  if 1 < (files.filter fun other => other.shown == file.shown).length then file.wholePath
  else file.shown

/-- Another file is reported like this one, although this one is shown by its whole path: the other
file is shown so from the beginning, or by its own whole path, which differs only in slashes and
backslashes. -/
def HidesBehind (files : List SourceFile) (file other : SourceFile) : Prop :=
  file.IsShared files ∧
    (¬ other.IsShared files ∧ file.wholePath = other.shown ∨
      other.IsShared files ∧ file.wholePath = other.wholePath)

variable {files : List SourceFile} {file other : SourceFile}

/-- More than one of the files is shown so exactly when another one is. -/
theorem one_lt_count_iff (distinct : files.Nodup) (member : file ∈ files) :
    1 < (files.filter fun other => other.shown == file.shown).length ↔ file.IsShared files := by
  have nodup := distinct.filter fun other => other.shown == file.shown
  rw [← List.toFinset_card_of_nodup nodup, Finset.one_lt_card]
  simp only [List.mem_toFinset, List.mem_filter, beq_iff_eq]
  constructor
  · rintro ⟨first, ⟨here, alike⟩, second, ⟨there, also⟩, different⟩
    by_cases same : first = file
    · exact ⟨second, there, fun h => different (same.trans h.symm), also⟩
    · exact ⟨first, here, same, alike⟩
  · rintro ⟨other, there, different, alike⟩
    exact ⟨other, ⟨there, alike⟩, file, ⟨member, rfl⟩, different⟩

/-- A file shown like another one is reported by its whole path. -/
theorem reportedIn_of_isShared (distinct : files.Nodup) (member : file ∈ files)
    (shared : file.IsShared files) : file.reportedIn files = file.wholePath :=
  if_pos ((one_lt_count_iff distinct member).mpr shared)

/-- A file shown like no other one is reported as it is shown. -/
theorem reportedIn_of_not_isShared (distinct : files.Nodup) (member : file ∈ files)
    (alone : ¬ file.IsShared files) : file.reportedIn files = file.shown :=
  if_neg (mt (one_lt_count_iff distinct member).mp alone)

/-- Two files are reported alike exactly when one of them hides behind the other. -/
theorem reportedIn_eq_iff (distinct : files.Nodup) (member : file ∈ files) (there : other ∈ files)
    (different : file ≠ other) :
    file.reportedIn files = other.reportedIn files ↔
      file.HidesBehind files other ∨ other.HidesBehind files file := by
  unfold HidesBehind
  by_cases shared : file.IsShared files
  · rw [reportedIn_of_isShared distinct member shared]
    by_cases also : other.IsShared files
    · rw [reportedIn_of_isShared distinct there also]
      simp [shared, also, eq_comm]
    · rw [reportedIn_of_not_isShared distinct there also]
      simp [shared, also]
  · rw [reportedIn_of_not_isShared distinct member shared]
    by_cases also : other.IsShared files
    · rw [reportedIn_of_isShared distinct there also]
      simp [shared, also, eq_comm]
    · rw [reportedIn_of_not_isShared distinct there also]
      have unlike : file.shown ≠ other.shown := fun alike =>
        shared ⟨other, there, different.symm, alike.symm⟩
      simp [shared, also, unlike]

end SourceFile

/-- The file, shown by the path under which it is reported when it is read together with others. -/
def SourceFile.toldApart (files : List SourceFile) (file : SourceFile) : SourceFile :=
  { file with shown := file.reportedIn files }

/-- Telling files apart goes file by file: each is shown by what it is reported under. -/
theorem tellApart_eq (files : List SourceFile) :
    tellApart files = files.map (SourceFile.toldApart files) := by
  refine List.map_congr_left fun file _ => ?_
  unfold SourceFile.toldApart SourceFile.reportedIn
  split <;> rfl

/-- The records are those of the files that are kept, each reported under its own path. -/
theorem records_perm (tree : FileTree) (settings : Settings) (roots : List Path) :
    (records tree settings roots).Perm ((kept tree settings.extensions roots).map fun file =>
      readFile tree settings.patterns (file.toldApart (kept tree settings.extensions roots))) := by
  have told := congrArg (List.map (readFile tree settings.patterns))
    (tellApart_eq (kept tree settings.extensions roots))
  rw [List.map_map] at told
  exact ((List.mergeSort_perm _ _).map _).trans (.of_eq told)

/-- Files are read by paths by which they were found. -/
theorem exists_source_of_mem_arrange {files : List SourceFile} {file : SourceFile}
    (member : file ∈ arrange files) : ∃ source ∈ files, source.path = file.path := by
  unfold arrange at member
  rw [(List.mergeSort_perm _ _).mem_iff, tellApart_eq, List.mem_map] at member
  obtain ⟨source, first, rfl⟩ := member
  exact ⟨source, (List.mergeSort_perm _ _).mem_iff.mp ((firstOfEach_sublist _).subset first), rfl⟩

/-- Reading the files in their order reports them under the paths by which they are told apart. -/
theorem map_recordPath_perm (tree : FileTree) (settings : Settings) (roots : List Path) :
    ((records tree settings roots).map recordPath).Perm
      ((kept tree settings.extensions roots).map
        (SourceFile.reportedIn (kept tree settings.extensions roots))) := by
  refine ((records_perm tree settings roots).map recordPath).trans (.of_eq ?_)
  rw [List.map_map]
  exact List.map_congr_left fun file _ => recordPath_readFile tree settings.patterns _

variable {tree : FileTree} {settings : Settings} {roots : List Path}

/-- Of every place one source file is kept. -/
theorem pairwise_kept (tree : FileTree) (extensions : List Glob) (roots : List Path) :
    (kept tree extensions roots).Pairwise fun a b => a.canonical ≠ b.canonical :=
  pairwise_firstOfEach (SourceFile.pairwise_mergeSort _)

/-- No source file is kept twice. -/
theorem nodup_kept (tree : FileTree) (extensions : List Glob) (roots : List Path) :
    (kept tree extensions roots).Nodup :=
  (pairwise_kept tree extensions roots).imp fun different same => different (congrArg _ same)

/-- Every place that has been reached is read through one file, and that is shown by the least of
the paths by which files at the place are shown. -/
theorem exists_mem_kept {extensions : List Glob} {file : SourceFile}
    (h : file ∈ sources tree extensions roots) :
    ∃ representative ∈ kept tree extensions roots,
      representative.canonical = file.canonical ∧ representative.shown ≤ file.shown :=
  exists_mem_firstOfEach (SourceFile.pairwise_mergeSort _) ((List.mergeSort_perm _ _).mem_iff.mpr h)

/-- What is kept was come upon. -/
theorem mem_sources_of_mem_kept {extensions : List Glob} {file : SourceFile}
    (member : file ∈ kept tree extensions roots) :
    file ∈ sources tree extensions roots :=
  (List.mergeSort_perm _ _).mem_iff.mp ((firstOfEach_sublist _).subset member)

/-- Files kept from one place are the same file. -/
theorem eq_of_mem_kept {extensions : List Glob} {file other : SourceFile}
    (member : file ∈ kept tree extensions roots)
    (there : other ∈ kept tree extensions roots) (same : file.canonical = other.canonical) :
    file = other :=
  List.inj_on_of_nodup_map (List.pairwise_map.mpr (pairwise_kept tree extensions roots)) member
    there same

/-- A file that is kept is shown by the least of all paths by which its place is shown. -/
theorem shown_le_of_mem_kept {extensions : List Glob} {file other : SourceFile}
    (member : file ∈ kept tree extensions roots) (there : other ∈ sources tree extensions roots)
    (same : other.canonical = file.canonical) : file.shown ≤ other.shown := by
  obtain ⟨representative, kept, place, least⟩ := exists_mem_kept there
  obtain rfl := eq_of_mem_kept kept member (place.trans same)
  exact least

/-- No file hides behind another one. -/
def NoneHidden (files : List SourceFile) : Prop :=
  ∀ file ∈ files, ∀ other ∈ files, file ≠ other → ¬ file.HidesBehind files other

/-- Files are reported under different paths exactly when none hides behind another. -/
theorem reportedIn_inj_iff {files : List SourceFile} (distinct : files.Nodup) :
    (∀ file ∈ files, ∀ other ∈ files,
      file.reportedIn files = other.reportedIn files → file = other) ↔ NoneHidden files := by
  constructor
  · intro apart file member other there different hidden
    have alike := (SourceFile.reportedIn_eq_iff distinct member there different).mpr (.inl hidden)
    exact different (apart file member other there alike)
  · intro visible file member other there alike
    by_contra different
    rcases (SourceFile.reportedIn_eq_iff distinct member there different).mp alike with h | h
    · exact visible file member other there different h
    · exact visible other there file member (Ne.symm different) h

/-- No path is reported twice exactly when no file hides behind another one. -/
theorem nodup_map_recordPath_iff (tree : FileTree) (settings : Settings) (roots : List Path) :
    ((records tree settings roots).map recordPath).Nodup ↔
      NoneHidden (kept tree settings.extensions roots) := by
  have distinct := nodup_kept tree settings.extensions roots
  rw [(map_recordPath_perm tree settings roots).nodup_iff, List.nodup_map_iff_inj_on distinct]
  exact reportedIn_inj_iff distinct

/-! ## Outcomes -/

/-- A root passes exactly when it leads to a folder. -/
theorem checkRoot_eq_ok_iff {root : Path} :
    checkRoot tree root = .ok () ↔ ∃ location, tree.resolve root = .ok (location, .folder) := by
  unfold checkRoot
  split
  · rename_i location resolved
    exact ⟨fun _ => ⟨location, resolved⟩, fun _ => rfl⟩
  · rename_i location item notFolder resolved
    refine ⟨nofun, ?_⟩
    rintro ⟨location', folder⟩
    rw [resolved] at folder
    cases folder
    exact absurd rfl notFolder
  · rename_i resolved
    refine ⟨nofun, ?_⟩
    rintro ⟨location, folder⟩
    rw [resolved] at folder
    contradiction

/-- All roots pass exactly when each leads to a folder. -/
theorem mapM_checkRoot_eq_ok_iff :
    (∃ checked, roots.mapM (checkRoot tree) = .ok checked) ↔
      ∀ root ∈ roots, ∃ location, tree.resolve root = .ok (location, .folder) := by
  induction roots with
  | nil => exact ⟨fun _ => nofun, fun _ => ⟨[], rfl⟩⟩
  | cons root rest ih =>
    rw [List.forall_mem_cons, ← ih, ← checkRoot_eq_ok_iff, List.mapM_cons]
    cases checkRoot tree root with
    | error fault => exact ⟨fun ⟨_, bad⟩ => (nomatch bad), fun ⟨bad, _⟩ => nomatch bad⟩
    | ok _ =>
      cases rest.mapM (checkRoot tree) with
      | error fault => exact ⟨fun ⟨_, bad⟩ => (nomatch bad), fun ⟨_, _, bad⟩ => nomatch bad⟩
      | ok checked => exact ⟨fun _ => ⟨rfl, checked, rfl⟩, fun _ => ⟨() :: checked, rfl⟩⟩

/-- The walks begin exactly when all roots pass, and then go through every root. -/
theorem mapM_visitsOf (tree : FileTree) (roots : List Path) :
    roots.mapM (visitsOf tree) =
      (roots.mapM (checkRoot tree)).map fun _ => roots.map fun root => (root, tree.walk root) := by
  induction roots with
  | nil => rfl
  | cons root rest ih =>
    rw [List.mapM_cons, List.mapM_cons, ih, visitsOf]
    cases checkRoot tree root with
    | error fault => rfl
    | ok _ => cases rest.mapM (checkRoot tree) <;> rfl

/-- The outcome of all walks is made of the records of the files that are kept and of the faults of
the walks. -/
theorem ofVisits_walks (tree : FileTree) (settings : Settings) (roots : List Path) :
    ofVisits tree settings (roots.map fun root => (root, tree.walk root)) =
      outcomeOf (records tree settings roots) (faults tree roots) := by
  unfold ofVisits records sources faults
  simp only [List.flatMap_map]

/-- A scan has an outcome when all roots are folders, and it is that of the walks. -/
theorem run_eq_ok_iff {outcome : Outcome} :
    run tree settings roots = .ok outcome ↔
      (∀ root ∈ roots, ∃ location, tree.resolve root = .ok (location, .folder)) ∧
        outcome = outcomeOf (records tree settings roots) (faults tree roots) := by
  rw [← mapM_checkRoot_eq_ok_iff, ← ofVisits_walks]
  unfold run
  rw [mapM_visitsOf]
  cases roots.mapM (checkRoot tree) with
  | error fault => exact ⟨nofun, fun ⟨⟨_, bad⟩, _⟩ => nomatch bad⟩
  | ok checked =>
    refine ⟨fun same => ⟨⟨checked, rfl⟩, (Except.ok.inj same).symm⟩, ?_⟩
    rintro ⟨-, rfl⟩
    rfl

/-- A scan is carried out step by step: files are found, arranged and read. -/
theorem run_eq_of_sources {files arranged : List SourceFile}
    {results : List (Except Unreadable Entry)} {unreadable : List Unreadable}
    (folders : ∀ root ∈ roots, ∃ location, tree.resolve root = .ok (location, .folder))
    (found : sources tree settings.extensions roots = files) (order : arrange files = arranged)
    (read : arranged.map (readFile tree settings.patterns) = results)
    (missed : faults tree roots = unreadable) :
    run tree settings roots = .ok (outcomeOf results unreadable) := by
  refine run_eq_ok_iff.mpr ⟨folders, ?_⟩
  rw [records, found, order, read, missed]

/-- A scan that ends gives what its records and its faults make up. -/
theorem eq_outcomeOf_of_run {outcome : Outcome} (h : run tree settings roots = .ok outcome) :
    outcome = outcomeOf (records tree settings roots) (faults tree roots) :=
  (run_eq_ok_iff.mp h).2

/-- The same records make the same registry and the same entries. -/
theorem outcomeOf_alike (results : List (Except Unreadable Entry))
    (unreadable unreadable' : List Unreadable) :
    (outcomeOf results unreadable).registry = (outcomeOf results unreadable').registry ∧
      (outcomeOf results unreadable).entries = (outcomeOf results unreadable').entries :=
  ⟨rfl, rfl⟩

/-- Outcomes of the same records are the same exactly when what could not be visited is listed in
the same order for each path. -/
theorem outcomeOf_eq_iff {results : List (Except Unreadable Entry)}
    {unreadable unreadable' : List Unreadable} :
    outcomeOf results unreadable = outcomeOf results unreadable' ↔
      ∀ path, unreadable.filter (·.path == path) = unreadable'.filter (·.path == path) := by
  simp only [outcomeOf, Outcome.mk.injEq, true_and,
    mergeSort_eq_mergeSort_iff (textOrder_trans Unreadable.path) (textOrder_total Unreadable.path),
    List.filter_append, List.append_left_inj, ties_textOrder Unreadable.path]
  exact ⟨fun alike path => alike ⟨path, ""⟩, fun alike file => alike file.path⟩

/-- A scan lists exactly the files that could be read. -/
theorem mem_entries_iff_of_run {outcome : Outcome} (h : run tree settings roots = .ok outcome)
    {entry : Entry} : entry ∈ outcome.entries ↔ .ok entry ∈ records tree settings roots := by
  rw [eq_outcomeOf_of_run h]
  unfold outcomeOf
  rw [List.mem_filterMap]
  constructor
  · rintro ⟨record, member, same⟩
    cases record with
    | ok _ =>
      cases same
      exact member
    | error _ => contradiction
  · intro member
    exact ⟨_, member, rfl⟩

/-- A file that could not be read is listed as unreadable. -/
theorem mem_unreadable_of_run {outcome : Outcome} (h : run tree settings roots = .ok outcome)
    {file : Unreadable} (failed : .error file ∈ records tree settings roots) :
    file ∈ outcome.unreadable := by
  rw [eq_outcomeOf_of_run h]
  unfold outcomeOf
  rw [(List.mergeSort_perm _ _).mem_iff, List.mem_append, List.mem_filterMap]
  exact .inr ⟨_, failed, rfl⟩

/-- The text at the file's path can be read and registers the token. -/
def Registers (tree : FileTree) (settings : Settings) (file : SourceFile) (token : String) : Prop :=
  ∃ text, tree.readText file.path = .ok text ∧ token ∈ firstGroups settings.patterns.token text

/-- A kept file that registers a token lists it under the path by which it is reported. -/
theorem lists_of_registers {outcome : Outcome} (h : run tree settings roots = .ok outcome)
    {file : SourceFile} (member : file ∈ kept tree settings.extensions roots) {token : String}
    (registers : Registers tree settings file token) :
    outcome.Lists token (file.reportedIn (kept tree settings.extensions roots)) := by
  obtain ⟨text, read, found⟩ := registers
  have record := (records_perm tree settings roots).mem_iff.mpr (List.mem_map_of_mem member)
  simp only [readFile, SourceFile.toldApart, read] at record
  exact ⟨_, (mem_entries_iff_of_run h).mpr record, rfl, found⟩

/-! ## Three files under two roots -/

/-- Two roots of the same name, one of which holds a folder of that name too. -/
def nestedTree : FileTree :=
  { items :=
      [([.ofString "x"], .folder),
       ([.ofString "x", .ofString "x"], .folder),
       ([.ofString "x", .ofString "x", .ofString "p.cpp"], .file "@blur".toUTF8),
       ([.ofString "b"], .folder),
       ([.ofString "b", .ofString "x"], .folder),
       ([.ofString "b", .ofString "x", .ofString "p.cpp"], .file "@glow".toUTF8),
       ([.ofString "b", .ofString "x", .ofString "x"], .folder),
       ([.ofString "b", .ofString "x", .ofString "x", .ofString "p.cpp"], .file "@blur".toUTF8)] }

/-- The two roots. -/
def nestedRoots : List Path := [.ofString "x/x", .ofString "b/x"]

/-- The two files that register `blur` are reported under the same path. -/
def nestedOutcome : Outcome :=
  { registry := .ofList [("glow", "b/x/p.cpp"), ("blur", "x/x/p.cpp")]
    entries :=
      [⟨"b/x/p.cpp", ["glow"], ["glow"], none⟩,
       ⟨"x/x/p.cpp", ["blur"], ["blur"], none⟩,
       ⟨"x/x/p.cpp", ["blur"], ["blur"], none⟩]
    unreadable := [] }

/-- The three files as they are found. -/
def nestedSources : List SourceFile :=
  [⟨.ofString "x/x/p.cpp", (Path.ofString "/x/x/p.cpp").steps, "x/p.cpp"⟩,
   ⟨.ofString "b/x/p.cpp", (Path.ofString "/b/x/p.cpp").steps, "x/p.cpp"⟩,
   ⟨.ofString "b/x/x/p.cpp", (Path.ofString "/b/x/x/p.cpp").steps, "x/x/p.cpp"⟩]

/-- What the walks through both roots come upon. -/
theorem sources_nestedTree :
    sources nestedTree Report.sampleSettings.extensions nestedRoots = nestedSources := by
  decide +kernel

/-- The three files are three places, and all are kept. -/
theorem kept_nestedTree :
    kept nestedTree Report.sampleSettings.extensions nestedRoots =
      [⟨.ofString "b/x/p.cpp", (Path.ofString "/b/x/p.cpp").steps, "x/p.cpp"⟩,
       ⟨.ofString "b/x/x/p.cpp", (Path.ofString "/b/x/x/p.cpp").steps, "x/x/p.cpp"⟩,
       ⟨.ofString "x/x/p.cpp", (Path.ofString "/x/x/p.cpp").steps, "x/p.cpp"⟩] := by
  unfold kept
  rw [sources_nestedTree]
  cbv

/-- All three files can be read. -/
theorem records_nestedTree :
    records nestedTree Report.sampleSettings nestedRoots = nestedOutcome.entries.map .ok := by
  have toldApart : tellApart (kept nestedTree Report.sampleSettings.extensions nestedRoots) =
      [⟨.ofString "b/x/p.cpp", (Path.ofString "/b/x/p.cpp").steps, "b/x/p.cpp"⟩,
       ⟨.ofString "b/x/x/p.cpp", (Path.ofString "/b/x/x/p.cpp").steps, "x/x/p.cpp"⟩,
       ⟨.ofString "x/x/p.cpp", (Path.ofString "/x/x/p.cpp").steps, "x/x/p.cpp"⟩] := by
    rw [kept_nestedTree]
    decide +kernel
  unfold records arrange
  change ((tellApart (kept _ _ _)).mergeSort _).map _ = _
  rw [toldApart, List.mergeSort_of_pairwise (by decide)]
  decide +kernel

/-- Two files of the scan are reported under one path. -/
theorem run_nestedTree :
    run nestedTree Report.sampleSettings nestedRoots = .ok nestedOutcome := by
  have folders : ∀ root ∈ nestedRoots,
      ∃ location, nestedTree.resolve root = .ok (location, .folder) := by
    refine List.forall_mem_cons.mpr ⟨⟨[.ofString "x", .ofString "x"], by decide +kernel⟩, ?_⟩
    exact List.forall_mem_singleton.mpr ⟨[.ofString "b", .ofString "x"], by decide +kernel⟩
  have flawless : faults nestedTree nestedRoots = [] := by decide +kernel
  refine run_eq_ok_iff.mpr ⟨folders, ?_⟩
  rw [records_nestedTree, flawless]
  cbv

/-! ## Keeping files apart -/

/-- What a scan owes to files at different places: their records stand under different paths, and
tokens that two of them register are reported as duplicates. -/
structure KeepsApart (tree : FileTree) (settings : Settings) (roots : List Path)
    (outcome : Outcome) : Prop where
  /-- All records of files stand under different paths. -/
  paths : ((records tree settings roots).map recordPath).Nodup
  /-- A token that two readable files register is listed under two paths and reported. -/
  duplicates : ∀ token, ∀ file ∈ kept tree settings.extensions roots,
    ∀ other ∈ kept tree settings.extensions roots, file.canonical ≠ other.canonical →
      Registers tree settings file token → Registers tree settings other token →
        (∃ p q, p ≠ q ∧ outcome.Lists token p ∧ outcome.Lists token q) ∧
          ∀ m monoliths,
            ((Report.reconcile m outcome monoliths).duplicates.get? token).isSome = true

/-- As long as no file hides behind another one, a scan keeps its files apart. -/
theorem keepsApart_of_noneHidden {outcome : Outcome} (h : run tree settings roots = .ok outcome)
    (visible : NoneHidden (kept tree settings.extensions roots)) :
    KeepsApart tree settings roots outcome where
  paths := (nodup_map_recordPath_iff tree settings roots).mpr visible
  duplicates := by
    intro token file member other there different first second
    have apart := (reportedIn_inj_iff (nodup_kept tree settings.extensions roots)).mpr visible
    have unlike : file.reportedIn (kept tree settings.extensions roots) ≠
        other.reportedIn (kept tree settings.extensions roots) :=
      fun alike => different (congrArg _ (apart file member other there alike))
    have twice : ∃ p q, p ≠ q ∧ outcome.Lists token p ∧ outcome.Lists token q :=
      ⟨_, _, unlike, lists_of_registers h member first, lists_of_registers h there second⟩
    exact ⟨twice, fun m monoliths => (Report.duplicate_iff (isFolded_of_run h)).mpr twice⟩

/-- Each place that the walks reach is read through exactly one file, whose record becomes an entry
or an unreadable file of the outcome. The scan keeps these files apart exactly when none of them
hides behind another. -/
theorem keepsApart_iff_noneHidden {outcome : Outcome} (h : run tree settings roots = .ok outcome) :
    let files := kept tree settings.extensions roots
    (files.Pairwise fun a b => a.canonical ≠ b.canonical) ∧
      (∀ file ∈ sources tree settings.extensions roots,
        ∃ representative ∈ files, representative.canonical = file.canonical) ∧
      (∀ entry, entry ∈ outcome.entries ↔ .ok entry ∈ records tree settings roots) ∧
      (∀ file, .error file ∈ records tree settings roots → file ∈ outcome.unreadable) ∧
      (KeepsApart tree settings roots outcome ↔ NoneHidden files) := by
  intro files
  have represented : ∀ file ∈ sources tree settings.extensions roots,
      ∃ representative ∈ files, representative.canonical = file.canonical := by
    intro file member
    obtain ⟨representative, there, same, -⟩ := exists_mem_kept member
    exact ⟨representative, there, same⟩
  refine ⟨pairwise_kept tree settings.extensions roots, represented,
    fun _ => mem_entries_iff_of_run h, fun _ failed => mem_unreadable_of_run h failed, ?_⟩
  exact ⟨fun apart => (nodup_map_recordPath_iff tree settings roots).mp apart.paths,
    keepsApart_of_noneHidden h⟩

/-- Of the three files the one below `x/x` hides behind the one below `b/x/x`. -/
theorem keepsApart_iff_noneHidden_nested :
    run nestedTree Report.sampleSettings nestedRoots = .ok nestedOutcome ∧
      let files := kept nestedTree Report.sampleSettings.extensions nestedRoots
      (files.Pairwise fun a b => a.canonical ≠ b.canonical) ∧
        (∀ file ∈ sources nestedTree Report.sampleSettings.extensions nestedRoots,
          ∃ representative ∈ files, representative.canonical = file.canonical) ∧
        (∀ entry, entry ∈ nestedOutcome.entries ↔
          .ok entry ∈ records nestedTree Report.sampleSettings nestedRoots) ∧
        (∀ file, .error file ∈ records nestedTree Report.sampleSettings nestedRoots →
          file ∈ nestedOutcome.unreadable) ∧
        (KeepsApart nestedTree Report.sampleSettings nestedRoots nestedOutcome ↔
          NoneHidden files) :=
  ⟨run_nestedTree, keepsApart_iff_noneHidden run_nestedTree⟩

/-- Three files at three places: two of them register `blur`, but they are reported under one path
and `blur` is no duplicate. -/
theorem exists_hidden_registration :
    let files := kept nestedTree Report.sampleSettings.extensions nestedRoots
    run nestedTree Report.sampleSettings nestedRoots = .ok nestedOutcome ∧
      ¬ ((records nestedTree Report.sampleSettings nestedRoots).map recordPath).Nodup ∧
      (∃ file ∈ files, ∃ other ∈ files, file.canonical ≠ other.canonical ∧
        Registers nestedTree Report.sampleSettings file "blur" ∧
        Registers nestedTree Report.sampleSettings other "blur") ∧
      nestedOutcome.registry.duplicates.get? "blur" = none := by
  intro files
  refine ⟨run_nestedTree, ?_, ?_, by decide +kernel⟩
  · rw [records_nestedTree]
    decide
  · have all : files = _ := kept_nestedTree
    rw [all]
    refine ⟨_, .tail _ (.head _), _, .tail _ (.tail _ (.head _)), by decide, ?_, ?_⟩
    · exact ⟨"@blur".toList, by decide +kernel, by decide +kernel⟩
    · exact ⟨"@blur".toList, by decide +kernel, by decide +kernel⟩

end CatalogAudit.Scan
