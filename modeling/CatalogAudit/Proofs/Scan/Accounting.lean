import CatalogAudit.Proofs.FileTree.Location
import CatalogAudit.Proofs.Scan.Listing
import CatalogAudit.Proofs.Scan.Reported

/-!
# Every source file counts once

However many links and roots lead to a source file, a scan keeps it once, under the least of the
paths by which it would be shown, and makes one record of it. What tells files apart is the real
location of their paths. A path can be short enough to be read and still have no real location that
can be found: when an entry on its way has a path of its own that is too long. Such a path counts as
a file of its own. Apart from that, what is reached and what is recorded are the same.
-/

namespace CatalogAudit.Scan

open FileTree (IsSeen)

variable {tree : FileTree} {settings : Settings} {extensions : List Glob} {roots : List Path}

/-! ## What is reached -/

/-- Names that do not begin with a dot lead from a root to a file, and the last of them is that of a
source file. -/
structure Reaches (tree : FileTree) (extensions : List Glob) (root path : Path)
    (location : Location) : Prop where
  /-- The path goes along names, and a source file may have the last one. -/
  names : ∃ names name, (∀ name ∈ names, IsSeen name) ∧ IsSeen name ∧
    Glob.acceptsAny extensions name = true ∧ path = root.below (names ++ [name])
  /-- There is a file. -/
  file : ∃ bytes, tree.resolve path = .ok (location, .file bytes)

/-- Two paths lead to the same place: to the same real location, or they have the same steps and
neither has a real location. -/
def SamePlace (tree : FileTree) (p q : Path) : Prop :=
  (∃ location, tree.realLocation? p = some location ∧ tree.realLocation? q = some location) ∨
    (tree.realLocation? p = none ∧ tree.realLocation? q = none ∧ p.steps = q.steps)

/-- A source file is a file that a walk visits and whose name is accepted, and every such file is
one. -/
theorem mem_sources_iff {file : SourceFile} :
    file ∈ sources tree extensions roots ↔ ∃ root ∈ roots, .file file.path ∈ tree.walk root ∧
      Glob.acceptsAny extensions (file.path.fileName?.getD file.path.text) = true ∧
        file = sourceFile tree root file.path := by
  unfold sources
  simp only [List.mem_flatMap, List.mem_filterMap]
  refine exists_congr fun root => and_congr_right fun _ => ?_
  constructor
  · rintro ⟨visit, member, found⟩
    cases visit with
    | fault fault => contradiction
    | file path =>
      simp only [fileOf?, Option.ite_none_right_eq_some, Option.some_inj] at found
      obtain ⟨accepted, rfl⟩ := found
      exact ⟨member, accepted, rfl⟩
  · rintro ⟨member, accepted, same⟩
    refine ⟨_, member, ?_⟩
    rw [fileOf?, if_pos accepted, ← same]

section Reached

variable (wf : tree.WellFormed)
  (folders : ∀ root ∈ roots, ∃ location, tree.resolve root = .ok (location, .folder))

include wf folders

/-- A source file is found from a root, down names that a walk sees, to a name that is accepted. -/
theorem exists_names_of_mem_sources {file : SourceFile}
    (member : file ∈ sources tree extensions roots) :
    ∃ root ∈ roots, file = sourceFile tree root file.path ∧
      ∃ names name, (∀ name ∈ names, IsSeen name) ∧ IsSeen name ∧
        Glob.acceptsAny extensions name = true ∧ file.path = root.below (names ++ [name]) := by
  obtain ⟨root, isRoot, visited, accepted, same⟩ := mem_sources_iff.mp member
  obtain ⟨location, begins⟩ := folders root isRoot
  obtain ⟨names, name, seen, isSeen, path⟩ :=
    FileTree.exists_names_of_file_mem_walk wf begins visited
  rw [path, Path.below_concat, Path.fileName?_join isSeen.isName] at accepted
  exact ⟨root, isRoot, same, names, name, seen, isSeen, accepted, path⟩

/-- Files are taken for the same exactly when their paths lead to the same place. -/
theorem canonical_eq_iff {file other : SourceFile} (member : file ∈ sources tree extensions roots)
    (there : other ∈ sources tree extensions roots) :
    file.canonical = other.canonical ↔ SamePlace tree file.path other.path := by
  obtain ⟨root, -, same, names, name, -, isSeen, -, path⟩ :=
    exists_names_of_mem_sources wf folders member
  obtain ⟨root', -, same', names', name', -, isSeen', -, path'⟩ :=
    exists_names_of_mem_sources wf folders there
  rw [Path.below_concat] at path path'
  rw [same, same']
  unfold SamePlace sourceFile
  dsimp only
  cases real : tree.realLocation? file.path with
  | some location =>
    cases real' : tree.realLocation? other.path with
    | some location' =>
      constructor
      · intro steps
        have alike := FileTree.pathOf_steps_inj (FileTree.isName_of_realLocation? wf real)
          (FileTree.isName_of_realLocation? wf real') steps
        exact .inl ⟨location, rfl, by rw [alike]⟩
      · rintro (⟨_, first, second⟩ | ⟨none, -⟩)
        · rw [Option.some_inj.mp first, Option.some_inj.mp second]
        · contradiction
    | none =>
      rw [path] at real
      rw [path'] at real' ⊢
      have apart := FileTree.steps_ne_of_realLocation? wf isSeen'.isName isSeen.isName real' real
      exact iff_of_false apart.symm (by simp)
  | none =>
    cases real' : tree.realLocation? other.path with
    | some location' =>
      rw [path'] at real'
      rw [path] at real ⊢
      have apart := FileTree.steps_ne_of_realLocation? wf isSeen.isName isSeen'.isName real real'
      exact iff_of_false apart (by simp)
    | none => simp

/-- A file that is reached, by a path whose real location can be found, is among the sources. -/
theorem exists_mem_sources_of_reaches {root path : Path} {location : Location}
    (isRoot : root ∈ roots) (reaches : Reaches tree extensions root path location)
    (real : (tree.realLocation? path).isSome = true) :
    ∃ file ∈ sources tree extensions roots, tree.realLocation? file.path = some location := by
  obtain ⟨⟨names, name, seen, isSeen, accepted, rfl⟩, bytes, resolved⟩ := reaches
  obtain ⟨start, begins⟩ := folders root isRoot
  obtain ⟨real, found⟩ := Option.isSome_iff_exists.mp real
  obtain ⟨-, ⟨left, route⟩, item, there⟩ := FileTree.realLocation?_eq_some_iff.mp found
  have isPart := FileTree.addressable_isPart tree
  -- The real location is the place to which the path leads.
  obtain ⟨-, ⟨_, whole⟩, -⟩ := FileTree.resolve_eq_ok_iff.mp resolved
  obtain ⟨-, rfl⟩ := whole.unique (isPart.route route)
  obtain ⟨names', seen', visited, resolved', _, route'⟩ :=
    FileTree.exists_file_mem_walk wf isPart begins seen isSeen resolved ⟨left, route⟩
  refine ⟨sourceFile tree root (root.below (names' ++ [name])),
    mem_sources_iff.mpr ⟨root, isRoot, visited, ?_, rfl⟩, ?_⟩
  · change Glob.acceptsAny extensions ((root.below (names' ++ [name])).fileName?.getD _) = true
    rwa [Path.below_concat, Path.fileName?_join isSeen.isName]
  · have filled := (FileTree.resolve_eq_ok_iff.mp resolved').1.1
    exact FileTree.realLocation?_eq_some_iff.mpr ⟨filled, ⟨_, route'⟩, item, there⟩

/-- One file is kept for every place to which a walk has come. -/
theorem existsUnique_kept_of_mem_sources {source : SourceFile}
    (there : source ∈ sources tree extensions roots) :
    ∃! file, file ∈ kept tree extensions roots ∧ SamePlace tree file.path source.path := by
  have same {file : SourceFile} (member : file ∈ kept tree extensions roots) :
      file.canonical = source.canonical ↔ SamePlace tree file.path source.path :=
    canonical_eq_iff wf folders (mem_sources_of_mem_kept member) there
  obtain ⟨file, member, place, -⟩ := exists_mem_kept there
  refine ⟨file, ⟨member, (same member).mp place⟩, ?_⟩
  rintro other ⟨member', place'⟩
  exact eq_of_mem_kept member' member (((same member').mpr place').trans place.symm)

/-- One file is kept for every real location that is reached. -/
theorem existsUnique_kept_of_reaches {root path : Path} {location : Location}
    (isRoot : root ∈ roots) (reaches : Reaches tree extensions root path location)
    (real : (tree.realLocation? path).isSome = true) :
    ∃! file, file ∈ kept tree extensions roots ∧
      tree.realLocation? file.path = some location := by
  obtain ⟨source, there, found⟩ := exists_mem_sources_of_reaches wf folders isRoot reaches real
  have atPlace : ∀ file : SourceFile,
      SamePlace tree file.path source.path ↔ tree.realLocation? file.path = some location := by
    intro file
    unfold SamePlace
    simp [found]
  have unique := existsUnique_kept_of_mem_sources wf folders there
  simpa only [atPlace] using unique

/-- The file that is kept is shown by the least of the paths that lead to its place. -/
theorem shown_le_of_samePlace {file source : SourceFile}
    (member : file ∈ kept tree extensions roots) (there : source ∈ sources tree extensions roots)
    (place : SamePlace tree file.path source.path) : file.shown ≤ source.shown := by
  have same := canonical_eq_iff wf folders (mem_sources_of_mem_kept member) there
  exact shown_le_of_mem_kept member there (same.mpr place).symm

/-- A file that can be read was reached. -/
theorem exists_reaches_of_mem_sources {file : SourceFile}
    (member : file ∈ sources tree extensions roots) {text : List Char}
    (read : tree.readText file.path = .ok text) :
    ∃ root ∈ roots, ∃ location, Reaches tree extensions root file.path location := by
  obtain ⟨root, isRoot, -, names, name, seen, isSeen, accepted, path⟩ :=
    exists_names_of_mem_sources wf folders member
  unfold FileTree.readText FileTree.read at read
  cases resolved : tree.resolve file.path with
  | error e => simp [resolved] at read
  | ok found =>
    obtain ⟨location, item⟩ := found
    cases item with
    | file bytes =>
      exact ⟨root, isRoot, location, ⟨names, name, seen, isSeen, accepted, path⟩, bytes, resolved⟩
    | link target => simp [resolved] at read
    | folder => simp [resolved] at read

end Reached

/-! ## What is recorded -/

/-- What could not be read, in the order in which that was tried. -/
def failures (results : List (Except Unreadable Entry)) : List Unreadable :=
  results.filterMap fun
    | .ok _ => none
    | .error file => some file

/-- Every result is an entry or a failure. -/
theorem entries_append_failures_perm (results : List (Except Unreadable Entry))
    (unreadable : List Unreadable) :
    ((outcomeOf results unreadable).entries.map Except.ok ++
      (failures results).map Except.error).Perm results := by
  induction results with
  | nil => exact .nil
  | cons result results ih =>
    cases result with
    | ok entry => exact ih.cons _
    | error file => exact List.perm_middle.trans (ih.cons _)

/-- Records come in the order of the paths under which files are reported. -/
theorem pairwise_records (tree : FileTree) (settings : Settings) (roots : List Path) :
    (records tree settings roots).Pairwise fun a b => recordPath a ≤ recordPath b := by
  have sorted := List.pairwise_mergeSort (textOrder_trans SourceFile.shown)
    (textOrder_total SourceFile.shown) (tellApart (kept tree settings.extensions roots))
  refine List.pairwise_map.mpr (sorted.imp fun {a b} before => ?_)
  rw [recordPath_readFile, recordPath_readFile]
  exact of_decide_eq_true before

/-- The entries are in the order of their paths. -/
theorem pairwise_entries (tree : FileTree) (settings : Settings) (roots : List Path)
    (unreadable : List Unreadable) :
    (outcomeOf (records tree settings roots) unreadable).entries.Pairwise
      fun a b => a.path ≤ b.path := by
  refine List.Pairwise.filterMap _ ?_ (pairwise_records tree settings roots)
  rintro (_ | _) (_ | _) before entry made entry' made' <;> cases made <;> cases made'
  exact before

/-- What could not be read is listed in the order of paths. -/
theorem pairwise_unreadable (results : List (Except Unreadable Entry))
    (unreadable : List Unreadable) :
    (outcomeOf results unreadable).unreadable.Pairwise fun a b => a.path ≤ b.path :=
  (List.pairwise_mergeSort (textOrder_trans Unreadable.path) (textOrder_total Unreadable.path)
    _).imp of_decide_eq_true

/-- An entry is what was read from a file that was kept and reached. -/
theorem exists_reaches_of_mem_entries (wf : tree.WellFormed) {outcome : Outcome}
    (ran : run tree settings roots = .ok outcome) {entry : Entry}
    (member : entry ∈ outcome.entries) :
    ∃ file ∈ kept tree settings.extensions roots, ∃ root ∈ roots, ∃ location text,
      Reaches tree settings.extensions root file.path location ∧
      tree.readText file.path = .ok text ∧
      entry = settings.patterns.extract (file.reportedIn (kept tree settings.extensions roots))
        (Text.decode (file.path.fileName?.getD [])) text := by
  have record := (mem_entries_iff_of_run ran).mp member
  obtain ⟨file, kept, made⟩ :=
    List.mem_map.mp ((records_perm tree settings roots).mem_iff.mp record)
  unfold readFile at made
  split at made
  · rename_i text read
    obtain ⟨root, isRoot, location, reaches⟩ := exists_reaches_of_mem_sources wf
      (run_eq_ok_iff.mp ran).1 (mem_sources_of_mem_kept kept) read
    exact ⟨file, kept, root, isRoot, location, text, reaches, read, (Except.ok.inj made).symm⟩
  · contradiction

/-- What a scan owes to source files: each of them counts once. -/
structure AccountsFor (tree : FileTree) (settings : Settings) (roots : List Path)
    (outcome : Outcome) : Prop where
  /-- No file is kept twice, however often its root is given. -/
  once : (kept tree settings.extensions roots).Nodup
  /-- One file is kept for every real location that is reached. -/
  reached : ∀ root ∈ roots, ∀ path location, Reaches tree settings.extensions root path location →
    (tree.realLocation? path).isSome = true →
      ∃! file, file ∈ kept tree settings.extensions roots ∧
        tree.realLocation? file.path = some location
  /-- One file is kept for every place to which a walk has come. -/
  walked : ∀ source ∈ sources tree settings.extensions roots,
    ∃! file, file ∈ kept tree settings.extensions roots ∧ SamePlace tree file.path source.path
  /-- It is one of those to which a walk has come, with the least of the paths shown. -/
  least : ∀ file ∈ kept tree settings.extensions roots,
    file ∈ sources tree settings.extensions roots ∧
      ∀ source ∈ sources tree settings.extensions roots,
        SamePlace tree file.path source.path → file.shown ≤ source.shown
  /-- Every file that is kept makes one record: an entry, or something unreadable besides what the
  walks could not visit. -/
  recorded : ∃ failed, outcome.unreadable.Perm (faults tree roots ++ failed) ∧
    (outcome.entries.map Except.ok ++ failed.map Except.error).Perm
      ((kept tree settings.extensions roots).map fun file : SourceFile =>
        readFile tree settings.patterns (file.toldApart (kept tree settings.extensions roots)))
  /-- Entries are those of readable files that are reached. -/
  entered : ∀ entry ∈ outcome.entries, ∃ file ∈ kept tree settings.extensions roots,
    ∃ root ∈ roots, ∃ location text, Reaches tree settings.extensions root file.path location ∧
      tree.readText file.path = .ok text ∧
      entry = settings.patterns.extract (file.reportedIn (kept tree settings.extensions roots))
        (Text.decode (file.path.fileName?.getD [])) text
  /-- Entries are listed by path. -/
  entriesSorted : outcome.entries.Pairwise fun a b => a.path ≤ b.path
  /-- What cannot be read is listed by path. -/
  unreadableSorted : outcome.unreadable.Pairwise fun a b => a.path ≤ b.path
  /-- The registry says of every token what the entries say. -/
  registered : ∀ token path,
    path ∈ (outcome.registry.pathsOf token).names ↔ outcome.Lists token path
  /-- No token of the registry is without a path. -/
  filled : ∀ token paths, outcome.registry.get? token = some paths → paths.names ≠ []

/-- Every scan of a well-formed tree accounts for the source files below its roots. -/
theorem accountsFor_of_run (wf : tree.WellFormed) {outcome : Outcome}
    (ran : run tree settings roots = .ok outcome) : AccountsFor tree settings roots outcome := by
  obtain ⟨folders, rfl⟩ := run_eq_ok_iff.mp ran
  refine
    { once := nodup_kept tree settings.extensions roots
      reached := fun _ isRoot _ _ => existsUnique_kept_of_reaches wf folders isRoot
      walked := fun _ => existsUnique_kept_of_mem_sources wf folders
      least := ?_
      recorded := ⟨failures (records tree settings roots), List.mergeSort_perm _ _,
        (entries_append_failures_perm _ _).trans (records_perm tree settings roots)⟩
      entered := fun _ => exists_reaches_of_mem_entries wf ran
      entriesSorted := pairwise_entries tree settings roots _
      unreadableSorted := pairwise_unreadable _ _
      registered := fun token path => (isFolded_of_run ran).mem_pathsOf_iff
      filled := ?_ }
  · intro file member
    exact ⟨mem_sources_of_mem_kept member,
      fun source there => shown_le_of_samePlace wf folders member there⟩
  · intro token paths found
    exact Registry.filled _ _ (NameTable.get?_eq_some_iff.mp found)

/-- A scan of folders of a well-formed tree has an outcome, and it accounts for the source files
below them. -/
theorem exists_run_accountsFor (wf : tree.WellFormed)
    (folders : ∀ root ∈ roots, ∃ location, tree.resolve root = .ok (location, .folder)) :
    ∃ outcome, run tree settings roots = .ok outcome ∧
      AccountsFor tree settings roots outcome := by
  have ran : run tree settings roots =
      .ok (outcomeOf (records tree settings roots) (faults tree roots)) :=
    run_eq_ok_iff.mpr ⟨folders, rfl⟩
  exact ⟨_, ran, accountsFor_of_run wf ran⟩

/-- A folder with a file, and a link to that folder. -/
def repeatedTree : FileTree :=
  { items :=
      [([.ofString "src"], .folder),
       ([.ofString "src", .ofString "p.cpp"], .file "@blur".toUTF8),
       ([.ofString "l"], .link (.ofString "src"))] }

/-- The link, and the folder given twice. -/
def repeatedRoots : List Path := [.ofString "l", .ofString "src", .ofString "src"]

/-- The real location of the file. -/
def repeatedPlace : List Path.Step := [.top, .down (.ofString "src"), .down (.ofString "p.cpp")]

/-- What the three walks come upon. -/
def repeatedSources : List SourceFile :=
  [⟨.ofString "l/p.cpp", repeatedPlace, "l/p.cpp"⟩,
   ⟨.ofString "src/p.cpp", repeatedPlace, "src/p.cpp"⟩,
   ⟨.ofString "src/p.cpp", repeatedPlace, "src/p.cpp"⟩]

/-- The file is recorded once, under the least of its paths. -/
def repeatedOutcome : Outcome :=
  { registry := .ofList [("blur", "l/p.cpp")]
    entries := [⟨"l/p.cpp", ["blur"], ["blur"], none⟩]
    unreadable := [] }

/-- Each of the repeated roots leads to the same folder. -/
theorem folders_repeatedRoots :
    ∀ root ∈ repeatedRoots, repeatedTree.resolve root = .ok ([.ofString "src"], .folder) := by
  decide +kernel

/-- Scanning one folder several times records its file once. -/
theorem run_repeatedTree :
    run repeatedTree Report.sampleSettings repeatedRoots = .ok repeatedOutcome := by
  have found : sources repeatedTree Report.sampleSettings.extensions repeatedRoots =
      repeatedSources := by decide +kernel
  have arranged : arrange repeatedSources = [⟨.ofString "l/p.cpp", repeatedPlace, "l/p.cpp"⟩] := by
    cbv
  have read : [⟨.ofString "l/p.cpp", repeatedPlace, "l/p.cpp"⟩].map
      (readFile repeatedTree Report.sampleSettings.patterns) =
        repeatedOutcome.entries.map .ok := by decide +kernel
  have flawless : faults repeatedTree repeatedRoots = [] := by decide +kernel
  rw [run_eq_of_sources (fun root member => ⟨_, folders_repeatedRoots root member⟩) found arranged
    read flawless]
  cbv

/-- A file that is reached through a link and twice through a root given twice has one entry. -/
theorem exists_run_accountsFor_sample :
    repeatedTree.WellFormed ∧
      (∀ root ∈ repeatedRoots, ∃ location, repeatedTree.resolve root = .ok (location, .folder)) ∧
      ∃ outcome, run repeatedTree Report.sampleSettings repeatedRoots = .ok outcome ∧
        AccountsFor repeatedTree Report.sampleSettings repeatedRoots outcome ∧
        outcome.entries.map Entry.path = ["l/p.cpp"] := by
  have wf : repeatedTree.WellFormed := by decide
  have folders : ∀ root ∈ repeatedRoots,
      ∃ location, repeatedTree.resolve root = .ok (location, .folder) :=
    fun root member => ⟨_, folders_repeatedRoots root member⟩
  obtain ⟨outcome, ran, accounts⟩ := exists_run_accountsFor wf folders
  have same := run_repeatedTree
  rw [ran] at same
  obtain rfl := Except.ok.inj same
  exact ⟨wf, folders, _, ran, accounts, rfl⟩

/-! ## A file too deep to be told -/

/-- A name of 252 bytes. -/
def longName : Name := List.replicate 252 0x61

/-- Folders of that name in one another. -/
def deepLocation (depth : Nat) : Location := List.replicate depth longName

/-- The name of the file in the deepest folder. -/
def deepName : Name := .ofString "p.cpp"

/-- A file in the deepest folder, whose own path is too long. Two links lead to that folder. -/
def deepTree : FileTree :=
  { items :=
      [([.ofString "v"], .link ⟨Path.joinPieces (deepLocation 8)⟩),
       ([.ofString "s"], .link ⟨Path.joinPieces (Name.ofString "v" :: deepLocation 9)⟩),
       ([.ofString "t"], .link (.ofString "s")),
       (deepLocation 17 ++ [deepName], .file "@blur".toUTF8)] ++
      (List.range 17).map fun depth => (deepLocation (depth + 1), .folder) }

/-- The two links. -/
def deepRoots : List Path := [.ofString "s", .ofString "t"]

/-- What the walks through the two links come upon. -/
def deepSources : List SourceFile :=
  [⟨.ofString "s/p.cpp", (Path.ofString "s/p.cpp").steps, "s/p.cpp"⟩,
   ⟨.ofString "t/p.cpp", (Path.ofString "t/p.cpp").steps, "t/p.cpp"⟩]

/-- The file is recorded twice. -/
def deepOutcome : Outcome :=
  { registry := .ofList [("blur", "s/p.cpp"), ("blur", "t/p.cpp")]
    entries :=
      [⟨"s/p.cpp", ["blur"], ["blur"], none⟩, ⟨"t/p.cpp", ["blur"], ["blur"], none⟩]
    unreadable := [] }

/-- Both paths to the deep file lead to it. -/
theorem resolve_deepSources :
    ∀ file ∈ deepSources, deepTree.resolve file.path =
      .ok (deepLocation 17 ++ [deepName], .file "@blur".toUTF8) := by
  decide +kernel

/-- The walks come upon the deep file by both paths. -/
theorem sources_deepTree :
    sources deepTree Report.sampleSettings.extensions deepRoots = deepSources := by
  decide +kernel

/-- The scan records the deep file once for each path to it. -/
theorem run_deepTree : run deepTree Report.sampleSettings deepRoots = .ok deepOutcome := by
  have folders : ∀ root ∈ deepRoots, deepTree.resolve root = .ok (deepLocation 17, .folder) := by
    decide +kernel
  have arranged : arrange deepSources = deepSources := by cbv
  have read : deepSources.map (readFile deepTree Report.sampleSettings.patterns) =
      deepOutcome.entries.map .ok := by decide +kernel
  have flawless : faults deepTree deepRoots = [] := by decide +kernel
  rw [run_eq_of_sources (fun root member => ⟨_, folders root member⟩) sources_deepTree arranged read
    flawless]
  cbv

/-- One file that is reached through two roots and has two entries: no real location can be found
for either of its paths. -/
theorem exists_file_with_two_entries :
    ∃ tree settings roots outcome location, tree.WellFormed ∧
      run tree settings roots = .ok outcome ∧
      (∀ root ∈ roots, ∃ path, Reaches tree settings.extensions root path location) ∧
      (∀ file ∈ sources tree settings.extensions roots,
        ∃ bytes, tree.resolve file.path = .ok (location, .file bytes)) ∧
      outcome.entries.map Entry.path = ["s/p.cpp", "t/p.cpp"] := by
  have reaches : ∀ root ∈ deepRoots, Reaches deepTree Report.sampleSettings.extensions root
      (root.below [deepName]) (deepLocation 17 ++ [deepName]) := by
    intro root member
    have found : deepTree.resolve (root.below [deepName]) =
        .ok (deepLocation 17 ++ [deepName], .file "@blur".toUTF8) := by
      revert root
      decide +kernel
    exact ⟨⟨[], deepName, nofun, ⟨by decide, by decide⟩, by decide +kernel, rfl⟩, _, found⟩
  refine ⟨deepTree, Report.sampleSettings, deepRoots, deepOutcome, _, by decide +kernel,
    run_deepTree, fun root member => ⟨_, reaches root member⟩, ?_, rfl⟩
  rw [sources_deepTree]
  exact fun file member => ⟨_, resolve_deepSources file member⟩

end CatalogAudit.Scan
