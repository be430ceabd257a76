import CatalogAudit.Proofs.FileTree.Growth
import CatalogAudit.Proofs.Scan.Accounting
import CatalogAudit.Proofs.Scan.Traversal
import Mathlib.Algebra.Order.BigOperators.Group.List
import Mathlib.Algebra.Order.Group.Nat

/-!
# Hidden entries

A new file or folder whose name begins with a dot changes nothing about a scan, whatever is below
it, as long as no link leads there. A new link of such a name is never followed to a source file
either, and registry and entries stay as they are. But a walk looks links up before it looks at
their names, so it reports a link that leads nowhere, or back to a folder on its way, whatever name
that has.
-/

namespace CatalogAudit.Scan

open FileTree (Visit Way Stumbles AddsHidden)

variable {tree tree' : FileTree} {place : Location} {settings : Settings} {extensions : List Glob}
  {roots : List Path}

/-! ## One root -/

section Root

variable {root : Path} {location : Location}

/-- Stray faults are no source files. -/
theorem filterMap_fileOf?_strays {strays : List Visit}
    (isFault : ∀ visit ∈ strays, ∃ fault, visit = .fault fault) :
    strays.filterMap (fileOf? tree extensions root) = [] := by
  rw [List.filterMap_eq_nil_iff]
  intro visit member
  obtain ⟨fault, rfl⟩ := isFault visit member
  rfl

/-- Every stray fault is listed. -/
theorem length_filterMap_faultOf?_strays {strays : List Visit}
    (isFault : ∀ visit ∈ strays, ∃ fault, visit = .fault fault) :
    (strays.filterMap (faultOf? root)).length = strays.length := by
  induction strays with
  | nil => rfl
  | cons visit strays ih =>
    rw [List.forall_mem_cons] at isFault
    obtain ⟨⟨fault, rfl⟩, others⟩ := isFault
    exact congrArg Nat.succ (ih others)

/-- What a walk came upon before is taken for the same source file. -/
theorem fileOf?_eq (adds : AddsHidden tree tree' place)
    (begins : tree.resolve root = .ok (location, .folder)) {visit : Visit}
    (member : visit ∈ tree.walk root) :
    fileOf? tree' extensions root visit = fileOf? tree extensions root visit := by
  cases visit with
  | fault fault => rfl
  | file path =>
    have real := (adds.file_eq_of_mem_walk begins member).2
    simp only [fileOf?, sourceFile, real]

/-- Source files at one place that are shown alike are found in the same order as before. -/
theorem filter_filterMap_fileOf?_eq (adds : AddsHidden tree tree' place)
    (told : ToldApart root (tree'.walk root))
    (begins : tree.resolve root = .ok (location, .folder)) {keep : SourceFile → Bool}
    (alike : ∀ a b, keep a = true → keep b = true → a.shown = b.shown) :
    ((tree'.walk root).filterMap (fileOf? tree' extensions root)).filter keep =
      ((tree.walk root).filterMap (fileOf? tree extensions root)).filter keep := by
  obtain ⟨strays, perm, isFault, -⟩ := adds.exists_strays begins
  have same : (tree.walk root).filterMap (fileOf? tree' extensions root) =
      (tree.walk root).filterMap (fileOf? tree extensions root) :=
    List.filterMap_congr fun visit member => fileOf?_eq adds begins member
  rw [filter_filterMap_eq_of_perm (fun _ _ => shown_of_fileOf?) told perm alike,
    List.filterMap_append, filterMap_fileOf?_strays isFault, List.append_nil, same]

/-- Where a walk does not stumble, the faults at one path are found in the same order as before. -/
theorem filter_filterMap_faultOf?_eq (adds : AddsHidden tree tree' place)
    (told : ToldApart root (tree'.walk root)) (begins : tree.resolve root = .ok (location, .folder))
    (steady : ∀ chain, Way tree { location, path := root } chain → ¬ Stumbles tree' place chain)
    (path : String) :
    ((tree'.walk root).filterMap (faultOf? root)).filter (·.path == path) =
      ((tree.walk root).filterMap (faultOf? root)).filter (·.path == path) := by
  obtain ⟨strays, perm, -, none⟩ := adds.exists_strays begins
  rw [none.mpr steady, List.append_nil] at perm
  exact filter_filterMap_eq_of_perm (fun _ _ => path_of_faultOf?) told perm
    fun _ _ first second => (eq_of_beq first).trans (eq_of_beq second).symm

/-- No fault is lost, and where a walk stumbles there is one more. -/
theorem length_filterMap_faultOf?_le (adds : AddsHidden tree tree' place)
    (begins : tree.resolve root = .ok (location, .folder)) :
    ((tree.walk root).filterMap (faultOf? root)).length ≤
        ((tree'.walk root).filterMap (faultOf? root)).length ∧
      (((tree'.walk root).filterMap (faultOf? root)).length ≤
          ((tree.walk root).filterMap (faultOf? root)).length →
        ∀ chain, Way tree { location, path := root } chain → ¬ Stumbles tree' place chain) := by
  obtain ⟨strays, perm, isFault, none⟩ := adds.exists_strays begins
  have length := (perm.filterMap (faultOf? root)).length_eq
  rw [List.filterMap_append, List.length_append, length_filterMap_faultOf?_strays isFault] at length
  refine ⟨by omega, fun most => none.mp (List.eq_nil_of_length_eq_zero ?_)⟩
  omega

end Root

/-! ## All roots -/

section Roots

variable (adds : AddsHidden tree tree' place)
  (folders : ∀ root ∈ roots, ∃ location, tree.resolve root = .ok (location, .folder))

section Told

variable (told : ∀ root ∈ roots, ToldApart root (tree'.walk root))

include adds folders told

/-- The same files are read in the same order. -/
theorem arrange_sources_eq :
    arrange (sources tree' extensions roots) = arrange (sources tree extensions roots) := by
  unfold arrange
  rw [(mergeSort_eq_mergeSort_iff SourceFile.atMost_trans SourceFile.atMost_total).mpr]
  intro file
  unfold sources
  rw [List.filter_flatMap, List.filter_flatMap]
  refine List.flatMap_congr fun root isRoot => ?_
  obtain ⟨location, begins⟩ := folders root isRoot
  exact filter_filterMap_fileOf?_eq adds (told root isRoot) begins
    fun _ _ => SourceFile.shown_eq_of_ties

/-- The same records are made of them. -/
theorem records_eq_of_addsHidden : records tree' settings roots = records tree settings roots := by
  unfold records
  rw [arrange_sources_eq adds folders told]
  refine List.map_congr_left fun file member => ?_
  obtain ⟨source, found, path⟩ := exists_source_of_mem_arrange member
  obtain ⟨root, isRoot, walked, -⟩ := mem_sources_iff.mp found
  obtain ⟨location, begins⟩ := folders root isRoot
  have resolved := (adds.file_eq_of_mem_walk begins walked).1
  rw [path] at resolved
  unfold readFile FileTree.readText FileTree.read
  rw [resolved]

end Told

include adds folders

/-- As many faults are found only if no walk stumbles. -/
theorem steady_of_length_faults_le
    (most : (faults tree' roots).length ≤ (faults tree roots).length) :
    ∀ root ∈ roots, ∀ location chain, tree.resolve root = .ok (location, .folder) →
      Way tree { location, path := root } chain → ¬ Stumbles tree' place chain := by
  intro root isRoot location chain begins
  refine (length_filterMap_faultOf?_le adds begins).2 ?_ chain
  by_contra more
  have less := List.sum_lt_sum (fun root => ((tree.walk root).filterMap (faultOf? root)).length)
    (fun root => ((tree'.walk root).filterMap (faultOf? root)).length)
    (fun root isRoot => by
      obtain ⟨location, begins⟩ := folders root isRoot
      exact (length_filterMap_faultOf?_le adds begins).1)
    ⟨root, isRoot, Nat.lt_of_not_le more⟩
  unfold faults at most
  rw [List.length_flatMap, List.length_flatMap] at most
  exact absurd most (Nat.not_le_of_lt less)

end Roots

/-! ## A hidden link that leads nowhere -/

/-- Where the link is added to the sample. -/
def strayPlace : Location := [.ofString "src", .ofString ".gone.cpp"]

/-- The sample with the link. -/
def strayTree : FileTree :=
  { Report.sampleTree with
    items := Report.sampleTree.items ++ [(strayPlace, .link (.ofString "nowhere"))] }

/-- What the scan yields then. -/
def strayOutcome : Outcome :=
  { registry := .ofList [("blur", "src/a.cpp"), ("glow", "src/b.cpp"), ("blur", "src/b.cpp")]
    entries :=
      [⟨"src/a.cpp", ["blur"], ["blur"], none⟩,
       ⟨"src/b.cpp", ["glow", "blur"], ["glow", "blur"], none⟩]
    unreadable :=
      [{ path := "src/.gone.cpp"
         reason :=
           "IO error for operation on src/.gone.cpp: No such file or directory (os error 2)" }] }

/-- The source files, as they are found with and without the link. -/
def straySources : List SourceFile :=
  [⟨.ofString "src/a.cpp", (Path.ofString "/src/a.cpp").steps, "src/a.cpp"⟩,
   ⟨.ofString "src/b.cpp", (Path.ofString "/src/b.cpp").steps, "src/b.cpp"⟩]

/-- The tree is the sample with a hidden entry added. -/
theorem addsHidden_strayTree : AddsHidden Report.sampleTree strayTree strayPlace where
  wf := by decide
  wf' := by decide
  grows := FileTree.grows_of_items (by decide) (by decide) (by decide)
  added := ⟨_, rfl⟩
  hidden := ⟨[.ofString "src"], .ofString ".gone.cpp", rfl, by decide⟩
  unlinked := FileTree.unlinked_of_linkless (by simp [Report.sampleTree])

/-- The hidden entry is listed as unreadable. -/
theorem run_strayTree :
    run strayTree Report.sampleSettings [.ofString "src"] = .ok strayOutcome := by
  have found : sources strayTree Report.sampleSettings.extensions [.ofString "src"] =
      straySources := by decide +kernel
  have arranged : arrange straySources = straySources := by cbv
  have read : straySources.map (readFile strayTree Report.sampleSettings.patterns) =
      strayOutcome.entries.map .ok := by decide +kernel
  have missed : faults strayTree [.ofString "src"] = strayOutcome.unreadable := by decide +kernel
  have folder : strayTree.resolve (.ofString "src") = .ok ([.ofString "src"], .folder) := by
    decide +kernel
  rw [run_eq_of_sources (List.forall_mem_singleton.mpr ⟨_, folder⟩) found arranged read missed]
  cbv

/-! ## Hidden entries and outcomes -/

/-- The same is read and the same faults are listed exactly when no walk stumbles over the entry. -/
theorem outcomeOf_faults_eq_iff (adds : AddsHidden tree tree' place)
    (folders : ∀ root ∈ roots, ∃ location, tree.resolve root = .ok (location, .folder))
    (told : ∀ root ∈ roots, ToldApart root (tree'.walk root))
    (results : List (Except Unreadable Entry)) :
    outcomeOf results (faults tree' roots) = outcomeOf results (faults tree roots) ↔
      ∀ root ∈ roots, ∀ location chain, tree.resolve root = .ok (location, .folder) →
        Way tree { location, path := root } chain → ¬ Stumbles tree' place chain := by
  constructor
  · intro alike
    refine steady_of_length_faults_le adds folders ?_
    have lengths := congrArg (fun outcome => outcome.unreadable.length) alike
    simp only [outcomeOf, List.length_mergeSort, List.length_append] at lengths
    omega
  · intro steady
    refine outcomeOf_eq_iff.mpr fun path => ?_
    unfold faults
    rw [List.filter_flatMap, List.filter_flatMap]
    refine List.flatMap_congr fun root isRoot => ?_
    obtain ⟨location, begins⟩ := folders root isRoot
    exact filter_filterMap_faultOf?_eq adds (told root isRoot) begins
      (fun chain => steady root isRoot location chain begins) path

/-- When an entry is added whose name begins with a dot, and no link leads there, a scan has an
outcome as before, with the same registry and the same entries. The whole outcome is the same
exactly when no walk stumbles over the entry, and so always when that is a file or a folder. The
names below the roots must be told apart by what is shown of them, as texts are. -/
theorem run_of_addsHidden (adds : AddsHidden tree tree' place)
    (told : ∀ root ∈ roots, ToldApart root (tree'.walk root)) {outcome : Outcome}
    (ran : run tree settings roots = .ok outcome) :
    ∃ outcome', run tree' settings roots = .ok outcome' ∧
      outcome'.registry = outcome.registry ∧ outcome'.entries = outcome.entries ∧
      ((∀ target, tree'.item? place ≠ some (.link target)) → outcome' = outcome) ∧
      (outcome' = outcome ↔ ∀ root ∈ roots, ∀ location chain,
        tree.resolve root = .ok (location, .folder) →
          Way tree { location, path := root } chain → ¬ Stumbles tree' place chain) := by
  obtain ⟨folders, rfl⟩ := run_eq_ok_iff.mp ran
  have ran' : run tree' settings roots =
      .ok (outcomeOf (records tree settings roots) (faults tree' roots)) := by
    rw [← records_eq_of_addsHidden adds folders told]
    refine run_eq_ok_iff.mpr ⟨fun root isRoot => ?_, rfl⟩
    obtain ⟨location, begins⟩ := folders root isRoot
    exact ⟨location, adds.grows.isPart.resolve begins⟩
  have same := outcomeOf_faults_eq_iff adds folders told (records tree settings roots)
  obtain ⟨registry, entries⟩ := outcomeOf_alike (records tree settings roots) (faults tree' roots)
    (faults tree roots)
  refine ⟨_, ran', registry, entries, fun noLink => same.mpr ?_, same⟩
  rintro root - location chain - - ⟨here, above, name, target, -, isPlace, lists, -⟩
  rw [isPlace] at noLink
  exact noLink target (adds.wf'.mem_children_iff.mp lists.child)

/-- The sample, to which a hidden link is added that leads nowhere. -/
theorem run_of_addsHidden_stray :
    AddsHidden Report.sampleTree strayTree strayPlace ∧
      (∀ root ∈ [Path.ofString "src"], ToldApart root (strayTree.walk root)) ∧
      run Report.sampleTree Report.sampleSettings [.ofString "src"] = .ok Report.sampleOutcome ∧
      ∃ outcome', run strayTree Report.sampleSettings [.ofString "src"] = .ok outcome' ∧
        outcome'.registry = Report.sampleOutcome.registry ∧
        outcome'.entries = Report.sampleOutcome.entries ∧
        ((∀ target, strayTree.item? strayPlace ≠ some (.link target)) →
          outcome' = Report.sampleOutcome) ∧
        (outcome' = Report.sampleOutcome ↔ ∀ root ∈ [Path.ofString "src"], ∀ location chain,
          Report.sampleTree.resolve root = .ok (location, .folder) →
            Way Report.sampleTree { location, path := root } chain →
              ¬ Stumbles strayTree strayPlace chain) := by
  have told : ∀ root ∈ [Path.ofString "src"], ToldApart root (strayTree.walk root) :=
    fun root _ => toldApart_walk addsHidden_strayTree.wf' (by decide +kernel) root
  exact ⟨addsHidden_strayTree, told, Report.run_sampleTree,
    run_of_addsHidden addsHidden_strayTree told Report.run_sampleTree⟩

/-- A hidden link to which no link leads, and that a scan reports as unreadable all the same. -/
theorem exists_hidden_entry_reported :
    ∃ tree tree' place settings roots outcome outcome', AddsHidden tree tree' place ∧
      run tree settings roots = .ok outcome ∧ run tree' settings roots = .ok outcome' ∧
      outcome.unreadable = [] ∧ outcome'.unreadable.map Unreadable.path = ["src/.gone.cpp"] :=
  ⟨Report.sampleTree, strayTree, strayPlace, Report.sampleSettings, [.ofString "src"],
    Report.sampleOutcome, strayOutcome, addsHidden_strayTree, Report.run_sampleTree, run_strayTree,
    rfl, rfl⟩

end CatalogAudit.Scan
