import CatalogAudit.Proofs.FileTree.WellFormed
import CatalogAudit.Proofs.Scan.Reported
import Mathlib.Data.List.Perm.Basic

/-!
# Roots given twice or in another order

Files are told apart by place, so it does not matter how often a root is given, or when: the same
places are read, and the same paths are shown at first. Two things still depend on the list of
roots. What a walk cannot visit is listed once for each time its root is given. And when a file is
reached by two paths that are shown alike, the earlier root decides which of them is the whole path.
-/

namespace CatalogAudit.Scan

variable {tree : FileTree} {settings : Settings} {extensions : List Glob} {roots roots' : List Path}

/-! ## What is kept -/

/-- Where a file is, and the path by which it would be shown. -/
def SourceFile.place (file : SourceFile) : List Path.Step × String := (file.canonical, file.shown)

/-- Files at the same place that would be shown alike are the same, path and all. -/
def Unambiguous (files : List SourceFile) : Prop :=
  ∀ file ∈ files, ∀ other ∈ files, file.place = other.place → file = other

/-- The places that are kept, with the least of the paths shown there. -/
theorem mem_map_place_kept_iff {place : List Path.Step × String} :
    place ∈ (kept tree extensions roots).map SourceFile.place ↔
      ∃ file ∈ sources tree extensions roots, file.place = place ∧
        ∀ other ∈ sources tree extensions roots, other.canonical = file.canonical →
          file.shown ≤ other.shown := by
  rw [List.mem_map]
  constructor
  · rintro ⟨file, member, rfl⟩
    exact ⟨file, mem_sources_of_mem_kept member, rfl,
      fun other there same => shown_le_of_mem_kept member there same⟩
  · rintro ⟨file, member, rfl, least⟩
    obtain ⟨representative, kept, same, before⟩ := exists_mem_kept member
    have after := least representative (mem_sources_of_mem_kept kept) same
    exact ⟨representative, kept, Prod.ext same (String.le_antisymm before after)⟩

/-- No place is kept twice. -/
theorem nodup_map_place_kept : ((kept tree extensions roots).map SourceFile.place).Nodup := by
  refine (List.nodup_map_iff_inj_on (nodup_kept tree extensions roots)).mpr ?_
  intro file member other there same
  exact eq_of_mem_kept member there (congrArg Prod.fst same)

/-- The order of places. -/
theorem pairwise_map_place_kept :
    ((kept tree extensions roots).map SourceFile.place).Pairwise fun a b =>
      stepsAtMost a.1 b.1 = true ∧ (a.1 = b.1 → a.2 ≤ b.2) := by
  rw [List.pairwise_map]
  have sorted := (SourceFile.pairwise_mergeSort (sources tree extensions roots)).sublist
    (firstOfEach_sublist _)
  exact sorted.imp SourceFile.atMost_iff.mp

/-! ## Roots with the same members -/

/-- Where a function is injective, lists with the same values are the same. -/
theorem eq_of_map_eq_map {α β : Type*} {f : α → β} {xs ys : List α}
    (inj : ∀ a ∈ xs, ∀ b ∈ ys, f a = f b → a = b) (same : xs.map f = ys.map f) : xs = ys := by
  induction xs generalizing ys with
  | nil => exact (List.map_eq_nil_iff.mp same.symm).symm
  | cons a xs ih =>
    cases ys with
    | nil => contradiction
    | cons b ys =>
      obtain ⟨first, others⟩ := List.cons.inj same
      rw [inj a List.mem_cons_self b List.mem_cons_self first, ih _ others]
      exact fun a member b there =>
        inj a (List.mem_cons_of_mem _ member) b (List.mem_cons_of_mem _ there)

section SameRoots

variable (same : ∀ root, root ∈ roots ↔ root ∈ roots')

include same

/-- The same roots come upon the same source files, however often and in which order they are
given. -/
theorem mem_sources_iff_of_same {file : SourceFile} :
    file ∈ sources tree extensions roots ↔ file ∈ sources tree extensions roots' := by
  unfold sources
  simp only [List.mem_flatMap, same]

/-- The same roots come upon the same faults. -/
theorem mem_faults_iff_of_same {fault : Unreadable} :
    fault ∈ faults tree roots ↔ fault ∈ faults tree roots' := by
  unfold faults
  simp only [List.mem_flatMap, same]

/-- The same roots keep the same places. -/
theorem map_place_kept_eq :
    (kept tree extensions roots).map SourceFile.place =
      (kept tree extensions roots').map SourceFile.place := by
  have members : ((kept tree extensions roots).map SourceFile.place).Perm
      ((kept tree extensions roots').map SourceFile.place) := by
    rw [List.perm_ext_iff_of_nodup nodup_map_place_kept nodup_map_place_kept]
    intro place
    simp only [mem_map_place_kept_iff, mem_sources_iff_of_same same]
  refine members.eq_of_pairwise ?_ pairwise_map_place_kept pairwise_map_place_kept
  rintro a b - - ⟨before, least⟩ ⟨after, least'⟩
  have place := stepsAtMost_antisymm before after
  exact Prod.ext place (String.le_antisymm (least place) (least' place.symm))

/-- The same files are kept when no place is reached by two paths that are shown alike. -/
theorem kept_eq_of_unambiguous (unambiguous : Unambiguous (sources tree extensions roots)) :
    kept tree extensions roots = kept tree extensions roots' := by
  refine eq_of_map_eq_map ?_ (map_place_kept_eq same)
  intro file member other there alike
  have source := (mem_sources_iff_of_same same).mpr (mem_sources_of_mem_kept there)
  exact unambiguous file (mem_sources_of_mem_kept member) other source alike

end SameRoots

/-! ## A root given twice -/

/-- A folder with a source file and a link that leads nowhere. -/
def danglingTree : FileTree :=
  { items :=
      [([.ofString "src"], .folder),
       ([.ofString "src", .ofString "p.cpp"], .file "@blur".toUTF8),
       ([.ofString "src", .ofString "gone.cpp"], .link (.ofString "nowhere"))] }

/-- That folder as a root. -/
def danglingRoot : Path := .ofString "src"

/-- The source file as it is found. -/
def danglingSource : SourceFile :=
  ⟨.ofString "src/p.cpp", (Path.ofString "/src/p.cpp").steps, "src/p.cpp"⟩

/-- What is said of the link. -/
def danglingFault : Unreadable :=
  { path := "src/gone.cpp"
    reason := "IO error for operation on src/gone.cpp: No such file or directory (os error 2)" }

/-- The outcome of a scan that comes upon the link a number of times. -/
def danglingOutcome (times : Nat) : Outcome :=
  { registry := .ofList [("blur", "src/p.cpp")]
    entries := [⟨"src/p.cpp", ["blur"], ["blur"], none⟩]
    unreadable := List.replicate times danglingFault }

/-- The root is a folder. -/
theorem resolve_danglingRoot :
    danglingTree.resolve danglingRoot = .ok ([.ofString "src"], .folder) :=
  rfl

/-- With the root given once the fault is listed once. -/
theorem run_danglingTree_once :
    run danglingTree Report.sampleSettings [danglingRoot] = .ok (danglingOutcome 1) := by
  have found : sources danglingTree Report.sampleSettings.extensions [danglingRoot] =
      [danglingSource] := by decide +kernel
  have arranged : arrange [danglingSource] = [danglingSource] := by cbv
  have read : [danglingSource].map (readFile danglingTree Report.sampleSettings.patterns) =
      (danglingOutcome 1).entries.map .ok := by decide +kernel
  have missed : faults danglingTree [danglingRoot] = [danglingFault] := by decide +kernel
  rw [run_eq_of_sources (List.forall_mem_singleton.mpr ⟨_, resolve_danglingRoot⟩) found arranged
    read missed]
  cbv

/-- With the root given twice the fault is listed twice. -/
theorem run_danglingTree_twice :
    run danglingTree Report.sampleSettings [danglingRoot, danglingRoot] =
      .ok (danglingOutcome 2) := by
  have found : sources danglingTree Report.sampleSettings.extensions [danglingRoot, danglingRoot] =
      [danglingSource, danglingSource] := by decide +kernel
  have arranged : arrange [danglingSource, danglingSource] = [danglingSource] := by cbv
  have read : [danglingSource].map (readFile danglingTree Report.sampleSettings.patterns) =
      (danglingOutcome 2).entries.map .ok := by decide +kernel
  have missed : faults danglingTree [danglingRoot, danglingRoot] =
      [danglingFault, danglingFault] := by
    decide +kernel
  have folder : ∃ location, danglingTree.resolve danglingRoot = .ok (location, .folder) :=
    ⟨_, resolve_danglingRoot⟩
  rw [run_eq_of_sources (List.forall_mem_cons.mpr ⟨folder, List.forall_mem_singleton.mpr folder⟩)
    found arranged read missed]
  cbv

/-! ## Lists of roots -/

/-- Of a scan of roots that are given in another order, or more often, the same places are kept and
the same things cannot be visited. Unless a place is reached by two paths that are shown alike,
registry and entries are the same, and the whole outcome is the same exactly when the faults at each
path are listed as often and in the same order. -/
theorem run_of_same_roots (same : ∀ root, root ∈ roots ↔ root ∈ roots') {outcome : Outcome}
    (ran : run tree settings roots = .ok outcome) :
    ∃ outcome', run tree settings roots' = .ok outcome' ∧
      (kept tree settings.extensions roots).map SourceFile.place =
        (kept tree settings.extensions roots').map SourceFile.place ∧
      (∀ fault, fault ∈ faults tree roots ↔ fault ∈ faults tree roots') ∧
      (Unambiguous (sources tree settings.extensions roots) →
        outcome.registry = outcome'.registry ∧ outcome.entries = outcome'.entries ∧
          (outcome = outcome' ↔ ∀ path, (faults tree roots).filter (·.path == path) =
            (faults tree roots').filter (·.path == path))) := by
  obtain ⟨folders, rfl⟩ := run_eq_ok_iff.mp ran
  have ran' : run tree settings roots' =
      .ok (outcomeOf (records tree settings roots') (faults tree roots')) :=
    run_eq_ok_iff.mpr ⟨fun root member => folders root ((same root).mpr member), rfl⟩
  refine ⟨_, ran', map_place_kept_eq same, fun _ => mem_faults_iff_of_same same, ?_⟩
  intro unambiguous
  have results : records tree settings roots = records tree settings roots' := by
    have files := kept_eq_of_unambiguous same unambiguous
    unfold kept at files
    unfold records arrange
    rw [files]
  rw [results]
  obtain ⟨registry, entries⟩ := outcomeOf_alike (records tree settings roots') (faults tree roots)
    (faults tree roots')
  exact ⟨registry, entries, outcomeOf_eq_iff⟩

/-- A root given once and twice, where a link below it leads nowhere. -/
theorem run_of_same_roots_dangling :
    let once := [danglingRoot]
    let twice := [danglingRoot, danglingRoot]
    let extensions := Report.sampleSettings.extensions
    (∀ root, root ∈ once ↔ root ∈ twice) ∧
      run danglingTree Report.sampleSettings once = .ok (danglingOutcome 1) ∧
      ∃ outcome', run danglingTree Report.sampleSettings twice = .ok outcome' ∧
        (kept danglingTree extensions once).map SourceFile.place =
          (kept danglingTree extensions twice).map SourceFile.place ∧
        (∀ fault, fault ∈ faults danglingTree once ↔ fault ∈ faults danglingTree twice) ∧
        (Unambiguous (sources danglingTree extensions once) →
          (danglingOutcome 1).registry = outcome'.registry ∧
            (danglingOutcome 1).entries = outcome'.entries ∧
            (danglingOutcome 1 = outcome' ↔
              ∀ path, (faults danglingTree once).filter (·.path == path) =
                (faults danglingTree twice).filter (·.path == path))) := by
  intro once twice extensions
  have same : ∀ root, root ∈ once ↔ root ∈ twice := by simp [once, twice]
  exact ⟨same, run_danglingTree_once, run_of_same_roots same run_danglingTree_once⟩

/-- Two lists of the same roots, all of them folders, with which a scan has different outcomes: the
link that leads nowhere is reported once and twice. -/
theorem exists_same_roots_differ :
    ∃ tree settings roots roots' outcome outcome', tree.WellFormed ∧
      (∀ root, root ∈ roots ↔ root ∈ roots') ∧ run tree settings roots = .ok outcome ∧
      run tree settings roots' = .ok outcome' ∧
      outcome.unreadable.length = 1 ∧ outcome'.unreadable.length = 2 :=
  ⟨danglingTree, Report.sampleSettings, [danglingRoot], [danglingRoot, danglingRoot],
    danglingOutcome 1, danglingOutcome 2, by decide, by simp, run_danglingTree_once,
    run_danglingTree_twice, rfl, rfl⟩

end CatalogAudit.Scan
