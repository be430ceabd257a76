import CatalogAudit.Proofs.FileTree.Reach
import CatalogAudit.Proofs.Scan.Reported

/-!
# The order of walks

The order in which folders list their entries is not that of anything a reader could know. It
decides in which order a walk comes upon files and faults, and nothing else: whatever order that is,
the outcome of the scan is the same. The reason is that below one root different paths are shown
differently, so that sorting leaves no two things of one walk in the order in which they came.

For that the names must be texts. Names that are malformed can be read alike, and then the order in
which a walk comes upon them shows in the list of what cannot be read.
-/

namespace CatalogAudit.Scan

open FileTree (Visit FansOut NamesFit)

/-! ## Telling visits apart -/

section Visits

variable {root : Path} {visits visits' : List Visit}

/-- Every path is visited once, and different ones are shown differently. -/
structure ToldApart (root : Path) (visits : List Visit) : Prop where
  /-- No path is visited twice. -/
  once : (visits.map Visit.path).Nodup
  /-- No two paths are shown alike. -/
  apart : ∀ visit ∈ visits, ∀ other ∈ visits,
    visit.path.display root = other.path.display root → visit.path = other.path

/-- Different paths along names that are texts are told apart. -/
theorem toldApart_of_fansOut (fans : FansOut Text.IsEncoded visits root) :
    ToldApart root visits where
  once := fans.distinct
  apart := by
    intro visit member other there alike
    obtain ⟨names, fit, path⟩ := fans.below visit member
    obtain ⟨names', fit', path'⟩ := fans.below other there
    rw [path, path'] at alike
    have read := Path.decode_eq_of_display_below_eq (fun name member => (fit name member).1)
      (fun name member => (fit' name member).1) alike
    rw [path, path', Text.eq_of_map_decode_eq (fun name member => (fit name member).2)
      (fun name member => (fit' name member).2) read]

/-- In a tree whose names are texts, what a walk comes upon is told apart. -/
theorem toldApart_walk {tree : FileTree} (wf : tree.WellFormed)
    (texts : NamesFit Text.IsEncoded tree) (root : Path) : ToldApart root (tree.walk root) :=
  toldApart_of_fansOut (FileTree.fansOut_walk wf texts root)

/-- In another order the visits are told apart as well. -/
theorem ToldApart.perm (told : ToldApart root visits) (perm : visits.Perm visits') :
    ToldApart root visits' where
  once := (perm.map Visit.path).nodup_iff.mp told.once
  apart visit member other there :=
    told.apart visit (perm.mem_iff.mpr member) other (perm.mem_iff.mpr there)

/-- Visits of one walk that are shown alike are the same. -/
theorem eq_of_display_eq (told : ToldApart root visits) {visit other : Visit}
    (member : visit ∈ visits) (there : other ∈ visits)
    (alike : visit.path.display root = other.path.display root) : visit = other :=
  List.inj_on_of_nodup_map told.once member there (told.apart visit member other there alike)

/-- A source file has the path of its visit. -/
theorem path_eq_of_fileOf? {tree : FileTree} {extensions : List Glob} {visit : Visit}
    {file : SourceFile} (found : fileOf? tree extensions root visit = some file) :
    file.path = visit.path ∧ file = sourceFile tree root file.path := by
  cases visit with
  | fault fault => contradiction
  | file path =>
    simp only [fileOf?, Option.ite_none_right_eq_some, Option.some_inj] at found
    obtain ⟨-, rfl⟩ := found
    exact ⟨rfl, rfl⟩

/-- A source file is shown as its visit is displayed. -/
theorem shown_of_fileOf? {tree : FileTree} {extensions : List Glob} {visit : Visit}
    {file : SourceFile} (found : fileOf? tree extensions root visit = some file) :
    file.shown = String.ofList (visit.path.display root) := by
  obtain ⟨path, same⟩ := path_eq_of_fileOf? found
  rw [same, ← path]
  rfl

/-- A fault is listed as its visit is displayed. -/
theorem path_of_faultOf? {visit : Visit} {fault : Unreadable}
    (found : faultOf? root visit = some fault) :
    fault.path = String.ofList (visit.path.display root) := by
  cases visit with
  | file path => contradiction
  | fault fault =>
    cases found
    rfl

/-- Of what is made of the visits of one walk, things that are shown alike keep their place when the
visits come in another order: there is only one of them. -/
theorem filter_filterMap_eq_of_perm {α : Type*} {make : Visit → Option α} {shown : α → String}
    (isShown : ∀ visit a, make visit = some a → shown a = String.ofList (visit.path.display root))
    (told : ToldApart root visits) (perm : visits.Perm visits') {keep : α → Bool}
    (alike : ∀ a b, keep a = true → keep b = true → shown a = shown b) :
    (visits.filterMap make).filter keep = (visits'.filterMap make).filter keep := by
  have single : ∀ a ∈ (visits.filterMap make).filter keep,
      ∀ b ∈ (visits.filterMap make).filter keep, a = b := by
    intro a member b there
    rw [List.mem_filter, List.mem_filterMap] at member there
    obtain ⟨⟨visit, member, made⟩, kept⟩ := member
    obtain ⟨⟨visit', there, made'⟩, kept'⟩ := there
    have display := alike a b kept kept'
    rw [isShown visit a made, isShown visit' b made', String.ofList_inj] at display
    obtain rfl := eq_of_display_eq told member there display
    exact Option.some_inj.mp (made.symm.trans made')
  have reordered := (perm.filterMap make).filter keep
  have total : ((visits.filterMap make).filter keep).Pairwise fun _ _ => True :=
    List.pairwise_of_forall fun _ _ => trivial
  have total' : ((visits'.filterMap make).filter keep).Pairwise fun _ _ => True :=
    List.pairwise_of_forall fun _ _ => trivial
  refine List.Perm.eq_of_pairwise ?_ total total' reordered
  exact fun a b member there _ _ => single a member b (reordered.mem_iff.mpr there)

end Visits

/-! ## Scanning by given walks -/

/-- What a scan yields when the walks through its roots come upon the visits given. -/
def runSeeing (tree : FileTree) (settings : Settings) (walks : List (Path × List Visit)) :
    Except Fault Outcome :=
  ((walks.map Prod.fst).mapM (checkRoot tree)).map fun _ => ofVisits tree settings walks

/-- A scan goes by the walks through the tree itself. -/
theorem run_eq_runSeeing (tree : FileTree) (settings : Settings) (roots : List Path) :
    run tree settings roots =
      runSeeing tree settings (roots.map fun root => (root, tree.walk root)) := by
  have same : (roots.map fun root => (root, tree.walk root)).map Prod.fst = roots := by
    rw [List.map_map]
    exact List.map_id _
  unfold run runSeeing
  rw [mapM_visitsOf, same]
  cases roots.mapM (checkRoot tree) <;> rfl

/-- Two walks through a root that come upon the same in different orders, each path once. -/
structure Reorders (walk walk' : Path × List Visit) : Prop where
  /-- They begin at the same root. -/
  root : walk.1 = walk'.1
  /-- Every path is visited once, and shown as no other is. -/
  told : ToldApart walk.1 walk.2
  /-- The visits are the same. -/
  perm : walk.2.Perm walk'.2

section Reordering

variable {walks walks' : List (Path × List Visit)}

/-- Of what is shown alike, walks in other order make the same in the same order. -/
theorem filter_flatMap_eq_of_reorders {α : Type*} {make : Path → Visit → Option α}
    {shown : α → String}
    (isShown : ∀ root visit a, make root visit = some a →
      shown a = String.ofList (visit.path.display root))
    (same : List.Forall₂ Reorders walks walks') {keep : α → Bool}
    (alike : ∀ a b, keep a = true → keep b = true → shown a = shown b) :
    (walks.flatMap fun walk => walk.2.filterMap (make walk.1)).filter keep =
      (walks'.flatMap fun walk => walk.2.filterMap (make walk.1)).filter keep := by
  induction same with
  | nil => rfl
  | @cons walk walk' walks walks' first _ ih =>
    rw [List.flatMap_cons, List.flatMap_cons, List.filter_append, List.filter_append, ih,
      ← first.root, filter_filterMap_eq_of_perm (isShown walk.1) first.told first.perm alike]

/-- The files are read in the same order, and under the same paths. -/
theorem arrange_eq_of_reorders (tree : FileTree) (extensions : List Glob)
    (same : List.Forall₂ Reorders walks walks') :
    arrange (walks.flatMap fun walk => walk.2.filterMap (fileOf? tree extensions walk.1)) =
      arrange (walks'.flatMap fun walk => walk.2.filterMap (fileOf? tree extensions walk.1)) := by
  unfold arrange
  rw [(mergeSort_eq_mergeSort_iff SourceFile.atMost_trans SourceFile.atMost_total).mpr]
  intro file
  exact filter_flatMap_eq_of_reorders (fun _ _ _ => shown_of_fileOf?) same
    fun _ _ => SourceFile.shown_eq_of_ties

/-- What cannot be read is listed in the same order. -/
theorem filter_faults_eq_of_reorders (same : List.Forall₂ Reorders walks walks') (path : String) :
    (walks.flatMap fun walk => walk.2.filterMap (faultOf? walk.1)).filter (·.path == path) =
      (walks'.flatMap fun walk => walk.2.filterMap (faultOf? walk.1)).filter (·.path == path) :=
  filter_flatMap_eq_of_reorders (fun _ _ _ => path_of_faultOf?) same
    fun _ _ first second => (eq_of_beq first).trans (eq_of_beq second).symm

/-- A scan depends on the order of no walk. -/
theorem runSeeing_congr (tree : FileTree) (settings : Settings)
    (same : List.Forall₂ Reorders walks walks') :
    runSeeing tree settings walks = runSeeing tree settings walks' := by
  have roots : walks.map Prod.fst = walks'.map Prod.fst := by
    induction same with
    | nil => rfl
    | cons first _ ih => rw [List.map_cons, List.map_cons, first.root, ih]
  have outcomes : ofVisits tree settings walks = ofVisits tree settings walks' := by
    have arranged := arrange_eq_of_reorders tree settings.extensions same
    unfold ofVisits
    dsimp only
    rw [arranged]
    exact outcomeOf_eq_iff.mpr (filter_faults_eq_of_reorders same)
  unfold runSeeing
  rw [roots, outcomes]

end Reordering

/-- Two links with malformed names that are read alike, one of which leads back to its folder and
the other nowhere. -/
def malformedTree : FileTree :=
  { items :=
      [([.ofString "src"], .folder),
       ([.ofString "src", [0x61, 0xFE]], .link (.ofString ".")),
       ([.ofString "src", [0x61, 0xFF]], .link (.ofString "nowhere"))] }

/-- The two paths are different but shown alike, and the order in which a walk comes upon them shows
in the outcome. -/
theorem order_of_malformedTree_shows :
    let root : Path := .ofString "src"
    let visits := malformedTree.walk root
    malformedTree.WellFormed ∧ (visits.map Visit.path).Nodup ∧
      runSeeing malformedTree Report.sampleSettings [(root, visits)] ≠
        runSeeing malformedTree Report.sampleSettings [(root, visits.reverse)] := by
  intro root visits
  refine ⟨by decide +kernel, by decide +kernel, fun same => ?_⟩
  have folder : [root].mapM (checkRoot malformedTree) = .ok [()] := by decide +kernel
  have noFile : visits.filterMap
      (fileOf? malformedTree Report.sampleSettings.extensions root) = [] := by decide +kernel
  have noFile' : visits.reverse.filterMap
      (fileOf? malformedTree Report.sampleSettings.extensions root) = [] := by decide +kernel
  have outcomes := same
  unfold runSeeing ofVisits at outcomes
  simp only [List.map_cons, List.map_nil, folder, List.flatMap_cons, List.flatMap_nil,
    List.append_nil, noFile, noFile', Except.map, Except.ok.injEq] at outcomes
  have alike := outcomeOf_eq_iff.mp outcomes "src/a\ufffd"
  revert alike
  decide +kernel

end CatalogAudit.Scan
