import CatalogAudit.Artifact
import CatalogAudit.Proofs.System

/-!
# How an artifact is written

The folders above an artifact are made, and then it is replaced in the tree that has them. While the
folders are made, no file changes, whatever comes in between.
-/

namespace CatalogAudit

namespace FileTree

/-- Nothing stands at a path itself. -/
def IsVacant (tree : FileTree) (p : Path) : Prop :=
  ∀ location item, tree.find false p ≠ .ok (.present location item)

/-- No link stands at a path itself. -/
def HasNoLink (tree : FileTree) (p : Path) : Prop :=
  ∀ location target, tree.find false p ≠ .ok (.present location (.link target))

/-- What stands at a path itself is no link, and no file with other names. -/
structure StandsAlone (tree : FileTree) (p : Path) : Prop where
  /-- No link stands there. -/
  noLink : tree.HasNoLink p
  /-- There is no other name for what stands there. -/
  sole : ∀ location item other, tree.find false p = .ok (.present location item) →
    tree.isTwin location other = true → other = location

/-- At a vacant path nothing stands that could have other names. -/
theorem IsVacant.standsAlone {tree : FileTree} {p : Path} (vacant : tree.IsVacant p) :
    tree.StandsAlone p :=
  ⟨fun location target => vacant location (.link target),
    fun location item _ found => absurd found (vacant location item)⟩

/-- One tree has no files that another one has not. -/
def HasNoNewFiles (tree tree' : FileTree) : Prop :=
  ∀ location bytes,
    tree'.item? location = some (.file bytes) → tree.item? location = some (.file bytes)

/-- Trees with the same files have no new ones. -/
theorem SameFiles.hasNoNewFiles {tree tree' : FileTree} (same : SameFiles tree tree') :
    HasNoNewFiles tree tree' := fun location bytes => (same location bytes).mp

end FileTree

namespace Artifact

open FileTree Script

/-- The tree in which an artifact is written: the folders above it have been made. -/
def prepare (tree : FileTree) (p : Path) : FileTree := ((makeAbove p).run tree).1

/-- The path of the temporary file. -/
def temporary (p : Path) : Path := p.withFileName (temporaryName (p.fileName?.getD []))

/-- The very artifact stands at its place. -/
def IsThere (tree : FileTree) (p : Path) (bytes : ByteArray) : Prop :=
  ∃ location, (prepare tree p).find false p = .ok (.present location (.file bytes))

/-- An artifact can be read at its path, or has taken the place of a link that stood there. -/
structure Arrives (tree tree' : FileTree) (p : Path) (bytes : ByteArray) : Prop where
  /-- Unless a link stood at its path, it can be read there. -/
  read : (prepare tree p).HasNoLink p → tree'.read p = .ok bytes
  /-- If one did, its place is taken. -/
  link : ∀ location target, (prepare tree p).find false p = .ok (.present location (.link target)) →
    tree'.item? location = some (.file bytes)

variable {tree tree' : FileTree} {p : Path} {bytes : ByteArray} {steps : List Step}
  {result : Option Fault}

/-- Making the folders above an artifact adds only folders. If it succeeds, it has done what it does
when all calls work. -/
theorem makeAbove_runs (runs : Runs tree (makeAbove p) steps tree' result) :
    AddsOnlyFolders tree steps tree' ∧ (result = none → prepare tree p = tree') := by
  unfold makeAbove at runs
  unfold prepare makeAbove
  split at runs
  · obtain ⟨rfl, rfl, rfl⟩ := runs.of_done
    exact ⟨.refl _, fun _ => rfl⟩
  · obtain ⟨first, middle, outcome, last, rfl, early, late⟩ := runs.split
    obtain ⟨rfl, rfl, rfl⟩ := late.of_done
    obtain ⟨adds, sound⟩ := makeFolders_runs early
    rw [List.append_nil]
    refine ⟨adds, fun done => ?_⟩
    rw [run_bind, sound (Option.map_eq_none_iff.mp done)]
    rfl

/-- Preparing the way adds folders at most. -/
theorem addsFolders_prepare (tree : FileTree) (p : Path) : AddsFolders tree (prepare tree p) := by
  obtain ⟨steps, runs, -⟩ := exists_runs_run tree (makeAbove p)
  exact (makeAbove_runs runs).1.last

/-- Writing an artifact fails while its folders are made, or replaces it in the prepared tree. -/
theorem script_runs (runs : Runs tree (script p bytes) steps tree' result) :
    (AddsOnlyFolders tree steps tree' ∧ result ≠ none) ∨
      ∃ first last, steps = first ++ last ∧ AddsOnlyFolders tree first (prepare tree p) ∧
        p.fileName?.isSome = true ∧
        Runs (prepare tree p) (replace p (temporary p) bytes) last tree' result := by
  obtain ⟨first, middle, outcome, last, rfl, early, late⟩ := runs.split
  obtain ⟨adds, prepared⟩ := makeAbove_runs early
  cases outcome with
  | some fault =>
    obtain ⟨rfl, rfl, rfl⟩ := late.of_done
    exact .inl ⟨adds.append (.refl _), nofun⟩
  | none =>
    cases named : p.fileName? with
    | none =>
      rw [named] at late
      obtain ⟨rfl, rfl, rfl⟩ := late.of_done
      exact .inl ⟨adds.append (.refl _), nofun⟩
    | some name =>
      rw [named] at late
      obtain rfl := prepared rfl
      refine .inr ⟨first, last, rfl, adds, rfl, ?_⟩
      rw [temporary, named, Option.getD_some]
      exact late

/-- A write is a course on which all calls work. -/
theorem exists_runs_write (tree : FileTree) (p : Path) (bytes : ByteArray) :
    ∃ steps, Runs tree (script p bytes) steps (write tree p bytes).1 (write tree p bytes).2 ∧
      ∀ step ∈ steps, step.Works :=
  exists_runs_run tree (script p bytes)

end Artifact

end CatalogAudit
