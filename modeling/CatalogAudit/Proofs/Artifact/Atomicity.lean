import CatalogAudit.Proofs.Artifact.Replacement

/-!
# Writing an artifact is atomic and local

A write that succeeds has put the file in its place and changed no other file but the temporary one,
which is gone. A write that fails, for whatever reason, has changed none but that, and made none
unless the system gives up writing bytes or removing a file. In between, whoever reads the path
finds all of the old bytes, all of the new ones, or nothing if nothing was there, unless the path
leads to the temporary file. The one thing that a write can spoil is its own path: it replaces a
link that stands there, and if the path came through that very link to its folder, it leads nowhere
any more.
-/

namespace CatalogAudit.Artifact

open FileTree

variable {tree tree' between : FileTree} {p : Path} {own : Location} {bytes old seen : ByteArray}
  {steps : List Step} {result : Option Fault}

/-! ## What a write comes to -/

/-- Where an artifact belongs, once the folders above it have been made. -/
def IsPlace (tree : FileTree) (p : Path) (location : Location) : Prop :=
  (prepare tree p).NamesPlace p location

/-- Where the temporary file of an artifact belongs, once the folders above it have been made. -/
def IsAside (tree : FileTree) (p : Path) (location : Location) : Prop :=
  p.fileName?.isSome = true ∧ (prepare tree p).NamesPlace (temporary p) location

/-- What stands at the temporary name, once the folders above it have been made, is no link and no
file with other names. -/
def StandsAloneAside (tree : FileTree) (p : Path) : Prop :=
  ∀ location, IsAside tree p location →
    (∀ target, tree.item? location ≠ some (.link target)) ∧
      ∀ other, tree.isTwin location other = true → other = location

/-- Once a file stands at the temporary name, the path leads to it. -/
def LeadsAside (tree : FileTree) (p : Path) : Prop :=
  ∃ own, IsAside tree p own ∧
    ((prepare tree p).put own (.file .empty)).find true p = .ok (.present own (.file .empty))

/-- A location holds the same file as before, or none as before. -/
def SameFileAt (tree tree' : FileTree) (location : Location) : Prop :=
  ∀ bytes, tree'.item? location = some (.file bytes) ↔ tree.item? location = some (.file bytes)

/-- A write that succeeds has put the file in its place, and nothing else has come of it. -/
structure Delivered (tree tree' : FileTree) (p : Path) (bytes : ByteArray)
    (place own : Location) : Prop where
  /-- The place of the artifact. -/
  isPlace : IsPlace tree p place
  /-- The place of the temporary file. -/
  isAside : IsAside tree p own
  /-- The file is there. -/
  written : tree'.item? place = some (.file bytes)
  /-- The temporary file is gone. -/
  gone : tree'.item? own = none
  /-- Nothing is found at the temporary name. -/
  vacant : tree'.IsVacant (temporary p)
  /-- All other files are as before. -/
  others : ∀ location, location ≠ place → location ≠ own → SameFileAt tree tree' location
  /-- The file is read at the path, unless the path needed a link that stood at the place. -/
  read : tree'.read p = .ok bytes ↔ ¬ (prepare tree p).NeedsOwnLink p

/-- A write that fails has changed no file but perhaps the temporary one. It has made none, unless
the system has given up writing bytes or removing a file. -/
structure Refused (tree : FileTree) (steps : List Step) (tree' : FileTree) (p : Path) : Prop where
  /-- All files but the temporary one are as before. -/
  others : ∀ location, ¬ IsAside tree p location → SameFileAt tree tree' location
  /-- No file is new. -/
  noNew : (∀ step ∈ steps, ¬ step.GivesUp) → HasNoNewFiles tree tree'

/-- Whoever reads the path on the way finds all of the old bytes, or all of the new ones, or nothing
if nothing was there. -/
structure SeesWhole (tree between : FileTree) (p : Path) (bytes : ByteArray) : Prop where
  /-- What could be read still can, or the new bytes can. -/
  kept : ∀ old, tree.read p = .ok old → between.read p = .ok old ∨ between.read p = .ok bytes
  /-- What can be read are the new bytes or those of a file that has been there all the time. -/
  whole : ∀ seen, between.read p = .ok seen → seen = bytes ∨
    ∃ location, between.find true p = .ok (.present location (.file seen)) ∧
      tree.item? location = some (.file seen)

/-! ## Reading on the way -/

/-- What can be read is whole as long as every file is the new one or an old one. -/
theorem exists_old_of_read
    (files : ∀ location seen, between.item? location = some (.file seen) →
      seen = bytes ∨ tree.item? location = some (.file seen))
    (read : between.read p = .ok seen) : seen = bytes ∨
      ∃ location, between.find true p = .ok (.present location (.file seen)) ∧
        tree.item? location = some (.file seen) := by
  obtain ⟨location, found⟩ := read_eq_ok_iff.mp read
  exact (files location seen (item?_of_find found)).imp_right fun old => ⟨location, found, old⟩

/-- While folders are added, a reader sees what was there before. -/
theorem seesWhole_of_addsFolders (adds : AddsFolders tree between) :
    SeesWhole tree between p bytes :=
  ⟨fun _ read => .inl (adds.read read), fun _ => exists_old_of_read fun location seen there =>
    .inr ((adds.sameFiles location seen).mp there)⟩

section Away

variable (differs : DiffersAt (prepare tree p) between own) (isAside : IsAside tree p own)
  (away : ¬ LeadsAside tree p)

include differs isAside away

/-- Where the path does not lead to the temporary file, what it leads to is somewhere else. -/
theorem ne_own_of_find {location : Location}
    (found : between.find true p = .ok (.present location (.file seen))) : location ≠ own := by
  rintro rfl
  have put := differs.symm.trans (differsAt_put differs.isEnd .empty)
  refine away ⟨location, isAside, put.keepsWays.find found ?_ fun _ same => Item.noConfusion same⟩
  exact (item?_put (ne_nil_of_isEnd differs.isEnd) _ _).trans (if_pos rfl)

/-- What can be read stays while only the temporary file differs. -/
theorem read_of_differsAt (read : tree.read p = .ok old) : between.read p = .ok old := by
  obtain ⟨location, found⟩ := read_eq_ok_iff.mp ((addsFolders_prepare tree p).read read)
  have itself : DiffersAt (prepare tree p) (prepare tree p) own :=
    ⟨differs.isEnd, differs.isEnd, rfl, fun _ _ => rfl⟩
  have elsewhere := ne_own_of_find itself isAside away found
  refine differs.keepsWays.read found ?_
  rw [differs.others location elsewhere]
  exact item?_of_find found

/-- While only the temporary file differs, a reader sees what was there before. -/
theorem seesWhole_of_differsAt : SeesWhole tree between p bytes := by
  refine ⟨fun old read => .inl (read_of_differsAt differs isAside away read), fun seen read => ?_⟩
  obtain ⟨location, found⟩ := read_eq_ok_iff.mp read
  have elsewhere := ne_own_of_find differs isAside away found
  have there := item?_of_find found
  rw [Spot.location, differs.others location elsewhere] at there
  exact .inr ⟨location, found, ((addsFolders_prepare tree p).sameFiles location seen).mp there⟩

end Away

/-- Only folders have been made, or the temporary file is all that differs. -/
def StillOld (tree between : FileTree) (p : Path) : Prop :=
  AddsFolders tree between ∨ ∃ own, IsAside tree p own ∧ DiffersAt (prepare tree p) between own

namespace StillOld

variable (stillOld : StillOld tree between p)

include stillOld

/-- Every location but that of the temporary file still has its file. -/
theorem sameFileAt (location : Location) (elsewhere : ¬ IsAside tree p location) :
    SameFileAt tree between location := by
  intro bytes
  rcases stillOld with adds | ⟨own, isAside, differs⟩
  · exact adds.sameFiles location bytes
  · rw [differs.others location fun isOwn => elsewhere (isOwn ▸ isAside)]
    exact (addsFolders_prepare tree p).sameFiles location bytes

/-- What could be read at the path still can, unless it leads to the temporary file. -/
theorem read (away : ¬ LeadsAside tree p) (read : tree.read p = .ok old) :
    between.read p = .ok old := by
  rcases stillOld with adds | ⟨own, isAside, differs⟩
  · exact adds.read read
  · exact read_of_differsAt differs isAside away read

/-- A reader of the path still sees the old bytes whole. -/
theorem seesWhole (away : ¬ LeadsAside tree p) : SeesWhole tree between p bytes := by
  rcases stillOld with adds | ⟨own, isAside, differs⟩
  · exact seesWhole_of_addsFolders adds
  · exact seesWhole_of_differsAt differs isAside away

end StillOld

/-! ## Writing -/

section Write

variable (alone : StandsAloneAside tree p)

include alone

/-- What stands alone stands alone when the folders have been made. -/
theorem standsAlone_prepare (named : p.fileName?.isSome = true) :
    (prepare tree p).StandsAlone (temporary p) := by
  have folders := addsFolders_prepare tree p
  constructor
  · intro location target found
    refine (alone location ⟨named, _, found, rfl⟩).1 target ?_
    have link := item?_of_find found
    rcases folders.items location with same | ⟨-, folder⟩
    · rw [← same]
      exact link
    · rw [Spot.location, folder] at link
      cases link
  · intro location item other found twin
    exact (alone location ⟨named, _, found, rfl⟩).2 other (folders.twins location other twin)

/-- A run without a fault has delivered the bytes. -/
theorem exists_delivered (runs : Script.Runs tree (script p bytes) steps tree' none) :
    ∃ place own, Delivered tree tree' p bytes place own := by
  have named : p.fileName?.isSome = true := by
    rcases script_runs runs with ⟨-, failed⟩ | ⟨-, -, -, -, named, -⟩
    · exact absurd rfl failed
    · exact named
  have alone' := standsAlone_prepare alone named
  obtain ⟨place, own, replaced⟩ := exists_replaced_of_runs alone'.noLink runs
  have sole := sole_of_standsAlone alone' replaced.isAside
  have items := replaced.alone sole
  refine ⟨place, own, ?_⟩
  exact {
    isPlace := replaced.isPlace
    isAside := ⟨named, replaced.isAside⟩
    written := replaced.placed
    gone := by rw [items own replaced.apart, if_pos rfl]
    vacant := replaced.isVacant sole
    others := fun location elsewhere apart bytes => by
      rw [items location elsewhere, if_neg apart]
      exact (addsFolders_prepare tree p).sameFiles location bytes
    read := replaced.read_iff.trans replaced.namesPlace_iff }

/-- On the way only folders have been made, or the temporary file is all that differs, or it is the
end. -/
theorem stillOld_or_last (runs : Script.Runs tree (script p bytes) steps tree' result) :
    ∀ step ∈ steps, StillOld tree step.after p ∨ step.after = tree' := by
  rcases script_runs runs with ⟨adds, -⟩ | ⟨first, last, rfl, adds, named, late⟩
  · exact fun step member => .inl (.inl (adds.steps step member))
  have alone' := standsAlone_prepare alone named
  refine List.forall_mem_append.mpr ⟨fun step member => .inl (.inl (adds.steps step member)), ?_⟩
  intro step member
  rcases replace_runs alone'.noLink late with ⟨-, -, each⟩ | ⟨own, goes⟩
  · rw [each step member]
    exact .inl (.inl (addsFolders_prepare tree p))
  · refine (goes.each step member).imp_left ?_
    rintro ⟨part, beside⟩
    have sole := sole_of_standsAlone alone' goes.leads
    exact .inr ⟨own, ⟨named, goes.leads⟩, beside.differsAt sole⟩

/-- A run that fails has made folders, or the temporary file is all that differs. -/
theorem stillOld_of_failed (runs : Script.Runs tree (script p bytes) steps tree' result)
    (failed : result ≠ none) : StillOld tree tree' p := by
  rcases abandoned_of_runs (fun named => (standsAlone_prepare alone named).noLink) runs failed with
    adds | ⟨named, own, leads, abandoned⟩
  · exact .inl adds
  · have sole := sole_of_standsAlone (standsAlone_prepare alone named) leads
    exact .inr ⟨own, ⟨named, leads⟩, abandoned.differsAt sole⟩

/-- What could be read at the path before can be read there after a write that succeeds. -/
theorem read_of_runs (runs : Script.Runs tree (script p bytes) steps tree' none)
    (read : tree.read p = .ok old) : tree'.read p = .ok bytes := by
  obtain ⟨place, own, delivered⟩ := exists_delivered alone runs
  have prepared := (addsFolders_prepare tree p).read read
  obtain ⟨before, name, ends⟩ := exists_endsIn_of_read delivered.isAside.1 prepared
  obtain ⟨location, found⟩ := read_eq_ok_iff.mp prepared
  exact delivered.read.mpr
    (not_needsOwnLink_of_resolve ends (resolve_eq_ok_iff_find.mpr found) Item.noConfusion)

/-- After a run without a fault a reader sees the new bytes. -/
theorem seesWhole_of_done (runs : Script.Runs tree (script p bytes) steps tree' none) :
    SeesWhole tree tree' p bytes := by
  obtain ⟨place, own, delivered⟩ := exists_delivered alone runs
  refine ⟨fun old read => .inr (read_of_runs alone runs read),
    fun seen => exists_old_of_read fun location seen there => ?_⟩
  by_cases isPlace : location = place
  · rw [isPlace, delivered.written] at there
    cases there
    exact .inl rfl
  · by_cases isOwn : location = own
    · rw [isOwn, delivered.gone] at there
      cases there
    · exact .inr ((delivered.others location isPlace isOwn seen).mp there)

end Write

/-- Where nothing has the temporary name, its own location is the only one aside. -/
theorem isAside_iff_of_absent (named : p.fileName?.isSome = true)
    (absent : (prepare tree p).find false (temporary p) = .ok (.absent own)) {location : Location} :
    IsAside tree p location ↔ location = own := by
  constructor
  · rintro ⟨-, leads⟩
    exact leads.unique ⟨_, absent, rfl⟩
  · rintro rfl
    exact ⟨named, _, absent, rfl⟩

/-- Nothing at the temporary name stands alone. -/
theorem standsAloneAside_of_absent (named : p.fileName?.isSome = true)
    (absent : (prepare tree p).find false (temporary p) = .ok (.absent own)) :
    StandsAloneAside tree p := by
  intro location isAside
  obtain rfl := (isAside_iff_of_absent named absent).mp isAside
  have free : (prepare tree p).item? location = none := item?_of_find absent
  have free' : tree.item? location = none := by
    rcases (addsFolders_prepare tree p).items location with same | ⟨free, -⟩
    · rw [← same, free]
    · exact free
  refine ⟨fun target link => ?_, fun other twin => ?_⟩
  · rw [free'] at link
    cases link
  · rw [isTwin_of_none free'] at twin
    exact eq_of_beq twin

/-- A link with a file behind it. -/
def linkedTree : FileTree where
  items := [([.ofString "l"], .link (.ofString "old")), ([.ofString "old"], .file "x".toUTF8)]

/-- A link that leads to its own folder. -/
def loopTree : FileTree where
  items := [([.ofString "l"], .link (.ofString "."))]

/-- A file with two names, one of them the temporary name of the other or of a third. -/
def twinTree (other : String) : FileTree where
  items := [([.ofString ".r.tmp"], .file "x".toUTF8), ([.ofString other], .file "x".toUTF8)]
  numbers := [([.ofString ".r.tmp"], 1), ([.ofString other], 1)]

/-- A link to a file at its own temporary name. -/
def asideTree : FileTree where
  items := [([.ofString "r"], .link (.ofString ".r.tmp")), ([.ofString ".r.tmp"], .file "x".toUTF8)]

end CatalogAudit.Artifact
