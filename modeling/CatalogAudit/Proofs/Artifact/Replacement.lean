import CatalogAudit.Proofs.Artifact.Temporary

/-!
# Replacing a file

A replacement that succeeds has two places, that of the file and that of the temporary one, which
are never the same. It leaves the ways through the tree as they are, except that a link at the place
is gone. So an artifact that has been written is read at its path, or has taken the place of a link.
A file that can be read can always be replaced, once the temporary file has been written.
-/

namespace CatalogAudit.Artifact

open FileTree CatalogAudit.Path

variable {tree tree' : FileTree} {p aside : Path} {place own : Location} {bytes old : ByteArray}
  {steps : List Step}

/-! ## The path that is written to -/

/-- The temporary name shows the name between a dot and an ending. -/
theorem decode_temporaryName (name : Name) :
    Text.decode (temporaryName name) = '.' :: Text.decode name ++ ".tmp".toList :=
  Text.decode_encode _

/-- The name of the temporary file is longer, as text, than any text of four characters. -/
theorem temporaryName_ne_encode {name : Name} {text : List Char} (short : text.length < 5) :
    temporaryName name ≠ Text.encode text := by
  intro same
  have length := congrArg List.length (Text.encode_injective same)
  rw [List.length_append, List.length_cons] at length
  have ending : ".tmp".toList.length = 4 := rfl
  omega

/-- The temporary name of a file is a name. -/
theorem isName_temporaryName {name : Name} (isName : IsName name) :
    IsName (temporaryName name) where
  slashless := by
    intro member
    have inside : '/' ∈ '.' :: Text.decode name ++ ".tmp".toList :=
      (Text.mem_encode_iff rfl).mp member
    have read : '/' ∈ Text.decode name := by simpa using inside
    exact isName.slashless (Text.mem_of_mem_decode rfl read)
  solid := by
    have filled : temporaryName name ≠ [] := @temporaryName_ne_encode name [] (by decide)
    have noDot : temporaryName name ≠ [dot] :=
      @temporaryName_ne_encode name ['.'] (by decide)
    simp [isIdle, filled, noDot]
  notUp := @temporaryName_ne_encode name ['.', '.'] (by decide)

/-- The temporary name is longer than the name, so it is another one. -/
theorem temporaryName_ne (name : Name) : temporaryName name ≠ name := by
  intro same
  have length := congrArg (fun name => (Text.decode name).length) same
  rw [decode_temporaryName, List.length_append, List.length_cons] at length
  have ending : ".tmp".toList.length = 4 := rfl
  omega

/-- The temporary file has a name of its own. -/
theorem exists_endsIn_temporary {name : Name} (named : p.fileName? = some name) :
    ∃ before, (temporary p).EndsIn before (temporaryName name) := by
  obtain ⟨parent, -, beside⟩ := exists_parent_of_fileName? named
  refine ⟨parent.names, ?_⟩
  rw [temporary, named, Option.getD_some, beside]
  exact endsIn_join (isName_temporaryName (isName_of_fileName? named))

/-- A path that can be read and names a file ends in a name. -/
theorem exists_endsIn_of_read (named : p.fileName?.isSome = true) (read : tree.read p = .ok old) :
    ∃ before name, p.EndsIn before name := by
  obtain ⟨location, found⟩ := read_eq_ok_iff.mp read
  obtain ⟨⟨filled, -⟩, ⟨left, route⟩, file⟩ :=
    resolve_eq_ok_iff.mp (resolve_eq_ok_iff_find.mpr found)
  rcases List.eq_nil_or_concat' p.namesToFolder with none | ⟨before, name, names⟩
  · exfalso
    unfold namesToFolder at none
    split at none
    · exact List.append_ne_nil_of_right_ne_nil _ (List.cons_ne_nil _ _) none
    · rename_i noSlash
      exact names_ne_nil filled (Bool.eq_false_iff.mpr noSlash) none
  · refine ⟨before, name, names, ?_, ?_⟩
    · rintro rfl
      rw [names] at route
      obtain ⟨between, middle, -, last⟩ := route.split
      -- A dot would stand behind a folder.
      cases last with
      | dot folder more =>
        cases more
        rw [folder] at file
        cases file
      | down _ looked => exact looked.1 rfl
      | link _ looked => exact looked.1 rfl
    · rintro rfl
      rw [fileName?_of_up names] at named
      cases named

/-! ## Replacing -/

/-- The file has been put in its place, and the temporary one is gone unless it has other names. -/
structure Replaced (tree tree' : FileTree) (p aside : Path) (bytes : ByteArray)
    (place own : Location) : Prop where
  /-- The path ends in a name. -/
  ends : ∃ before name, p.EndsIn before name
  /-- The temporary path ends in a name. -/
  endsAside : ∃ before name, aside.EndsIn before name
  /-- Where the path leads, no link followed at the end. -/
  isPlace : tree.NamesPlace p place
  /-- Where the temporary path leads. -/
  isAside : tree.NamesPlace aside own
  /-- No folder is replaced. -/
  noFolder : tree.item? place ≠ some .folder
  /-- The temporary file stands in no way. -/
  isEnd : tree.IsEnd own
  /-- There are two places. -/
  apart : own ≠ place
  /-- Relative paths begin at the same place. -/
  home : tree'.home = tree.home
  /-- The file is there. -/
  placed : tree'.item? place = some (.file bytes)
  /-- Everything else that makes a way is as before. -/
  others : ∀ location, location ≠ place →
    tree'.item? location = tree.item? location ∨ tree.IsEnd location ∧ tree'.IsEnd location
  /-- If what stood at the temporary name had no other name, nothing stands there, and everything
  else is as before. -/
  alone : (∀ other, tree.isTwin own other = true → other = own) → ∀ location, location ≠ place →
    tree'.item? location = if location = own then none else tree.item? location

/-- The two places are different, because the last names are. -/
theorem places_apart {before before' : List Name} {name name' : Name}
    (endsAside : aside.EndsIn before name) (ends : p.EndsIn before' name')
    (isAside : tree.NamesPlace aside own) (isPlace : tree.NamesPlace p place)
    (different : name' ≠ name) : own ≠ place := by
  obtain ⟨-, -, folder, -, same⟩ := (namesPlace_iff endsAside).mp isAside
  obtain ⟨-, -, folder', -, same'⟩ := (namesPlace_iff ends).mp isPlace
  rw [same, same']
  intro together
  exact different (List.cons.inj (List.append_inj_right' together rfl)).1.symm

namespace Placed

variable {spot : Spot} (placed : Placed tree p own bytes spot tree')

include placed

/-- The temporary file stood in no way. -/
theorem isEnd : tree.IsEnd own := by
  cases placed with
  | carried beside => exact beside.isEnd
  | same beside => exact beside.isEnd

/-- Relative paths begin at the same place. -/
theorem home : tree'.home = tree.home := by
  cases placed with
  | carried beside => exact beside.home
  | same beside => exact beside.home

/-- The path led to the spot from the beginning. -/
theorem namesPlace {before : List Name} {name : Name} (ends : p.EndsIn before name) :
    tree.NamesPlace p spot.location := by
  cases placed with
  | carried beside found => exact .keep ends beside.keepsWays_back ⟨spot, found, rfl⟩
  | same beside found => exact .keep ends beside.keepsWays_back ⟨spot, found, rfl⟩

/-- No folder has been replaced. -/
theorem noFolder : tree.item? spot.location ≠ some .folder := by
  cases placed with
  | carried beside found noFolder =>
    intro folder
    have kept := beside.keepsWays.folder _ folder
    rw [item?_of_find found] at kept
    exact noFolder kept
  | same beside found twin => exact (isEnd_of_isTwin beside.isEnd twin).1

/-- The file is there. -/
theorem item?_place : tree'.item? spot.location = some (.file bytes) := by
  cases placed with
  | carried beside found noFolder =>
    rw [beside.item?_carry (location_ne_nil found noFolder), if_pos rfl]
  | same beside found twin => rw [beside.items, if_pos twin]

/-- Everything else that makes a way is as before. -/
theorem others {location : Location} (elsewhere : location ≠ spot.location) :
    tree'.item? location = tree.item? location ∨ tree.IsEnd location ∧ tree'.IsEnd location := by
  cases placed with
  | carried beside found noFolder =>
    have items := (beside.item?_carry (location_ne_nil found noFolder) location).trans
      (if_neg elsewhere)
    rw [items, IsEnd, IsEnd, items]
    split
    · rename_i isOwn
      exact .inr ⟨isOwn ▸ beside.isEnd, nofun, nofun⟩
    · split
      · rename_i twin
        exact .inr ⟨isEnd_of_isTwin beside.isEnd twin, nofun, nofun⟩
      · exact .inl rfl
  | same beside found twin =>
    rw [beside.items]
    split
    · rename_i twin'
      have file := (beside.items location).trans (if_pos twin')
      exact .inr ⟨isEnd_of_isTwin beside.isEnd twin', isEnd_of_file file⟩
    · exact .inl rfl

/-- A temporary file without other names is gone, and everything else is as before. -/
theorem alone (apart : own ≠ spot.location)
    (sole : ∀ other, tree.isTwin own other = true → other = own) {location : Location}
    (elsewhere : location ≠ spot.location) :
    tree'.item? location = if location = own then none else tree.item? location := by
  cases placed with
  | carried beside found noFolder =>
    rw [beside.item?_carry (location_ne_nil found noFolder), if_neg elsewhere]
    split
    · rfl
    · rename_i notOwn
      rw [if_neg fun twin => notOwn (sole location twin)]
  | same beside found twin => exact absurd (sole _ twin).symm apart

/-- A file placed by a path that ends in its name replaced what was at the end of that path. -/
theorem replaced {before : List Name} {name : Name} (ends : ∃ before name, p.EndsIn before name)
    (endsAside : aside.EndsIn before name) (isAside : tree.NamesPlace aside own)
    (different : p.fileName? ≠ some name) :
    Replaced tree tree' p aside bytes spot.location own := by
  obtain ⟨before', name', ends⟩ := ends
  have isPlace := placed.namesPlace ends
  have apart : own ≠ spot.location :=
    places_apart endsAside ends isAside isPlace fun same => different (same ▸ ends.fileName?)
  exact {
    ends := ⟨_, _, ends⟩
    endsAside := ⟨_, _, endsAside⟩
    isPlace := isPlace
    isAside := isAside
    noFolder := placed.noFolder
    isEnd := placed.isEnd
    apart := apart
    home := placed.home
    placed := placed.item?_place
    others := fun _ => placed.others
    alone := fun sole _ => placed.alone apart sole }

end Placed

namespace Replaced

variable (replaced : Replaced tree tree' p aside bytes place own)

include replaced

/-- The place of the temporary file is below the root. -/
theorem below : place ≠ [] := by
  intro top
  have noFolder := replaced.noFolder
  rw [top, item?_nil] at noFolder
  exact noFolder rfl

/-- A folder or link that is there stood there before. -/
theorem onWay {location : Location} {item : Item} (found : tree'.item? location = some item)
    (noFile : ∀ bytes, item ≠ .file bytes) :
    location ≠ place ∧ tree.item? location = some item := by
  have elsewhere : location ≠ place := by
    rintro rfl
    rw [replaced.placed] at found
    exact noFile bytes (Option.some.inj found).symm
  refine ⟨elsewhere, ?_⟩
  rcases replaced.others location elsewhere with same | ⟨-, isEnd⟩
  · rw [← same, found]
  · cases item with
    | file bytes => exact absurd rfl (noFile bytes)
    | folder => exact absurd found isEnd.1
    | link target => exact absurd found (isEnd.2 target)

/-- Every way in the tree that follows is one in the tree before. -/
theorem keepsWays : KeepsWays tree' tree where
  home := replaced.home.symm
  folder _ found := (replaced.onWay found fun _ => Item.noConfusion).2
  link _ _ found := (replaced.onWay found fun _ => Item.noConfusion).2

/-- After the place was erased nothing is there, and all else is as it was. -/
theorem item?_erase_place (location : Location) :
    (tree.erase place).item? location = if location = place then none else tree.item? location :=
  item?_erase replaced.below location

/-- The ways are those that there are without what stood at the place. -/
theorem keepsWays_erase : KeepsWays tree' (tree.erase place) where
  home := replaced.home.symm
  folder location found := by
    obtain ⟨elsewhere, stood⟩ := replaced.onWay found fun _ => Item.noConfusion
    rw [replaced.item?_erase_place, if_neg elsewhere, stood]
  link location target found := by
    obtain ⟨elsewhere, stood⟩ := replaced.onWay found fun _ => Item.noConfusion
    rw [replaced.item?_erase_place, if_neg elsewhere, stood]

/-- Without what stood at the place, ways lead where they will lead. -/
theorem keepsWays_of_erase : KeepsWays (tree.erase place) tree' := by
  refine keepsWays_of_isEnd replaced.home fun location => ?_
  rw [IsEnd, replaced.item?_erase_place]
  by_cases there : location = place
  · rw [if_pos there]
    exact .inr ⟨nofun, fun _ => nofun⟩
  · rw [if_neg there]
    exact (replaced.others location there).imp_right And.left

/-- The path still leads to its place unless it needed a link that stood there. -/
theorem namesPlace_iff : tree'.NamesPlace p place ↔ ¬ tree.NeedsOwnLink p := by
  obtain ⟨before, name, ends⟩ := replaced.ends
  constructor
  · rintro leads ⟨place', target, found, lost⟩
    obtain rfl := replaced.isPlace.unique ⟨_, found, rfl⟩
    exact lost (leads.keep ends replaced.keepsWays_erase)
  · intro free
    refine NamesPlace.keep ends replaced.keepsWays_of_erase ?_
    by_contra lost
    by_cases link : ∃ target, tree.item? place = some (.link target)
    · obtain ⟨target, link⟩ := link
      exact free ⟨place, target, replaced.isPlace.find ends link, lost⟩
    · have keeps : KeepsWays tree (tree.erase place) := by
        refine keepsWays_of_isEnd rfl fun location => ?_
        rw [replaced.item?_erase_place]
        split
        · rename_i there
          rw [there]
          exact .inr ⟨replaced.noFolder, fun target found => link ⟨target, found⟩⟩
        · exact .inl rfl
      exact lost (replaced.isPlace.keep ends keeps)

/-- What has been written is read at its path just when the path still leads there. -/
theorem read_iff : tree'.read p = .ok bytes ↔ tree'.NamesPlace p place := by
  obtain ⟨before, name, ends⟩ := replaced.ends
  have there := replaced.placed
  constructor
  · intro read
    obtain ⟨location, found⟩ := read_eq_ok_iff.mp read
    have leads : ∃ location, tree'.NamesPlace p location := by
      rcases find_false found with same | ⟨link, target, same⟩
      · exact ⟨_, _, same, rfl⟩
      · exact ⟨_, _, same, rfl⟩
    obtain ⟨location, leads⟩ := leads
    rwa [← replaced.isPlace.unique (leads.keep ends replaced.keepsWays)] at leads
  · intro leads
    have found : tree'.find false p = .ok (.present place (.file bytes)) := leads.find ends there
    exact read_eq_ok_iff.mpr
      ⟨place, find_true found fun target link => Item.noConfusion (Option.some.inj link)⟩

/-- What stood there does not matter unless it was a link. -/
theorem read_of_hasNoLink (noLink : tree.HasNoLink p) : tree'.read p = .ok bytes := by
  rw [replaced.read_iff, replaced.namesPlace_iff]
  rintro ⟨location, target, found, -⟩
  exact noLink location target found

/-- Nothing is left at the temporary name, if what stood there had no other name. -/
theorem isVacant (sole : ∀ other, tree.isTwin own other = true → other = own) :
    tree'.IsVacant aside := by
  intro location item found
  obtain ⟨before, name, endsAside⟩ := replaced.endsAside
  have leads : tree.NamesPlace aside location :=
    NamesPlace.keep endsAside replaced.keepsWays ⟨_, found, rfl⟩
  have stands := item?_of_find found
  rw [Spot.location, ← replaced.isAside.unique leads,
    replaced.alone sole own replaced.apart, if_pos rfl] at stands
  cases stands

end Replaced

/-! ## Writing -/

/-- A course of a write that succeeds is a replacement in the prepared tree. -/
theorem exists_replaced_of_runs (noLink : (prepare tree p).HasNoLink (temporary p))
    (runs : Script.Runs tree (script p bytes) steps tree' none) :
    ∃ place own, Replaced (prepare tree p) tree' p (temporary p) bytes place own := by
  rcases script_runs runs with ⟨-, failed⟩ | ⟨first, last, rfl, -, named, late⟩
  · exact absurd rfl failed
  rcases replace_runs noLink late with ⟨-, failed, -⟩ | ⟨own, goes⟩
  · exact absurd rfl failed
  obtain ⟨ends, spot, placed⟩ := goes.placed rfl
  obtain ⟨name, name_eq⟩ := Option.isSome_iff_exists.mp named
  obtain ⟨before, endsAside⟩ := exists_endsIn_temporary name_eq
  refine ⟨spot.location, own, placed.replaced ends endsAside goes.leads ?_⟩
  rw [name_eq]
  exact fun same => temporaryName_ne name (Option.some.inj same).symm

/-- A write that succeeds is a replacement in the prepared tree. -/
theorem exists_replaced_of_write (noLink : (prepare tree p).HasNoLink (temporary p))
    (done : write tree p bytes = (tree', none)) :
    ∃ place own, Replaced (prepare tree p) tree' p (temporary p) bytes place own := by
  obtain ⟨steps, runs, -⟩ := exists_runs_write tree p bytes
  rw [done] at runs
  exact exists_replaced_of_runs noLink runs

/-- An artifact that has been written arrives, as long as no link stands at the temporary name. -/
theorem arrives_of_write (noLink : (prepare tree p).HasNoLink (temporary p))
    (done : write tree p bytes = (tree', none)) : Arrives tree tree' p bytes := by
  obtain ⟨place, own, replaced⟩ := exists_replaced_of_write noLink done
  refine ⟨replaced.read_of_hasNoLink, fun location target found => ?_⟩
  obtain rfl : location = place := NamesPlace.unique ⟨_, found, rfl⟩ replaced.isPlace
  exact replaced.placed

/-- At the end of a vacant path there is nothing. -/
theorem item?_of_vacant (vacant : tree.IsVacant aside) (leads : tree.NamesPlace aside own) :
    tree.item? own = none := by
  obtain ⟨spot, found, rfl⟩ := leads
  rw [item?_of_find found]
  cases spot with
  | present location item => exact absurd found (vacant location item)
  | absent => rfl

/-- What stands alone at a path has no other name. -/
theorem sole_of_standsAlone (alone : tree.StandsAlone aside) (leads : tree.NamesPlace aside own) :
    ∀ other, tree.isTwin own other = true → other = own := by
  intro other twin
  obtain ⟨spot, found, rfl⟩ := leads
  cases spot with
  | present location item => exact alone.sole location item other found twin
  | absent location =>
    have free : tree.item? location = none := item?_of_find found
    rw [Spot.location, isTwin_of_none free] at twin
    exact eq_of_beq twin

/-- A write leaves all files as they were just when the very artifact was there already, if nothing
stands at the temporary name. -/
theorem sameFiles_of_write_iff (vacant : (prepare tree p).IsVacant (temporary p))
    (done : write tree p bytes = (tree', none)) :
    SameFiles tree tree' ↔ IsThere tree p bytes := by
  have folders := (addsFolders_prepare tree p).sameFiles
  obtain ⟨place, own, replaced⟩ := exists_replaced_of_write vacant.standsAlone.noLink done
  have items := replaced.alone (sole_of_standsAlone vacant.standsAlone replaced.isAside)
  obtain ⟨before, name, ends⟩ := replaced.ends
  constructor
  · intro same
    have there : (prepare tree p).item? place = some (.file bytes) := by
      rw [folders, ← same, replaced.placed]
    exact ⟨place, replaced.isPlace.find ends there⟩
  · rintro ⟨location, found⟩
    obtain rfl := replaced.isPlace.unique ⟨_, found, rfl⟩
    have free : (prepare tree p).item? own = none := item?_of_vacant vacant replaced.isAside
    refine folders.trans (.of_item? fun other => ?_)
    by_cases same : other = place
    · rw [same, replaced.placed]
      exact (item?_of_find found).symm
    · rw [items other same]
      split
      · rename_i isOwn
        rw [isOwn, free]
      · rfl

/-! ## Failing to write -/

/-- A course of a write that fails has only made folders, or has given up the replacement in the
prepared tree. -/
theorem abandoned_of_runs {result : Option Fault}
    (noLink : p.fileName?.isSome = true → (prepare tree p).HasNoLink (temporary p))
    (runs : Script.Runs tree (script p bytes) steps tree' result) (failed : result ≠ none) :
    AddsFolders tree tree' ∨ p.fileName?.isSome = true ∧
      ∃ own, (prepare tree p).NamesPlace (temporary p) own ∧
        Abandoned (prepare tree p) own steps tree' := by
  rcases script_runs runs with ⟨adds, -⟩ | ⟨first, last, rfl, -, named, late⟩
  · exact .inl adds.last
  rcases replace_runs (noLink named) late with ⟨rfl, -, -⟩ | ⟨own, goes⟩
  · exact .inl (addsFolders_prepare tree p)
  · refine .inr ⟨named, own, goes.leads, (goes.abandoned failed).mono fun step member => ?_⟩
    exact List.mem_append_right first member

/-- A write that fails makes and changes no file, unless the system gives up, if what stands at the
temporary name stands alone. -/
theorem hasNoNewFiles_of_runs {result : Option Fault}
    (alone : p.fileName?.isSome = true → (prepare tree p).StandsAlone (temporary p))
    (runs : Script.Runs tree (script p bytes) steps tree' result) (failed : result ≠ none)
    (noneGivesUp : ∀ step ∈ steps, ¬ step.GivesUp) : HasNoNewFiles tree tree' := by
  rcases abandoned_of_runs (fun named => (alone named).noLink) runs failed with
    adds | ⟨named, own, leads, abandoned⟩
  · exact adds.sameFiles.hasNoNewFiles
  · intro location bytes there
    have differs := abandoned.differsAt (sole_of_standsAlone (alone named) leads)
    by_cases isOwn : location = own
    · rw [isOwn, abandoned.item?_own noneGivesUp] at there
      cases there
    · rw [differs.others location isOwn] at there
      exact ((addsFolders_prepare tree p).sameFiles location bytes).mp there

/-- A write that fails because the tree forbids it makes and changes no file. -/
theorem hasNoNewFiles_of_write_error {fault : Fault}
    (alone : (prepare tree p).StandsAlone (temporary p))
    (failed : write tree p bytes = (tree', some fault)) : HasNoNewFiles tree tree' := by
  obtain ⟨steps, runs, works⟩ := exists_runs_write tree p bytes
  rw [failed] at runs
  exact hasNoNewFiles_of_runs (fun _ => alone) runs nofun fun step member stops =>
    stops.1 (works step member)

/-- A write that fails leaves all files as they were, if nothing stands at the temporary name. -/
theorem sameFiles_of_write_error {fault : Fault}
    (vacant : (prepare tree p).IsVacant (temporary p))
    (failed : write tree p bytes = (tree', some fault)) : SameFiles tree tree' := by
  have alone := vacant.standsAlone
  obtain ⟨steps, runs, works⟩ := exists_runs_write tree p bytes
  rw [failed] at runs
  rcases abandoned_of_runs (fun _ => alone.noLink) runs nofun with
    adds | ⟨-, own, leads, abandoned⟩
  · exact adds.sameFiles
  · have differs := abandoned.differsAt (sole_of_standsAlone alone leads)
    refine (addsFolders_prepare tree p).sameFiles.trans (.of_item? fun location => ?_)
    by_cases isOwn : location = own
    · rw [isOwn, item?_of_vacant vacant leads,
        abandoned.item?_own fun step member stops => stops.1 (works step member)]
    · exact differs.others location isOwn

end CatalogAudit.Artifact
