import CatalogAudit.FileTree.Change
import CatalogAudit.Proofs.FileTree.Finding

/-!
# What changes do to a file tree

Every change is told by what stands at each location afterwards. Making folders changes no file,
however far it comes. Writing, moving and removing change what stands where the paths lead, and
nothing else.
-/

namespace CatalogAudit.FileTree

variable {tree tree' tree'' : FileTree} {location other : Location} {p source : Path}
  {bytes : ByteArray}

/-! ## Files with several names -/

/-- There is a file at a location when its bytes are there. -/
theorem hasFile_iff : tree.hasFile location = true ↔
    ∃ bytes, tree.item? location = some (.file bytes) := by
  unfold hasFile
  constructor
  · intro isFile
    obtain ⟨item, found, file⟩ := (Option.any_eq_true _ _).mp isFile
    cases item with
    | file bytes => exact ⟨bytes, found⟩
    | link | folder => contradiction
  · rintro ⟨bytes, found⟩
    rw [found]
    rfl

/-- Every location is a name of what stands there. -/
theorem isTwin_self (tree : FileTree) (location : Location) :
    tree.isTwin location location = true := by
  rw [isTwin, beq_self_eq_true, Bool.true_or]

/-- Other names are names of a file. -/
theorem hasFile_of_isTwin (twin : tree.isTwin location other = true) (apart : other ≠ location) :
    tree.hasFile location = true ∧ tree.hasFile other = true := by
  rw [isTwin, beq_false_of_ne apart, Bool.false_or, Bool.and_eq_true, Bool.and_eq_true,
    Bool.and_eq_true] at twin
  exact twin.1.1

/-- Where nothing stands, nothing has other names. -/
theorem isTwin_of_none (free : tree.item? location = none) (other : Location) :
    tree.isTwin location other = (other == location) := by
  have noFile : tree.hasFile location = false := by
    unfold hasFile
    rw [free]
    rfl
  rw [isTwin, noFile, Bool.false_and, Bool.false_and, Bool.false_and, Bool.or_false]

/-- All names of a file lead to a file. -/
theorem exists_file_of_isTwin {old : ByteArray} (file : tree.item? location = some (.file old))
    (twin : tree.isTwin location other = true) : ∃ own, tree.item? other = some (.file own) := by
  by_cases same : other = location
  · exact ⟨old, same ▸ file⟩
  · exact hasFile_iff.mp (hasFile_of_isTwin twin same).2

/-! ## Items -/

/-- After something was put at a location, it is there, and all else is as it was. -/
theorem item?_put (below : location ≠ []) (item : Item) (other : Location) :
    (tree.put location item).item? other =
      if other = location then some item else tree.item? other := by
  by_cases top : other = []
  · subst top
    rw [if_neg (Ne.symm below)]
    rfl
  · rw [item?_of_ne_nil top, item?_of_ne_nil top, put, List.lookup_append,
      lookup_filter (· != location), List.lookup_cons, List.lookup_nil]
    by_cases same : other = location
    · simp [same]
    · have apart : (other == location) = false := beq_false_of_ne same
      simp [same, apart, bne]

/-- After a location was erased, nothing is there, and all else is as it was. -/
theorem item?_erase (below : location ≠ []) (other : Location) :
    (tree.erase location).item? other =
      if other = location then none else tree.item? other := by
  by_cases top : other = []
  · subst top
    rw [if_neg (Ne.symm below)]
    rfl
  · rw [item?_of_ne_nil top, item?_of_ne_nil top, erase, lookup_filter (· != location)]
    by_cases same : other = location
    · simp [same]
    · simp [same]

/-- Values that are changed in the place of their entries are found under the same keys. -/
theorem lookup_map_snd {α β : Type} (f : Location → α → β) (entries : List (Location × α))
    (key : Location) :
    (entries.map fun entry => (entry.1, f entry.1 entry.2)).lookup key =
      (entries.lookup key).map (f key) := by
  induction entries with
  | nil => rfl
  | cons entry entries ih =>
    obtain ⟨own, value⟩ := entry
    rw [List.map_cons, List.lookup_cons, List.lookup_cons]
    cases same : key == own with
    | true =>
      rw [eq_of_beq same]
      rfl
    | false => exact ih

/-- A file is filled under all its names, and nothing else is. -/
theorem item?_fill {old : ByteArray} (file : tree.item? location = some (.file old))
    (bytes : ByteArray) (other : Location) :
    (tree.fill location bytes).item? other =
      if tree.isTwin location other then some (.file bytes) else tree.item? other := by
  by_cases top : other = []
  · subst top
    rw [if_neg]
    · rfl
    · intro twin
      obtain ⟨_, found⟩ := exists_file_of_isTwin file twin
      cases found
  · let filled (place : Location) (item : Item) : Item :=
      if tree.isTwin location place then item.withBytes bytes else item
    have mapped : (tree.fill location bytes).item? other =
        (tree.item? other).map (filled other) := by
      rw [item?_of_ne_nil top, item?_of_ne_nil top]
      exact lookup_map_snd filled tree.items other
    rw [mapped]
    by_cases twin : tree.isTwin location other = true
    · obtain ⟨_, found⟩ := exists_file_of_isTwin file twin
      rw [if_pos twin, found, Option.map_some]
      exact congrArg some (if_pos twin)
    · rw [if_neg twin]
      cases tree.item? other with
      | none => rfl
      | some item => exact congrArg some (if_neg twin)

/-- What is carried away is gone from its old location. -/
theorem item?_carry {origin : Location} (below : origin ≠ []) (below' : location ≠ []) (item : Item)
    (other : Location) :
    (tree.carry origin location item).item? other =
      if other = location then some item
      else if other = origin then none else tree.item? other := by
  change ((tree.erase origin).put location item).item? other = _
  rw [item?_put below', item?_erase below]

/-- What is put somewhere has no other name. -/
theorem isTwin_put {item : Item} (other : Location) :
    (tree.put location item).isTwin location other = (other == location) := by
  have unnumbered : (tree.put location item).numbers.lookup location = none := by
    change (tree.numbers.filter fun entry => entry.1 != location).lookup location = none
    rw [lookup_filter (· != location), bne_self_eq_false, if_neg Bool.false_ne_true]
  rw [isTwin, unnumbered, Option.isSome_none, Bool.and_false, Bool.false_and, Bool.or_false]

/-- Filling a file makes no file and takes none away. -/
theorem hasFile_fill {old : ByteArray} (file : tree.item? location = some (.file old))
    (bytes : ByteArray) (other : Location) :
    (tree.fill location bytes).hasFile other = tree.hasFile other := by
  unfold hasFile
  rw [item?_fill file]
  split
  · rename_i twin
    obtain ⟨_, found⟩ := exists_file_of_isTwin file twin
    rw [found]
    rfl
  · rfl

/-- Filling a file leaves it the names that it has. -/
theorem isTwin_fill {old : ByteArray} (file : tree.item? location = some (.file old))
    (bytes : ByteArray) (other : Location) :
    (tree.fill location bytes).isTwin location other = tree.isTwin location other := by
  rw [isTwin, hasFile_fill file, hasFile_fill file]
  rfl

/-! ## Files -/

/-- Two trees have the same files at the same locations. -/
def SameFiles (tree tree' : FileTree) : Prop :=
  ∀ location bytes,
    tree'.item? location = some (.file bytes) ↔ tree.item? location = some (.file bytes)

/-- A tree has its own files. -/
theorem SameFiles.refl (tree : FileTree) : SameFiles tree tree := fun _ _ => Iff.rfl

/-- The same files twice are the same files. -/
theorem SameFiles.trans (same : SameFiles tree tree') (same' : SameFiles tree' tree'') :
    SameFiles tree tree'' := fun location bytes =>
  (same' location bytes).trans (same location bytes)

/-- Having the same files goes both ways. -/
theorem SameFiles.symm (same : SameFiles tree tree') : SameFiles tree' tree :=
  fun location bytes => (same location bytes).symm

/-- Trees with the same items have the same files. -/
theorem SameFiles.of_item? (same : ∀ location, tree'.item? location = tree.item? location) :
    SameFiles tree tree' := fun location bytes => by rw [same location]

/-! ## Making folders -/

/-- A tree has more folders than another one, where nothing stood. -/
structure AddsFolders (tree tree' : FileTree) : Prop where
  /-- Relative paths begin at the same place. -/
  home : tree'.home = tree.home
  /-- Everything else is as before. -/
  items : ∀ location, tree'.item? location = tree.item? location ∨
    tree.item? location = none ∧ tree'.item? location = some .folder
  /-- No file has a new name. -/
  twins : ∀ location other, tree'.isTwin location other = true → tree.isTwin location other = true

namespace AddsFolders

/-- A tree adds no folder to itself. -/
theorem refl (tree : FileTree) : AddsFolders tree tree := ⟨rfl, fun _ => .inl rfl, fun _ _ => id⟩

/-- Folders added twice are folders added. -/
theorem trans (adds : AddsFolders tree tree') (adds' : AddsFolders tree' tree'') :
    AddsFolders tree tree'' := by
  refine ⟨adds'.home.trans adds.home, fun location => ?_, fun location other twin =>
    adds.twins location other (adds'.twins location other twin)⟩
  rcases adds.items location with same | ⟨free, folder⟩
  · rcases adds'.items location with same' | ⟨free', folder'⟩
    · exact .inl (same'.trans same)
    · exact .inr ⟨same.symm.trans free', folder'⟩
  · rcases adds'.items location with same' | ⟨free', folder'⟩
    · exact .inr ⟨free, same'.trans folder⟩
    · exact .inr ⟨free, folder'⟩

/-- Added folders leave the files alone. -/
theorem sameFiles (adds : AddsFolders tree tree') : SameFiles tree tree' := by
  intro location bytes
  rcases adds.items location with same | ⟨free, folder⟩
  · rw [same]
  · rw [free, folder]
    exact ⟨nofun, nofun⟩

end AddsFolders

/-- Where no file is put, no file has a new name. -/
theorem isTwin_of_isTwin_put {item : Item} {own : Location} (below : location ≠ [])
    (noFile : item.isFile = false) (twin : (tree.put location item).isTwin own other = true) :
    tree.isTwin own other = true := by
  by_cases same : other = own
  · rw [same]
    exact isTwin_self tree own
  · -- Both are files, so they are not what has been put there.
    have there : ∀ {place}, (tree.put location item).hasFile place = true →
        place ≠ location ∧ tree.hasFile place = true := by
      intro place file
      obtain ⟨bytes, found⟩ := hasFile_iff.mp file
      rw [item?_put below] at found
      split at found
      · rw [Option.some_inj.mp found] at noFile
        contradiction
      · rename_i elsewhere
        exact ⟨elsewhere, hasFile_iff.mpr ⟨bytes, found⟩⟩
    have numbers : ∀ {place}, place ≠ location →
        (tree.put location item).numbers.lookup place = tree.numbers.lookup place := by
      intro place elsewhere
      change (tree.numbers.filter fun entry => entry.1 != location).lookup place = _
      rw [lookup_filter (· != location), if_pos (bne_iff_ne.mpr elsewhere)]
    obtain ⟨file, file'⟩ := hasFile_of_isTwin twin same
    rw [isTwin, file, file', numbers (there file).1, numbers (there file').1] at twin
    rw [isTwin, (there file).2, (there file').2]
    exact twin

/-- A folder put where nothing was is a folder added. -/
theorem addsFolders_put (free : tree.item? location = none) :
    AddsFolders tree (tree.put location .folder) := by
  have below : location ≠ [] := by
    rintro rfl
    rw [item?_nil] at free
    contradiction
  refine ⟨rfl, fun other => ?_, fun own other => isTwin_of_isTwin_put below rfl⟩
  rw [item?_put below]
  split
  · rename_i same
    rw [same]
    exact .inr ⟨free, rfl⟩
  · exact .inl rfl

/-- To make a folder adds folders at most. -/
theorem addsFolders_of_makeFolder (made : tree.makeFolder p = .ok tree') :
    AddsFolders tree tree' := by
  unfold makeFolder at made
  split at made
  · contradiction
  · contradiction
  · rename_i location found
    cases made
    exact addsFolders_put (findNames_eq_ok_iff.mp found).2.item?_location

/-! ## Opening, moving and removing -/

/-- What is not a folder does not stand at the top. -/
theorem location_ne_nil {followLast : Bool} {spot : Spot}
    (found : tree.find followLast p = .ok spot)
    (noFolder : spot.item? ≠ some .folder) : spot.location ≠ [] := by
  intro top
  rw [← item?_of_find found, top, item?_nil] at noFolder
  exact noFolder rfl

/-- Opening makes a file where the path leads, the last step followed, or empties the one there. -/
theorem create_cases (opened : tree.create p = .ok tree') :
    (∃ location, tree.find true p = .ok (.absent location) ∧
      tree' = tree.put location (.file .empty)) ∨
    ∃ location item, tree.find true p = .ok (.present location item) ∧ item ≠ .folder ∧
      tree' = tree.fill location .empty := by
  unfold create at opened
  split at opened
  · contradiction
  · split at opened
    · contradiction
    · contradiction
    · rename_i location item noFolder found
      cases opened
      exact .inr ⟨location, item, found, noFolder, rfl⟩
    · rename_i location found
      cases opened
      exact .inl ⟨location, found, rfl⟩

/-- What the path names itself is removed, unless it is a folder. -/
theorem remove_of_find {item : Item} (found : tree.find false p = .ok (.present location item))
    (noFolder : item ≠ .folder) : tree.remove p = .ok (tree.erase location) := by
  unfold remove
  rw [found]
  cases item with
  | folder => exact absurd rfl noFolder
  | file => rfl
  | link => rfl

/-- What a path names can be replaced only if the path does not end in a dot. -/
theorem findNames_of_target {spot : Spot} (found : tree.target p = .ok spot) :
    tree.findNames false p p.names = .ok spot := by
  unfold target at found
  dsimp only at found
  split at found
  · split at found <;> contradiction
  · exact found

/-- Moving takes what the one path names to the place that the other one names, unless a name of the
same file is there. -/
theorem move_cases {origin : Location} {item : Item}
    (found : tree.find false source = .ok (.present origin item))
    (moved : tree.move source p = .ok tree') :
    ∃ spot, tree.target p = .ok spot ∧ p.endsInSlash = false ∧ tree.find false p = .ok spot ∧
      spot.item? ≠ some .folder ∧
      (tree' = tree.carry origin spot.location item ∨
        tree' = tree ∧ tree.isTwin origin spot.location = true) := by
  unfold move at moved
  rw [found] at moved
  split at moved
  · contradiction
  · contradiction
  · contradiction
  · rename_i place own noFolder same
    cases same
    split at moved
    · contradiction
    · rename_i spot aimed
      split at moved
      · contradiction
      · rename_i slash
        have noSlash : p.endsInSlash = false := Bool.eq_false_iff.mpr slash
        have names : p.namesToFolder = p.names := if_neg slash
        have there : tree.find false p = .ok spot := by
          rw [find, names, findNames_of_target aimed]
        refine ⟨spot, aimed, noSlash, there, ?_⟩
        split at moved
        · contradiction
        · rename_i location own noFolder'
          refine ⟨fun folder => noFolder' (Option.some.inj folder), ?_⟩
          split at moved
          · rename_i twin
            cases moved
            exact .inr ⟨rfl, twin⟩
          · cases moved
            exact .inl rfl
        · cases moved
          exact ⟨nofun, .inl rfl⟩

/-! ## Ways after a change -/

/-- Neither a folder nor a link stands at a location, so no way goes on from there. -/
def IsEnd (tree : FileTree) (location : Location) : Prop :=
  tree.item? location ≠ some .folder ∧ ∀ target, tree.item? location ≠ some (.link target)

/-- Where ways go on, nothing has changed. -/
theorem keepsWays_of_isEnd (home : tree'.home = tree.home)
    (others : ∀ location, tree'.item? location = tree.item? location ∨ tree.IsEnd location) :
    KeepsWays tree tree' where
  home := home
  folder location found := by
    rcases others location with same | isEnd
    · exact same.trans found
    · exact absurd found isEnd.1
  link location target found := by
    rcases others location with same | isEnd
    · exact same.trans found
    · exact absurd found (isEnd.2 target)

/-- Where folders are added, every way still leads where it led. -/
theorem AddsFolders.keepsWays (adds : AddsFolders tree tree') : KeepsWays tree tree' := by
  refine keepsWays_of_isEnd adds.home fun location => ?_
  rcases adds.items location with same | ⟨free, -⟩
  · exact .inl same
  · right
    constructor
    · rw [free]
      exact nofun
    · intro target
      rw [free]
      exact nofun

/-- What can be read stays the same when folders are made. -/
theorem AddsFolders.read {old : ByteArray} (adds : AddsFolders tree tree')
    (read : tree.read p = .ok old) : tree'.read p = .ok old := by
  obtain ⟨location, found⟩ := read_eq_ok_iff.mp read
  exact adds.keepsWays.read found ((adds.sameFiles _ _).mpr (item?_of_find found))

end CatalogAudit.FileTree
