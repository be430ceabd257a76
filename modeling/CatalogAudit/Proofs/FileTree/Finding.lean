import CatalogAudit.Proofs.FileTree.Route

/-!
# What paths lead to

A way says step by step how a path is looked up, to an entry or to a free place in a folder, and
whether or not a link in the last step is followed. Only folders and links make a way, so it stays
the same in a tree that has the same folders and links: what it comes to is then whatever stands
there.
-/

namespace CatalogAudit.FileTree

variable {tree tree' : FileTree} {followLast : Bool} {links : Nat} {current : Location}
  {names : List Name} {spot : Spot}

namespace Finds

/-- Unless a link stands there, it does not matter whether the last step is to be followed. -/
theorem follow_last (finds : Finds tree false links current names spot)
    (noLink : ∀ target, spot.item? ≠ some (.link target)) :
    Finds tree true links current names spot := by
  induction finds with
  | here found => exact .here found
  | dot folder _ ih => exact .dot folder (ih noLink)
  | up folder _ ih => exact .up folder (ih noLink)
  | down folder looked found notLink _ ih => exact .down folder looked found notLink (ih noLink)
  | free folder looked absent => exact .free folder looked absent
  | last => exact absurd rfl (noLink _)
  | link folder looked found _ _ ih => exact .link folder looked found (.inl rfl) (ih noLink)

/-- When the last step is not to be followed, the same is found, or a link that leads there. -/
theorem leave_last (finds : Finds tree true links current names spot) :
    Finds tree false links current names spot ∨
      ∃ location target,
        Finds tree false links current names (.present location (.link target)) := by
  induction finds with
  | here found => exact .inl (.here found)
  | dot folder _ ih =>
    rcases ih with same | ⟨location, target, more⟩
    · exact .inl (.dot folder same)
    · exact .inr ⟨location, target, .dot folder more⟩
  | up folder _ ih =>
    rcases ih with same | ⟨location, target, more⟩
    · exact .inl (.up folder same)
    · exact .inr ⟨location, target, .up folder more⟩
  | down folder looked found noLink _ ih =>
    rcases ih with same | ⟨location, target, more⟩
    · exact .inl (.down folder looked found noLink same)
    · exact .inr ⟨location, target, .down folder looked found noLink more⟩
  | free folder looked absent => exact .inl (.free folder looked absent)
  | last folder looked found => exact .inl (.last folder looked found rfl)
  | @link _ _ _ rest _ _ folder looked found _ _ ih =>
    by_cases last : rest = []
    · subst last
      exact .inr ⟨_, _, .last folder looked found rfl⟩
    · rcases ih with same | ⟨location, aim, more⟩
      · exact .inl (.link folder looked found (.inr last) same)
      · exact .inr ⟨location, aim, .link folder looked found (.inr last) more⟩

end Finds

/-! ## Trees with the same ways -/

/-- A tree has the folders and links of another one, and relative paths begin at the same place. -/
structure KeepsWays (tree tree' : FileTree) : Prop where
  /-- Relative paths begin at the same place. -/
  home : tree'.home = tree.home
  /-- A folder stays. -/
  folder : ∀ location, tree.item? location = some .folder → tree'.item? location = some .folder
  /-- A link stays. -/
  link : ∀ location target, tree.item? location = some (.link target) →
    tree'.item? location = some (.link target)

/-- Ways kept twice are kept. -/
theorem KeepsWays.trans {tree'' : FileTree} (keeps : KeepsWays tree tree')
    (keeps' : KeepsWays tree' tree'') : KeepsWays tree tree'' where
  home := keeps'.home.trans keeps.home
  folder location found := keeps'.folder location (keeps.folder location found)
  link location target found := keeps'.link location target (keeps.link location target found)

/-- A way leads to the same place in a tree that keeps folders and links, and finds what stands
there, unless that is a link that stood not there before. -/
theorem Finds.transfer (keeps : KeepsWays tree tree')
    (finds : Finds tree followLast links current names spot) {item : Item}
    (found' : tree'.item? spot.location = some item)
    (noLink' : ∀ target, item = .link target → spot.item? = some (.link target)) :
    Finds tree' followLast links current names (.present spot.location item) := by
  induction finds with
  | here found => exact .here found'
  | dot folder _ ih => exact .dot (keeps.folder _ folder) (ih found' noLink')
  | up folder _ ih => exact .up (keeps.folder _ folder) (ih found' noLink')
  | @down links current name rest own spot folder looked found noLink more ih =>
    by_cases isFolder : own = .folder
    · subst isFolder
      exact .down (keeps.folder _ folder) looked (keeps.folder _ found)
        (fun _ => Item.noConfusion) (ih found' noLink')
    · -- Nothing lies below something that is neither a folder nor a link.
      cases more with
      | here again =>
        refine .down (keeps.folder _ folder) looked found' (fun target same => ?_) (.here found')
        have link := noLink' target same
        rw [Spot.item?, ← again, found, Option.some_inj] at link
        exact noLink target link
      | dot inner | up inner | down inner | free inner | last inner | link inner =>
        rw [found, Option.some_inj] at inner
        exact absurd inner isFolder
  | free folder looked absent =>
    refine .down (keeps.folder _ folder) looked found' (fun target same => ?_) (.here found')
    cases noLink' target same
  | last folder looked found stays =>
    have kept := keeps.link _ _ found
    rw [Spot.location, kept] at found'
    cases found'
    exact .last (keeps.folder _ folder) looked kept stays
  | link folder looked found followed _ ih =>
    exact .link (keeps.folder _ folder) looked (keeps.link _ _ found) followed (ih found' noLink')

/-! ## Paths -/

/-- Names are found along a way from the origin of a path that the system takes. -/
theorem findNames_eq_ok_iff {p : Path} :
    tree.findNames followLast p names = .ok spot ↔
      IsWritable p ∧ Finds tree followLast linkLimit (tree.origin p) names spot := by
  unfold findNames
  rw [← follow_eq_ok_iff_finds]
  split
  · rename_i blank
    exact ⟨nofun, fun h => absurd (by simpa using blank) h.1.1⟩
  · rename_i filled
    split
    · rename_i long
      exact ⟨nofun, fun h => absurd h.1.2 (Nat.not_le.mpr long)⟩
    · rename_i short
      exact ⟨fun h => ⟨⟨by simpa using filled, Nat.not_lt.mp short⟩, h⟩, And.right⟩

/-- A path is looked up successfully when the system takes it and there is a way along its names. -/
theorem find_eq_ok_iff {p : Path} :
    tree.find followLast p = .ok spot ↔
      IsWritable p ∧ Finds tree followLast linkLimit (tree.origin p) p.namesToFolder spot :=
  findNames_eq_ok_iff

/-- At the spot that is found stands what is found there. -/
theorem item?_of_find {p : Path} (found : tree.find followLast p = .ok spot) :
    tree.item? spot.location = spot.item? := (find_eq_ok_iff.mp found).2.item?_location

/-- Unless a link stands there, it does not matter whether the last step is to be followed. -/
theorem find_true {p : Path} (found : tree.find false p = .ok spot)
    (noLink : ∀ target, spot.item? ≠ some (.link target)) : tree.find true p = .ok spot := by
  obtain ⟨writable, finds⟩ := find_eq_ok_iff.mp found
  exact find_eq_ok_iff.mpr ⟨writable, finds.follow_last noLink⟩

/-- When the last step is not to be followed, the same is found, or a link that leads there. -/
theorem find_false {p : Path} (found : tree.find true p = .ok spot) :
    tree.find false p = .ok spot ∨
      ∃ location target, tree.find false p = .ok (.present location (.link target)) := by
  obtain ⟨writable, finds⟩ := find_eq_ok_iff.mp found
  refine finds.leave_last.imp (fun same => find_eq_ok_iff.mpr ⟨writable, same⟩) ?_
  rintro ⟨location, target, link⟩
  exact ⟨location, target, find_eq_ok_iff.mpr ⟨writable, link⟩⟩

/-- A path leads to the same place in a tree that keeps folders and links. -/
theorem KeepsWays.find (keeps : KeepsWays tree tree') {p : Path}
    (found : tree.find followLast p = .ok spot) {item : Item}
    (found' : tree'.item? spot.location = some item)
    (noLink : ∀ target, item = .link target → spot.item? = some (.link target)) :
    tree'.find followLast p = .ok (.present spot.location item) := by
  obtain ⟨writable, finds⟩ := find_eq_ok_iff.mp found
  have origin : tree'.origin p = tree.origin p := by rw [FileTree.origin, keeps.home]; rfl
  refine find_eq_ok_iff.mpr ⟨writable, ?_⟩
  rw [origin]
  exact finds.transfer keeps found' noLink

/-! ## Reading -/

/-- What is read of a path is what the file has to which the path leads. -/
theorem read_eq_ok_iff {p : Path} {bytes : ByteArray} :
    tree.read p = .ok bytes ↔
      ∃ location, tree.find true p = .ok (.present location (.file bytes)) := by
  simp_rw [← resolve_eq_ok_iff_find]
  unfold read
  constructor
  · intro read
    split at read
    · cases read
    · rename_i location own found
      cases read
      exact ⟨location, found⟩
    · cases read
  · rintro ⟨location, found⟩
    rw [found]

/-- A file that holds a text in its encoding is read as that text. -/
theorem readText_of_read {p : Path} {text : String} (read : tree.read p = .ok text.toUTF8) :
    tree.readText p = .ok text.toList := by
  have valid : text.toUTF8.IsValidUTF8 := text.isValidUTF8
  rw [readText, read]
  dsimp only
  rw [String.fromUTF8?, dif_pos valid]
  rfl

/-- A file that can be read has a file in its place in a tree that keeps folders and links, and that
is read there. -/
theorem KeepsWays.read (keeps : KeepsWays tree tree') {p : Path} {location : Location}
    {old new : ByteArray} (found : tree.find true p = .ok (.present location (.file old)))
    (found' : tree'.item? location = some (.file new)) : tree'.read p = .ok new :=
  read_eq_ok_iff.mpr ⟨location, keeps.find found found' fun _ same => Item.noConfusion same⟩

end CatalogAudit.FileTree
