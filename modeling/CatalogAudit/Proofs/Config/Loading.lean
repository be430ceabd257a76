import CatalogAudit.Config.Discovery
import CatalogAudit.Proofs.Json.Reading

/-!
# What a configuration file says

A file sets the fields that it names and leaves the others at their default, whatever the order of
its members and however they are spelled. A key that is unknown or repeated makes the whole file
unreadable.
-/

namespace CatalogAudit.Config

/-! ## Fields and their keys -/

/-- A field is known by its key. -/
theorem ofKey?_key (field : Field) : Field.ofKey? field.key = some field := by
  cases field <;> decide

/-- A key that is known is that of its field. -/
theorem eq_key_of_ofKey? {key : String} {field : Field} (known : Field.ofKey? key = some field) :
    key = field.key := by
  have found := List.find?_some known
  exact (eq_of_beq found).symm

/-! ## Overlays -/

/-- The value of a field as it is written. -/
def value (c : Config) : Field → Json
  | .manifest => .ofString c.manifest
  | .sourceRoots => .ofStrings c.sourceRoots
  | .extensions => .ofStrings c.extensions
  | .tokenPattern => .ofString c.tokenPattern
  | .symbolPattern => .ofString c.symbolPattern
  | .heuristicPattern => .ofString c.heuristicPattern
  | .monolithFiles => .ofStrings c.monolithFiles
  | .strictDuplicates => .boolean c.strictDuplicates

/-- The object with exactly the given fields of a configuration, in their order. -/
def toJson (c : Config) (fields : List Field) : Json :=
  .ofMembers (fields.map fun field => (field.key, c.value field))

/-- The configuration with the given fields of another one, and its own values elsewhere. -/
def overlay (base c : Config) (fields : List Field) : Config where
  manifest := if .manifest ∈ fields then c.manifest else base.manifest
  sourceRoots := if .sourceRoots ∈ fields then c.sourceRoots else base.sourceRoots
  extensions := if .extensions ∈ fields then c.extensions else base.extensions
  tokenPattern := if .tokenPattern ∈ fields then c.tokenPattern else base.tokenPattern
  symbolPattern := if .symbolPattern ∈ fields then c.symbolPattern else base.symbolPattern
  heuristicPattern :=
    if .heuristicPattern ∈ fields then c.heuristicPattern else base.heuristicPattern
  monolithFiles := if .monolithFiles ∈ fields then c.monolithFiles else base.monolithFiles
  strictDuplicates :=
    if .strictDuplicates ∈ fields then c.strictDuplicates else base.strictDuplicates

section Overlay

variable {base c : Config} {field : Field} {fields : List Field}

/-- All fields make the whole configuration. -/
theorem overlay_of_every (every : ∀ field, field ∈ fields) : base.overlay c fields = c := by
  simp only [overlay, every, if_true]

/-- What was set first is set by the whole list as well. -/
theorem overlay_cons :
    (base.overlay c [field]).overlay c fields = base.overlay c (field :: fields) := by
  have either : ∀ {α : Type} (f : Field) (x y : α),
      (if f ∈ fields then x else if f ∈ [field] then x else y) =
        if f ∈ field :: fields then x else y := by
    intro α f x y
    simp only [List.mem_cons, List.not_mem_nil, or_false]
    split
    · rename_i later
      rw [if_pos (.inr later)]
    · rename_i other
      simp only [other, or_false]
  simp only [overlay, either]

/-- A field is set to the value that is written of it. -/
theorem set?_value : base.set? (c.value field) field = some (base.overlay c [field]) := by
  cases field with
  | sourceRoots | extensions | monolithFiles =>
    simp only [set?, value, Json.strings?_ofStrings, Option.map_some]
    rfl
  | manifest | tokenPattern | symbolPattern | heuristicPattern | strictDuplicates => rfl

end Overlay

/-! ## Members -/

/-- Fields that were not set yet are set one after another. -/
theorem setMembers?_toJson {c : Config} {fields : List Field} (distinct : fields.Nodup)
    (base : Config) {seen : List Field} (fresh : ∀ field ∈ fields, field ∉ seen) :
    base.setMembers? seen (fields.map fun field => (some field.key, c.value field)) =
      some (base.overlay c fields) := by
  induction fields generalizing base seen with
  | nil => rfl
  | cons field fields ih =>
    obtain ⟨notAgain, distinct⟩ := List.nodup_cons.mp distinct
    obtain ⟨notSeen, fresh⟩ := List.forall_mem_cons.mp fresh
    have fresh' : ∀ other ∈ fields, other ∉ field :: seen := by
      intro other member again
      obtain rfl | again := List.mem_cons.mp again
      · exact notAgain member
      · exact fresh other member again
    have unset : seen.contains field = false := by
      rw [Bool.eq_false_iff]
      exact mt List.contains_iff_mem.mp notSeen
    simp only [List.map_cons, setMembers?, Option.bind_some, ofKey?_key, unset, set?_value,
      Bool.false_eq_true, if_false]
    rw [ih distinct _ fresh', overlay_cons]

/-- What is set has been named by keys of fields, each of them once. -/
theorem exists_fields_of_setMembers? {base result : Config} {seen : List Field}
    {members : List (Option String × Json)} (set : base.setMembers? seen members = some result) :
    ∃ fields : List Field, members.map Prod.fst = fields.map (fun field => some field.key) ∧
      fields.Nodup ∧ ∀ field ∈ fields, field ∉ seen := by
  induction members generalizing base seen with
  | nil => exact ⟨[], rfl, .nil, nofun⟩
  | cons member members ih =>
    obtain ⟨key, value⟩ := member
    rw [setMembers?] at set
    split at set
    · cases set
    · rename_i field known
      split at set
      · cases set
      · rename_i unset
        split at set
        · cases set
        · obtain ⟨fields, keys, distinct, fresh⟩ := ih set
          obtain ⟨key, rfl, known⟩ := Option.bind_eq_some_iff.mp known
          have notSeen : field ∉ seen := mt List.contains_iff_mem.mpr unset
          refine ⟨field :: fields, ?_, ?_, ?_⟩
          · rw [List.map_cons, List.map_cons, keys, eq_key_of_ofKey? known]
          · exact List.nodup_cons.mpr ⟨fun again => fresh field again List.mem_cons_self, distinct⟩
          · refine List.forall_mem_cons.mpr ⟨notSeen, fun other member again => ?_⟩
            exact fresh other member (List.mem_cons_of_mem _ again)

/-- Different fields have different keys. -/
theorem key_injective {field other : Field} (same : field.key = other.key) : field = other := by
  have known := ofKey?_key field
  rw [same, ofKey?_key] at known
  exact (Option.some.inj known).symm

/-- A key is unknown when no field has it, and a key may also come twice. -/
def HasBadKey (members : List (Option String × Json)) : Prop :=
  (∃ member ∈ members, ∀ field : Field, member.1 ≠ some field.key) ∨
    ¬(members.map Prod.fst).Nodup

/-- Nothing is set when a key is unknown or repeated. -/
theorem setMembers?_of_hasBadKey {members : List (Option String × Json)} (bad : HasBadKey members)
    (base : Config) (seen : List Field) : base.setMembers? seen members = none := by
  cases set : base.setMembers? seen members with
  | none => rfl
  | some result =>
    obtain ⟨fields, keys, distinct, -⟩ := exists_fields_of_setMembers? set
    exfalso
    obtain ⟨member, inside, unknown⟩ | repeated := bad
    · have key : member.1 ∈ members.map Prod.fst := List.mem_map_of_mem inside
      rw [keys] at key
      obtain ⟨field, -, same⟩ := List.mem_map.mp key
      exact unknown field same.symm
    · apply repeated
      rw [keys]
      refine List.Pairwise.map _ (fun field other different same => ?_) distinct
      exact different (key_injective (Option.some.inj same))

/-! ## Files -/

section Files

variable {tree : FileTree} {path : Path} {text front back : List Char} {c : Config}
  {fields : List Field}

/-- The object of some fields sets these fields, in whatever order they come. -/
theorem ofJson?_toJson (distinct : fields.Nodup) :
    ofJson? (c.toJson fields) = some (({} : Config).overlay c fields) := by
  have fresh : ∀ field ∈ fields, field ∉ ([] : List Field) := fun _ _ => List.not_mem_nil
  rw [toJson, Json.ofMembers, ofJson?, List.map_map]
  exact setMembers?_toJson distinct {} fresh

/-- A file is loaded as the configuration that its text says. -/
theorem load_of_ofJson? (read : tree.readText path = .ok text) {json : Json}
    (spelled : Json.ofText? text = some json) :
    load tree path = (ofJson? json).elim (.error (.config (.unreadable path))) .ok := by
  unfold load ofText?
  rw [read]
  simp only [spelled, Option.bind_some]
  cases ofJson? json <;> rfl

/-- A file that spells some fields sets these and leaves the others at their default. -/
theorem load_of_spells (distinct : fields.Nodup) (spelled : Json.Spells text (c.toJson fields))
    (blankFront : Json.IsGap front) (blankBack : Json.IsGap back)
    (read : tree.readText path = .ok (front ++ (text ++ back))) :
    load tree path = .ok (({} : Config).overlay c fields) := by
  rw [load_of_ofJson? read (Json.ofText?_of_spells spelled blankFront blankBack),
    ofJson?_toJson distinct, Option.elim_some]

/-- What is printed of some fields spells them. -/
theorem spells_print (c : Config) (fields : List Field) :
    Json.Spells (c.toJson fields).print (c.toJson fields) := by
  have plain : (c.toJson fields).IsPlain := by
    refine .object fun member inside => ?_
    obtain ⟨field, -, rfl⟩ := List.mem_map.mp inside
    cases field with
    | manifest | tokenPattern | symbolPattern | heuristicPattern => exact .string _
    | sourceRoots | extensions | monolithFiles => exact Json.isPlain_ofStrings _
    | strictDuplicates => exact .boolean _
  exact plain.spells_printAt 0

/-- A file with an unknown or a repeated key is unreadable as a whole. -/
theorem load_of_hasBadKey {members : List (Option String × Json)}
    (read : tree.readText path = .ok text) (object : Json.ofText? text = some (.object members))
    (bad : HasBadKey members) : load tree path = .error (.config (.unreadable path)) := by
  rw [load_of_ofJson? read object, ofJson?, setMembers?_of_hasBadKey bad, Option.elim_none]

end Files

end CatalogAudit.Config
