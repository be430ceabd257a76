import CatalogAudit.Snapshot
import CatalogAudit.Proofs.Artifact.Replacement
import CatalogAudit.Proofs.Json.Reading
import CatalogAudit.Proofs.Registry.Members

/-!
# Snapshots are read back

A snapshot is read back from the text that is written of it, and so it is from every document that
differs from this text in what does not count: the order of the members of a record, further members
under unknown keys, empty modes that are left out, and the blanks between the tokens.
-/

namespace CatalogAudit.Snapshot

open Json

/-! ## Records -/

/-- An object with the members `known`, and with others under keys that are not among `keys`, all of
them in any order. -/
inductive IsRecord (keys : List String) (known : List (String × Json)) : Json → Prop
  /-- What an object holds is all that counts. -/
  | object {members : List (Option String × Json)} (others : List (Option String × Json))
      (order : members.Perm (known.map keyed ++ others))
      (unknown : ∀ member ∈ others, ∃ key ∉ keys, member.1 = some key) :
      IsRecord keys known (.object members)

/-- What is found for each item is found for all of them together. -/
theorem mapM_eq_some_map {α β : Type} {f : α → Option β} {g : α → β} {items : List α}
    (each : ∀ a ∈ items, f a = some (g a)) : items.mapM f = some (items.map g) := by
  induction items with
  | nil => rfl
  | cons a items ih =>
    rw [List.forall_mem_cons] at each
    rw [List.mapM_cons, each.1, ih each.2]
    rfl

/-- Among members of distinct keys, a key has one value or none. -/
theorem filter_keyed {known : List (String × Json)} (distinct : (known.map Prod.fst).Nodup)
    (key : String) :
    (known.map keyed).filter (fun member => member.1 == some key) =
      ((known.lookup key).map fun value => (some key, value)).toList := by
  induction known with
  | nil => rfl
  | cons member known ih =>
    obtain ⟨name, value⟩ := member
    rw [List.map_cons, List.nodup_cons] at distinct
    obtain ⟨fresh, distinct⟩ := distinct
    rw [List.map_cons, List.lookup_cons]
    by_cases same : key = name
    · have none : (known.map keyed).filter (fun member => member.1 == some key) = [] := by
        rw [List.filter_eq_nil_iff, List.forall_mem_map]
        intro member inside
        have other : member.1 ≠ key := by
          intro again
          exact fresh (List.mem_map.mpr ⟨member, inside, again.trans same⟩)
        simpa [keyed] using other
      rw [List.filter_cons_of_pos (by simp [keyed, same]), none]
      simp [keyed, same]
    · have other : name ≠ key := fun same' => same same'.symm
      rw [List.filter_cons_of_neg (by simpa [keyed] using other), ih distinct,
        beq_eq_false_iff_ne.mpr same]

/-- A record has the values of its known keys, and nothing under the others. -/
theorem fields?_of_isRecord {keys : List String} {known : List (String × Json)} {value : Json}
    (distinct : (known.map Prod.fst).Nodup) (record : IsRecord keys known value) :
    fields? keys value = some (keys.map fun key => known.lookup key) := by
  cases record with
  | @object members others order unknown =>
    have texts : members.all (fun member => member.1.isSome) = true := by
      rw [List.all_eq_true]
      intro member inside
      rw [order.mem_iff, List.mem_append] at inside
      cases inside with
      | inl inKnown =>
        obtain ⟨row, -, rfl⟩ := List.mem_map.mp inKnown
        rfl
      | inr inOthers =>
        obtain ⟨key, -, text⟩ := unknown member inOthers
        rw [text]
        rfl
    have found : ∀ key ∈ keys, members.filter (fun member => member.1 == some key) =
        ((known.lookup key).map fun value => (some key, value)).toList := by
      intro key listed
      have none : others.filter (fun member => member.1 == some key) = [] := by
        rw [List.filter_eq_nil_iff]
        intro member inside
        obtain ⟨name, unlisted, text⟩ := unknown member inside
        have other : name ≠ key := by
          rintro rfl
          exact unlisted listed
        rw [text]
        simpa using other
      have same := order.filter fun member => member.1 == some key
      rw [List.filter_append, filter_keyed distinct, none, List.append_nil] at same
      cases looked : known.lookup key with
      | none =>
        rw [looked] at same
        exact List.perm_nil.mp same
      | some value =>
        rw [looked] at same
        exact List.perm_singleton.mp same
    rw [fields?, if_pos texts]
    refine mapM_eq_some_map fun key listed => ?_
    rw [found key listed]
    cases known.lookup key <;> rfl

/-! ## Entries -/

/-- A value that writes an entry: a record with its token, its kind and its modes, which may be left
out when there are none. -/
inductive WritesEntry (entry : Manifest.Entry) (value : Json) : Prop
  /-- With its modes. -/
  | withModes
      (record : IsRecord ["token", "kind", "modes"]
        [("token", .ofString entry.token), ("kind", .ofString entry.kind.name),
          ("modes", .ofStrings entry.modes)] value)
  /-- Without modes. -/
  | withoutModes (empty : entry.modes = [])
      (record : IsRecord ["token", "kind", "modes"]
        [("token", .ofString entry.token), ("kind", .ofString entry.kind.name)] value)

/-- An entry is read from every value that writes it. -/
theorem entry?_of_writesEntry {entry : Manifest.Entry} {value : Json}
    (writes : WritesEntry entry value) : entry? value = some entry := by
  obtain ⟨token, kind, modes⟩ := entry
  have named : kind? (.ofString kind.name) = some kind := EffectKind.ofName?_name kind
  cases writes with
  | withModes record =>
    have distinct : ["token", "kind", "modes"].Nodup := by decide
    have fields : fields? ["token", "kind", "modes"] value =
        some [some (.ofString token), some (.ofString kind.name), some (.ofStrings modes)] := by
      rw [fields?_of_isRecord ?_ record]
      · rfl
      · exact distinct
    unfold entry?
    rw [fields]
    dsimp only
    rw [named, strings?_ofStrings]
    rfl
  | withoutModes empty record =>
    have distinct : ["token", "kind"].Nodup := by decide
    have fields : fields? ["token", "kind", "modes"] value =
        some [some (.ofString token), some (.ofString kind.name), none] := by
      rw [fields?_of_isRecord ?_ record]
      · rfl
      · exact distinct
    unfold entry?
    rw [fields]
    dsimp only
    rw [named]
    dsimp only at empty
    rw [empty]
    rfl

/-- Entries are read back item by item. -/
theorem entries?_of_writesEntry {entries : List Manifest.Entry} {items : List Json}
    (writes : List.Forall₂ WritesEntry entries items) :
    items.mapM entry? = some entries := by
  induction writes with
  | nil => rfl
  | cons first _ ih =>
    rw [List.mapM_cons, entry?_of_writesEntry first, ih]
    rfl

/-- What is written of an entry writes it. -/
theorem writesEntry_entryJson (entry : Manifest.Entry) : WritesEntry entry (entryJson entry) := by
  refine .withModes (.object [] ?_ (List.forall_mem_nil _))
  rw [List.append_nil]
  exact .refl _

/-! ## Snapshots -/

/-- A value that writes a snapshot: a record with its time, its tokens and its entries in their
order, each of which is written in a way of its own. -/
inductive Writes (s : Snapshot) (value : Json) : Prop
  /-- With values that write the entries. -/
  | record {items : List Json} (entries : List.Forall₂ WritesEntry s.entries items)
      (record : IsRecord ["generated_at", "tokens", "entries"]
        [("generated_at", .ofString s.time), ("tokens", .ofStrings s.tokens),
          ("entries", .array items)] value)

/-- A snapshot is read from every value that writes it. -/
theorem ofJson?_of_writes {s : Snapshot} {value : Json} (writes : Writes s value) :
    ofJson? value = some s := by
  obtain ⟨time, tokens, entries⟩ := s
  cases writes with
  | @record items entries record =>
    have distinct : ["generated_at", "tokens", "entries"].Nodup := by decide
    have fields : fields? ["generated_at", "tokens", "entries"] value =
        some [some (.ofString time), some (.ofStrings tokens), some (.array items)] := by
      rw [fields?_of_isRecord ?_ record]
      · rfl
      · exact distinct
    unfold ofJson?
    rw [fields]
    dsimp only
    rw [strings?_ofStrings, entries?, entries?_of_writesEntry entries]
    rfl

/-- What is written of a snapshot writes it. -/
theorem writes_toJson (s : Snapshot) : Writes s s.toJson := by
  have entries : List.Forall₂ WritesEntry s.entries (s.entries.map entryJson) := by
    rw [List.forall₂_map_right_iff]
    exact List.forall₂_same.mpr fun entry _ => writesEntry_entryJson entry
  refine .record entries (.object [] ?_ (List.forall_mem_nil _))
  rw [List.append_nil]
  exact .refl _

/-- An entry is written as a program puts it together. -/
theorem isPlain_entryJson (entry : Manifest.Entry) : (entryJson entry).IsPlain := by
  refine .object ?_
  simp only [List.forall_mem_cons]
  exact ⟨.string _, .string _, isPlain_ofStrings _, List.forall_mem_nil _⟩

/-- A snapshot is written as a program puts it together. -/
theorem isPlain_toJson (s : Snapshot) : s.toJson.IsPlain := by
  have entries : (Json.array (s.entries.map entryJson)).IsPlain := by
    refine .array fun item inside => ?_
    obtain ⟨entry, -, rfl⟩ := List.mem_map.mp inside
    exact isPlain_entryJson entry
  refine .object ?_
  simp only [List.forall_mem_cons]
  exact ⟨.string _, isPlain_ofStrings _, entries, List.forall_mem_nil _⟩

/-- The text of a snapshot is read as the value that the snapshot is written as. -/
theorem ofText?_render (s : Snapshot) : Json.ofText? s.render.toList = some s.toJson := by
  rw [render, String.toList_ofList]
  exact ofText?_print (isPlain_toJson s)

/-- Every text of a value that writes the snapshot is read as the snapshot. -/
theorem ofText?_of_writes {s : Snapshot} {text : List Char} {value : Json}
    (read : Json.ofText? text = some value) (writes : Writes s value) : ofText? text = some s := by
  rw [ofText?, read, Option.bind_some, ofJson?_of_writes writes]

/-- A snapshot that has been written is found in its file, unless links stood in its way. -/
theorem readText_of_write {tree tree' : FileTree} {path : Path} {s : Snapshot}
    (noLinkAside : (Artifact.prepare tree path).HasNoLink (Artifact.temporary path))
    (noLink : (Artifact.prepare tree path).HasNoLink path)
    (done : s.write tree path = (tree', none)) : tree'.readText path = .ok s.render.toList :=
  FileTree.readText_of_read ((Artifact.arrives_of_write noLinkAside done).read noLink)

/-- **Snapshots are read back.** A snapshot has the registered tokens in strictly ascending order
and the entries of the catalog as they are and in their order. It is read back from its text, which
is what is written to its file, and from every text of a value that writes it: members may stand in
any order and among unknown ones, and empty modes may be left out. -/
theorem render_faithful (time : String) (manifest : Manifest) (registry : Registry) :
    let s := of time manifest registry
    ofText? s.render.toList = some s ∧
      s.time = time ∧ s.entries = manifest.entries ∧ s.tokens.Pairwise (· < ·) ∧
      (∀ token, token ∈ s.tokens ↔ registry.contains token = true) ∧
      (∀ tree tree' path, (Artifact.prepare tree path).HasNoLink (Artifact.temporary path) →
        (Artifact.prepare tree path).HasNoLink path → s.write tree path = (tree', none) →
          tree'.readText path = .ok s.render.toList) ∧
      ∀ text value, Json.ofText? text = some value → Writes s value → ofText? text = some s := by
  intro s
  have back : ofText? s.render.toList = some s :=
    ofText?_of_writes (ofText?_render s) (writes_toJson s)
  have ascending : s.tokens.Pairwise (· < ·) := registry.paths.ascending_names
  refine ⟨back, rfl, rfl, ascending, fun token => Registry.mem_tokens_iff, ?_, ?_⟩
  · intro tree tree' path noLinkAside noLink done
    exact readText_of_write noLinkAside noLink done
  · intro text value read writes
    exact ofText?_of_writes read writes

/-- A catalog of two effects, one of which has a mode. -/
def sampleManifest : Manifest :=
  .ofEntries [⟨"glow", .effect, []⟩, ⟨"blur", .support, ["a"]⟩]

/-- Two registrations. -/
def sampleRegistry : Registry := .ofList [("glow", "src/a.cpp"), ("blur", "src/b.cpp")]

/-- A document that differs from what is written of their snapshot in what does not count. -/
def sampleValue : Json :=
  .ofMembers
    [("extra", .ofNat 1),
     ("entries", .array
      [.ofMembers [("kind", .ofString "effect"), ("token", .ofString "glow")],
       .ofMembers
        [("note", .array [.null]), ("modes", .ofStrings ["a"]), ("kind", .ofString "support"),
         ("token", .ofString "blur")]]),
     ("tokens", .ofStrings ["blur", "glow"]),
     ("generated_at", .ofString "now")]

/-- The value in other order is put together too. -/
theorem isPlain_sampleValue : sampleValue.IsPlain := by
  have glow : (ofMembers [("kind", ofString "effect"), ("token", ofString "glow")]).IsPlain := by
    refine .object ?_
    simp only [List.forall_mem_cons]
    exact ⟨.string _, .string _, List.forall_mem_nil _⟩
  have blur : (ofMembers [("note", .array [.null]), ("modes", ofStrings ["a"]),
      ("kind", ofString "support"), ("token", ofString "blur")]).IsPlain := by
    refine .object ?_
    simp only [List.forall_mem_cons]
    exact ⟨.array (List.forall_mem_singleton.mpr .null), isPlain_ofStrings _, .string _, .string _,
      List.forall_mem_nil _⟩
  have entries := List.forall_mem_cons.mpr ⟨glow, List.forall_mem_singleton.mpr blur⟩
  refine .object ?_
  simp only [List.forall_mem_cons]
  exact ⟨.nat 1, .array entries, isPlain_ofStrings _, .string _, List.forall_mem_nil _⟩

/-- The value in other order writes the same snapshot. -/
theorem writes_sampleValue : Writes (of "now" sampleManifest sampleRegistry) sampleValue := by
  have glow : WritesEntry ⟨"glow", .effect, []⟩
      (.ofMembers [("kind", .ofString "effect"), ("token", .ofString "glow")]) := by
    refine .withoutModes rfl (.object [] ?_ (List.forall_mem_nil _))
    exact .swap _ _ _
  have blur : WritesEntry ⟨"blur", .support, ["a"]⟩
      (.ofMembers [("note", .array [.null]), ("modes", .ofStrings ["a"]),
        ("kind", .ofString "support"), ("token", .ofString "blur")]) := by
    refine .withModes (.object [(some "note", .array [.null])] ?_ ?_)
    · refine .trans (.of_eq ?_) (List.reverse_perm _)
      rfl
    · exact List.forall_mem_singleton.mpr ⟨"note", by decide, rfl⟩
  have tokens : (of "now" sampleManifest sampleRegistry).tokens = ["blur", "glow"] := by decide
  refine .record (.cons glow (.cons blur .nil)) (.object [(some "extra", .ofNat 1)] ?_ ?_)
  · rw [tokens]
    refine .trans (.of_eq ?_) (List.reverse_perm _)
    rfl
  · exact List.forall_mem_singleton.mpr ⟨"extra", by decide, rfl⟩

/-- The file of the sample. -/
def samplePath : Path := .ofString "s.json"

/-- The snapshot can be written. -/
theorem write_sample : ((of "now" sampleManifest sampleRegistry).write {} samplePath).2 = none := by
  decide +kernel

/-- That snapshot is written where nothing stands, and read from its file and from the document. -/
theorem render_faithful_sample :
    (∃ tree, (of "now" sampleManifest sampleRegistry).write {} samplePath = (tree, none) ∧
      tree.readText samplePath = .ok (of "now" sampleManifest sampleRegistry).render.toList) ∧
    Json.ofText? sampleValue.print = some sampleValue ∧
    Writes (of "now" sampleManifest sampleRegistry) sampleValue ∧
    ofText? sampleValue.print = some (of "now" sampleManifest sampleRegistry) := by
  obtain ⟨-, -, -, -, -, file, document⟩ := render_faithful "now" sampleManifest sampleRegistry
  have noLinkAside :
      (Artifact.prepare {} samplePath).HasNoLink (Artifact.temporary samplePath) := by
    intro location target found
    have absent : (Artifact.prepare {} samplePath).find false (Artifact.temporary samplePath) =
        .ok (.absent [.ofString ".s.json.tmp"]) := by rfl
    rw [absent] at found
    cases found
  have noLink : (Artifact.prepare {} samplePath).HasNoLink samplePath := by
    intro location target found
    have absent : (Artifact.prepare {} samplePath).find false samplePath =
        .ok (.absent [.ofString "s.json"]) := by rfl
    rw [absent] at found
    cases found
  have read := ofText?_print isPlain_sampleValue
  refine ⟨?_, read, writes_sampleValue, document _ _ read writes_sampleValue⟩
  have done := write_sample
  rcases written : (of "now" sampleManifest sampleRegistry).write {} samplePath with ⟨tree, fault⟩
  rw [written] at done
  dsimp only at done
  rw [done] at written
  rw [done]
  exact ⟨tree, rfl, file {} tree samplePath noLinkAside noLink written⟩

end CatalogAudit.Snapshot
