import CatalogAudit.Proofs.Manifest.Runs.Coherence

/-!
# Entries behind others

What is read inside the list of entries does not depend on the entries that are complete, nor on the
keys of the top level: they only give an entry its number in a message. So a reader that has more
complete entries than another one reads every line of the list as that one does, and the new entries
come behind the others. At a dash nothing else is kept, so each entry is read as if its lines stood
alone under the key.
-/

namespace CatalogAudit.Manifest.Line

/-- Where the second one has a result, the first one has a related one. -/
theorem Agree.exists_of_ok_right {α β : Type} {R : α → β → Prop} {x : Except Fault α}
    {y : Except Fault β} (agree : Agree R x y) {b : β} (second : y = .ok b) :
    ∃ a, x = .ok a ∧ R a b := by
  cases agree with
  | fault f f' => cases second
  | result related =>
    cases second
    exact ⟨_, rfl, related⟩

namespace Reader

/-- The reader with complete entries put in front of its own, and other keys at the top level. -/
def behind (before : Array RawEntry) (topKeys : List (List Char)) (r : Reader) : Reader :=
  { r with topKeys, entries := before ++ r.entries }

/-- The second reader is the first one behind those entries. -/
def IsBehind (before : Array RawEntry) (topKeys : List (List Char)) (r r' : Reader) : Prop :=
  r' = r.behind before topKeys

variable (before : Array RawEntry) (topKeys : List (List Char)) (r : Reader)

/-- The open entry is closed behind the entries that came before. -/
theorem closeEntry_behind :
    (r.behind before topKeys).closeEntry = r.closeEntry.behind before topKeys := by
  cases r with
  | mk place topKeys' sawContent entryColumn current block entries =>
    cases current with
    | none => rfl
    | some entry => simp only [behind, closeEntry, Array.push_append]

/-- The value of a field is stored the same behind other entries. -/
theorem storeField_behind (entry : OpenEntry) (key value : List Char) :
    Agree (IsBehind before topKeys) (r.storeField entry key value)
      ((r.behind before topKeys).storeField entry key value) := by
  obtain ⟨fault, refused⟩ | ⟨raw, block?, -, -, stored⟩ := storeField_uniform entry key value
  · rw [refused r entry.keys, refused (r.behind before topKeys) entry.keys]
    exact .fault _ _
  · rw [stored r entry.keys, stored (r.behind before topKeys) entry.keys]
    exact .result rfl

/-- A field is read the same behind other entries. -/
theorem entryField_behind (text : List Char) :
    Agree (IsBehind before topKeys) (r.entryField text)
      ((r.behind before topKeys).entryField text) := by
  have current : (r.behind before topKeys).current = r.current := rfl
  unfold entryField
  rw [current]
  split
  · exact .fault _ _
  · split
    · exact .fault _ _
    · exact .fault _ _
    · split
      · exact .fault _ _
      · split
        · exact .fault _ _
        · exact storeField_behind before topKeys r _ _ _

/-- An item of the modes is read the same behind other entries. -/
theorem addMode_behind (body : List Char) :
    Agree (IsBehind before topKeys) (r.addMode body) ((r.behind before topKeys).addMode body) := by
  have current : (r.behind before topKeys).current = r.current := rfl
  unfold addMode
  rw [current]
  split
  · exact .fault _ _
  · split
    · exact .fault _ _
    · exact .result rfl

/-- A dash that begins an entry is read the same behind other entries. -/
theorem startEntry_behind (column : Nat) (content body : List Char) :
    Agree (IsBehind before topKeys) (r.startEntry column content body)
      ((r.behind before topKeys).startEntry column content body) := by
  unfold startEntry
  rw [closeEntry_behind]
  dsimp only
  split
  · exact .result rfl
  · exact entryField_behind before topKeys { r.closeEntry with block := .none, current := some _ } _

/-- A line at the key column is read the same behind other entries. -/
theorem keyLine_behind (column : Nat) (content : List Char) :
    Agree (IsBehind before topKeys) (r.keyLine column content)
      ((r.behind before topKeys).keyLine column content) := by
  have current : (r.behind before topKeys).current = r.current := rfl
  unfold keyLine
  rw [current]
  split
  · exact .fault _ _
  · split
    · exact .fault _ _
    · dsimp only
      split
      · exact .fault _ _
      · exact entryField_behind before topKeys { r with current := some _ } _

/-- A line deeper than the dashes is read the same behind other entries. -/
theorem deepLine_behind (column : Nat) (content : List Char) :
    Agree (IsBehind before topKeys) (r.deepLine column content)
      ((r.behind before topKeys).deepLine column content) := by
  have block : (r.behind before topKeys).block = r.block := rfl
  unfold deepLine
  rw [block]
  split
  · split
    · exact addMode_behind before topKeys { r with block := .modes _ (some column) } _
    · exact .fault _ _
  · exact keyLine_behind before topKeys { r with block := .none } column content
  · exact keyLine_behind before topKeys r column content

/-- A line of the entry list is read the same behind other entries. -/
theorem listLine_behind (column : Nat) (content : List Char) :
    Agree (IsBehind before topKeys) (r.listLine column content)
      ((r.behind before topKeys).listLine column content) := by
  have entryColumn : (r.behind before topKeys).entryColumn = r.entryColumn := rfl
  unfold listLine
  rw [entryColumn]
  split
  · exact .fault _ _
  · exact startEntry_behind before topKeys { r with entryColumn := some column } column content _
  · split
    · exact .fault _ _
    · split
      · split
        · exact startEntry_behind before topKeys r column content _
        · exact .fault _ _
      · exact deepLine_behind before topKeys r column content

/-- A line of the list's section is read the same behind other entries. -/
theorem entriesLine_behind (column : Nat) (content : List Char) :
    Agree (IsBehind before topKeys) (r.entriesLine column content)
      ((r.behind before topKeys).entriesLine column content) := by
  have block : (r.behind before topKeys).block = r.block := rfl
  unfold entriesLine
  rw [block]
  split
  · split
    · exact .result rfl
    · exact listLine_behind before topKeys { r with block := .none } column content
  · exact listLine_behind before topKeys r column content

/-- A line that is no key of the top level is read alike behind other entries. -/
theorem line_behind {text : List Char}
    (inside : ¬(columnOf text = 0 ∧ (itemBody? (contentOf text)).isNone = true)) :
    Agree (IsBehind before topKeys) (r.line text) ((r.behind before topKeys).line text) := by
  have sawContent : (r.behind before topKeys).sawContent = r.sawContent := rfl
  have place : (r.behind before topKeys).place = r.place := rfl
  rw [line_eq, line_eq, sawContent]
  split
  · exact .result rfl
  · split
    · exact .fault _ _
    · split
      · split
        · exact .fault _ _
        · exact .result rfl
      · unfold contentLine
        dsimp only
        rw [if_neg inside, if_neg inside, place]
        split
        · exact .fault _ _
        · exact .result rfl
        · exact .fault _ _
        · exact entriesLine_behind before topKeys { r with sawContent := true } _ _

end Reader

end CatalogAudit.Manifest.Line
