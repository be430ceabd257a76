import CatalogAudit.Proofs.Manifest.Runs.Faults
import CatalogAudit.Proofs.Manifest.Runs.IgnoredKeys

/-!
# Keys and what they stored

The reader remembers each key once, at the top level and in the open entry, and a token or a kind
was stored exactly by the key of that name. Together with what holds of columns and blocks this is
all that its six variables have to do with each other: an entry is open exactly in the list of
entries from its first dash on, so a line that belongs to an entry always finds one, and what is
open under a key stands deeper than the dashes, so it never hides the next one.
-/

namespace CatalogAudit.Manifest.Line

/-- What was read of an entry is what its keys stored. -/
structure OpenEntry.Tracked (entry : OpenEntry) : Prop where
  /-- No key came twice. -/
  keys : entry.keys.Nodup
  /-- There is a token exactly behind its key. -/
  token : entry.raw.token.isSome = true ↔ "token".toList ∈ entry.keys
  /-- There is a kind exactly behind its key. -/
  kind : entry.raw.kind.isSome = true ↔ "kind".toList ∈ entry.keys
  /-- From the first key on the column of the keys is known. -/
  placed : entry.keys ≠ [] → entry.keyColumn.isSome = true

/-- An entry that has just begun has stored nothing. -/
theorem tracked_new (keyColumn : Option Nat) : OpenEntry.Tracked { keyColumn } where
  keys := List.nodup_nil
  token := by simp
  kind := by simp
  placed := by simp

/-- One more key stores a token or a kind when it is called so, and else nothing of these. -/
theorem OpenEntry.Tracked.cons {entry : OpenEntry} (tracked : entry.Tracked) {key : List Char}
    (fresh : key ∉ entry.keys) (known : entry.keyColumn.isSome = true) {raw : RawEntry}
    (token : raw.token.isSome = true ↔
      key = "token".toList ∨ entry.raw.token.isSome = true)
    (kind : raw.kind.isSome = true ↔ key = "kind".toList ∨ entry.raw.kind.isSome = true) :
    OpenEntry.Tracked { entry with raw, keys := key :: entry.keys } where
  keys := List.nodup_cons.mpr ⟨fresh, tracked.keys⟩
  token := by rw [token, tracked.token, List.mem_cons, eq_comm]
  kind := by rw [kind, tracked.kind, List.mem_cons, eq_comm]
  placed := fun _ => known

/-- The entry goes on as the other one: nothing that its keys stored has changed. -/
structure OpenEntry.Le (entry entry' : OpenEntry) : Prop where
  /-- The keys are still there. -/
  keys : ∀ key ∈ entry.keys, key ∈ entry'.keys
  /-- They stand in the same column. -/
  placed : ∀ column, entry.keyColumn = some column → entry'.keyColumn = some column
  /-- The token is the same. -/
  token : "token".toList ∈ entry.keys → entry'.raw.token = entry.raw.token

/-- The token of the entry is the value behind its key. -/
def OpenEntry.HasToken (entry : OpenEntry) (value : List Char) : Prop :=
  "token".toList ∈ entry.keys ∧ ∃ token, scalarValue value = .ok token ∧
    entry.raw.token = some token

/-- The entry has the token of a text, if that is a token key with its value. -/
def OpenEntry.HasTokenOf (entry : OpenEntry) (text : List Char) : Prop :=
  ∀ value, splitKey text = .ok (some ("token".toList, value)) → entry.HasToken value

/-- An entry goes on as itself. -/
theorem OpenEntry.Le.refl (entry : OpenEntry) : entry.Le entry :=
  ⟨fun _ mem => mem, fun _ known => known, fun _ => rfl⟩

/-- What goes on twice goes on. -/
theorem OpenEntry.Le.trans {x y z : OpenEntry} (first : x.Le y) (second : y.Le z) : x.Le z where
  keys key mem := second.keys key (first.keys key mem)
  placed column known := second.placed column (first.placed column known)
  token mem := (second.token (first.keys _ mem)).trans (first.token mem)

/-- An entry that goes on keeps its token. -/
theorem OpenEntry.HasToken.mono {entry entry' : OpenEntry} {value : List Char}
    (has : entry.HasToken value) (le : entry.Le entry') : entry'.HasToken value := by
  obtain ⟨mem, token, scalar, stored⟩ := has
  exact ⟨le.keys _ mem, token, scalar, (le.token mem).trans stored⟩

/-- An entry that goes on keeps the token of the line that gave it. -/
theorem OpenEntry.HasTokenOf.mono {entry entry' : OpenEntry} {text : List Char}
    (has : entry.HasTokenOf text) (le : entry.Le entry') : entry'.HasTokenOf text :=
  fun value splits => (has value splits).mono le

namespace Reader

/-- What was read of the open entry is what its keys stored. -/
def TracksEntry (r : Reader) : Prop := ∀ entry ∈ r.current, entry.Tracked

variable {r r' : Reader} {column : Nat} {content text : List Char}

/-- It is enough to track the entry that is known to be open. -/
theorem tracksEntry_of_current {entry : OpenEntry} (current : r.current = some entry)
    (tracked : entry.Tracked) : r.TracksEntry := by
  intro next mem
  rw [current] at mem
  rwa [← Option.mem_some.mp mem]

/-- The value of a field is stored behind its key, so the entry stays tracked. -/
theorem tracksEntry_storeField {entry : OpenEntry} {key value : List Char}
    (tracked : entry.Tracked) (fresh : key ∉ entry.keys)
    (known : entry.keyColumn.isSome = true) (step : r.storeField entry key value = .ok r') :
    r'.TracksEntry := by
  obtain ⟨raw, block, after, stores, -⟩ := storeField_cases step
  rw [after]
  refine tracksEntry_of_current rfl (tracked.cons fresh known ?_ ?_)
  · cases stores with
    | token _ => simp
    | kind _ => simp
    | modes _ => simp
    | ignored noToken _ => exact (or_iff_right noToken).symm
  · cases stores with
    | token _ => simp
    | kind _ => simp
    | modes _ => simp
    | ignored _ noKind => exact (or_iff_right noKind).symm

/-- A field keeps the open entry tracked. -/
theorem tracksEntry_entryField (tracks : r.TracksEntry)
    (known : ∀ entry ∈ r.current, entry.keyColumn.isSome = true)
    (step : r.entryField text = .ok r') : r'.TracksEntry := by
  obtain ⟨entry, key, value, current, fresh, -, stored⟩ := entryField_cases step
  exact tracksEntry_storeField (tracks entry current) fresh (known entry current) stored

/-- A mode changes nothing but the modes. -/
theorem tracksEntry_addMode {body : List Char} (tracks : r.TracksEntry)
    (step : r.addMode body = .ok r') : r'.TracksEntry := by
  obtain ⟨entry, item, current, -, after⟩ := addMode_cases step
  have tracked := tracks entry current
  rw [after]
  exact tracksEntry_of_current rfl ⟨tracked.keys, tracked.token, tracked.kind, tracked.placed⟩

/-- A line at the key column keeps the open entry tracked. -/
theorem tracksEntry_keyLine (tracks : r.TracksEntry)
    (step : r.keyLine column content = .ok r') : r'.TracksEntry := by
  obtain ⟨entry, current, -, -, read⟩ := keyLine_cases step
  have tracked := tracks entry current
  refine tracksEntry_entryField (tracksEntry_of_current rfl ?_) ?_ read
  · exact ⟨tracked.keys, tracked.token, tracked.kind, fun _ => rfl⟩
  · intro next mem
    rw [← Option.mem_some.mp mem]
    rfl

/-- A line deeper than the dashes keeps the open entry tracked. -/
theorem tracksEntry_deepLine (tracks : r.TracksEntry)
    (step : r.deepLine column content = .ok r') : r'.TracksEntry := by
  obtain ⟨keyColumn, _, body, -, -, -, -, read⟩ | ⟨block, -, read⟩ := deepLine_cases step
  · exact tracksEntry_addMode (r := { r with block := .modes keyColumn (some column) }) tracks read
  · exact tracksEntry_keyLine (r := { r with block }) tracks read

/-- A dash leaves a tracked entry open, be it a new one with a field or without. -/
theorem tracksEntry_startEntry {body : List Char}
    (step : r.startEntry column content body = .ok r') : r'.TracksEntry := by
  obtain ⟨-, after⟩ | ⟨-, read⟩ := startEntry_cases step
  · rw [after]
    exact tracksEntry_of_current rfl (tracked_new none)
  · refine tracksEntry_entryField (tracksEntry_of_current rfl (tracked_new _)) ?_ read
    intro entry mem
    rw [← Option.mem_some.mp mem]
    rfl

/-- A line of the entry list keeps the open entry tracked. -/
theorem tracksEntry_listLine (tracks : r.TracksEntry)
    (step : r.listLine column content = .ok r') : r'.TracksEntry := by
  obtain ⟨body, -, -, read⟩ | ⟨dash, -, -, read⟩ := listLine_cases step
  · exact tracksEntry_startEntry read
  · exact tracksEntry_deepLine tracks read

/-- A line of the list's section keeps the open entry tracked. -/
theorem tracksEntry_entriesLine (tracks : r.TracksEntry)
    (step : r.entriesLine column content = .ok r') : r'.TracksEntry := by
  obtain ⟨-, -, -, rfl⟩ | ⟨block, -, -, read⟩ := entriesLine_cases step
  · exact tracks
  · exact tracksEntry_listLine (r := { r with block }) tracks read

/-- The keys that were read are remembered once, and with them what they stored. -/
structure Tracks (r : Reader) : Prop where
  /-- No key of the top level came twice. -/
  topKeys : r.topKeys.Nodup
  /-- The open entry holds what its keys stored. -/
  entry : r.TracksEntry
  /-- There are no entries before their key. -/
  entries : entriesKey.toList ∉ r.topKeys → r.entries = #[]

/-- Before the first line nothing is stored and nothing is remembered. -/
theorem tracks_start : Tracks {} where
  topKeys := List.nodup_nil
  entry := by simp [TracksEntry]
  entries := fun _ => rfl

/-- A top-level line remembers its key once. -/
theorem Tracks.topLevel (sound : Sound r) (tracks : Tracks r)
    (step : r.topLevel content = .ok r') : Tracks r' := by
  obtain ⟨key, value, -, fresh, place, after, -⟩ := topLevel_cases step
  rw [after]
  refine ⟨List.nodup_cons.mpr ⟨fresh, tracks.topKeys⟩, ?_, ?_⟩
  · rw [closeEntry_eq]
    intro entry mem
    cases mem
  · intro before
    have before : entriesKey.toList ∉ r.topKeys := fun mem => before (List.mem_cons_of_mem _ mem)
    have none : r.current = none := by
      cases current : r.current with
      | none => rfl
      | some entry =>
        have place := (sound.current.mp (by rw [current]; rfl)).1
        exact absurd (sound.entered (.inl place)) before
    simp only [closeEntry, none]
    exact tracks.entries before

/-- Every line that is read keeps the keys tracked. -/
theorem Tracks.line (sound : Sound r) (tracks : Tracks r) (step : r.line text = .ok r') :
    Tracks r' := by
  obtain ⟨-, rfl⟩ | ⟨-, -, -, read⟩ := line_cases step
  · exact tracks
  · obtain ⟨-, -, top⟩ | ⟨-, ⟨-, after⟩ | ⟨place, list⟩⟩ := contentLine_cases read
    · exact Tracks.topLevel sound.seen ⟨tracks.topKeys, tracks.entry, tracks.entries⟩ top
    · rw [after]
      exact ⟨tracks.topKeys, tracks.entry, tracks.entries⟩
    · have same := topKeys_of_entriesLine list
      refine ⟨?_, tracksEntry_entriesLine (r := { r with sawContent := true }) tracks.entry list,
        fun before => ?_⟩
      · rw [same]
        exact tracks.topKeys
      · rw [same] at before
        exact absurd (sound.entered (.inl place)) before

/-- A whole run keeps the keys tracked. -/
theorem Tracks.lines (sound : Sound r) (tracks : Tracks r) {lines : List (List Char)}
    {number : Nat} (run : r.lines number lines = .ok r') : Tracks r' := by
  induction lines generalizing r number with
  | nil =>
    rw [Reader.lines] at run
    rw [← Except.ok.inj run]
    exact tracks
  | cons text rest ih =>
    obtain ⟨next, step, onward⟩ := exists_line_of_cons run
    exact ih (sound.line step) (tracks.line sound step) onward

/-- All that the reader remembers between two lines fits together. -/
structure Coherent (r : Reader) : Prop where
  /-- An entry is open exactly in the list of entries, once the column of the dashes is known. -/
  current : r.current.isSome = true ↔ r.place = .entries ∧ r.entryColumn.isSome = true
  /-- The keys of the open entry stand deeper than the dashes. -/
  deeper : ∀ entry ∈ r.current, ∀ dash ∈ r.entryColumn, ∀ keys ∈ entry.keyColumn, dash < keys
  /-- A block is open in the list of entries only, under the open entry and at the column of its
  keys. -/
  block : ∀ column ∈ r.block.column?,
    r.place = .entries ∧ ∃ entry ∈ r.current, entry.keyColumn = some column
  /-- No key of the top level came twice. -/
  topKeys : r.topKeys.Nodup
  /-- The open entry holds what its keys stored. -/
  entry : ∀ entry ∈ r.current, entry.Tracked

/-- The columns and the keys together are all that the six variables have to do with each other. -/
theorem Sound.coherent (sound : Sound r) (tracks : Tracks r) : Coherent r where
  current := sound.current
  deeper := sound.deeper
  block column under := by
    obtain ⟨entry, current, known⟩ := sound.block column under
    have open_ : r.current.isSome = true := Option.isSome_iff_exists.mpr ⟨entry, current⟩
    exact ⟨(sound.current.mp open_).1, entry, current, known⟩
  topKeys := tracks.topKeys
  entry := tracks.entry

/-- Storing a key leaves what other keys stored, and a token is the value behind its key. -/
theorem exists_le_storeField {entry : OpenEntry} {key value : List Char} (fresh : key ∉ entry.keys)
    (step : r.storeField entry key value = .ok r') :
    ∃ entry', r'.current = some entry' ∧ entry.Le entry' ∧
      (key = "token".toList → entry'.HasToken value) := by
  obtain ⟨raw, block, after, stores, -⟩ := storeField_cases step
  rw [after]
  refine ⟨_, rfl, ⟨fun _ mem => List.mem_cons_of_mem _ mem, fun _ known => known, ?_⟩, ?_⟩
  · intro mem
    cases stores with
    | token _ => exact absurd mem fresh
    | kind _ => rfl
    | modes _ => rfl
    | ignored _ _ => rfl
  · intro isToken
    cases stores with
    | token read => exact ⟨List.mem_cons_self, _, read, rfl⟩
    | kind _ => exact absurd isToken (by decide)
    | modes _ => exact absurd isToken (by decide)
    | ignored noToken _ => exact absurd isToken noToken

/-- A field leaves its entry open, with the token of its text if it is one. -/
theorem exists_le_entryField {entry : OpenEntry} (current : r.current = some entry)
    (step : r.entryField text = .ok r') :
    ∃ entry', r'.current = some entry' ∧ entry.Le entry' ∧
      entry'.HasTokenOf text := by
  obtain ⟨same, key, value, current', fresh, splits, stored⟩ := entryField_cases step
  obtain rfl := Option.some.inj (current.symm.trans current')
  obtain ⟨entry', after, le, token⟩ := exists_le_storeField fresh stored
  refine ⟨entry', after, le, fun value' splits' => ?_⟩
  rw [splits] at splits'
  injection splits' with found
  injection Option.some.inj found with isToken same
  rw [← same]
  exact token isToken

/-- An item of the modes leaves its entry open. -/
theorem exists_le_addMode {body : List Char} {entry : OpenEntry} (current : r.current = some entry)
    (step : r.addMode body = .ok r') :
    ∃ entry', r'.current = some entry' ∧ entry.Le entry' := by
  obtain ⟨same, item, current', -, after⟩ := addMode_cases step
  obtain rfl := Option.some.inj (current.symm.trans current')
  rw [after]
  exact ⟨_, rfl, fun _ mem => mem, fun _ known => known, fun _ => rfl⟩

/-- A line at the key column leaves its entry open, with its keys in that column. -/
theorem exists_le_keyLine {entry : OpenEntry} (current : r.current = some entry)
    (step : r.keyLine column content = .ok r') :
    ∃ entry', r'.current = some entry' ∧ entry.Le entry' ∧ entry'.keyColumn = some column ∧
      entry'.HasTokenOf content := by
  obtain ⟨same, current', -, here, read⟩ := keyLine_cases step
  obtain rfl := Option.some.inj (current.symm.trans current')
  obtain ⟨entry', after, le, token⟩ := exists_le_entryField rfl read
  refine ⟨entry', after, ⟨le.keys, fun place known => ?_, le.token⟩, le.placed _ rfl, token⟩
  rw [known, Option.getD_some] at here
  rw [here]
  exact le.placed _ rfl

/-- No item of a list is a line that says nothing, or is indented by a tab. -/
theorem isNoise_of_itemBody? {body : List Char} (item : itemBody? (contentOf text) = some body) :
    isNoise text = false ∧ isTabbed text = false := by
  unfold itemBody? at item
  split at item
  · rename_i rest content
    rw [isNoise, isTabbed, content]
    exact ⟨rfl, rfl⟩
  · cases item

/-- Nothing that is open keeps a dash in the column of the dashes from beginning an entry: what is
passed over stands deeper than the keys, and these deeper than the dashes. -/
theorem Sound.entriesLine_of_dash (sound : Sound r) {body : List Char}
    (item : itemBody? content = some body) (here : r.entryColumn.getD column = column) :
    r.entriesLine column content =
      { r with entryColumn := some column }.startEntry column content body := by
  unfold Reader.entriesLine
  split
  · rename_i deeperThan skip
    obtain ⟨entry, current, keys⟩ := sound.block deeperThan (by rw [skip]; rfl)
    have open_ : r.current.isSome = true := Option.isSome_iff_exists.mpr ⟨entry, current⟩
    obtain ⟨dash, known⟩ := Option.isSome_iff_exists.mp (sound.current.mp open_).2
    have behind := sound.deeper entry current dash known deeperThan keys
    have level : ¬deeperThan < column := by
      rw [known, Option.getD_some] at here
      omega
    rw [if_neg level, listLine_of_dash (r := { r with block := .none }) item here]
    exact startEntry_block { r with entryColumn := some column } .none _ _ _
  · exact listLine_of_dash item here

/-- A dash in the column of the dashes begins an entry, whatever is open. -/
theorem Sound.line_of_dash (sound : Sound r) (place : r.place = .entries) {body : List Char}
    (item : itemBody? (contentOf text) = some body)
    (here : r.entryColumn.getD (columnOf text) = columnOf text) :
    r.line text = { r with
        sawContent := true
        entryColumn := some (columnOf text) }.startEntry (columnOf text) (contentOf text) body := by
  obtain ⟨loud, spaced⟩ := isNoise_of_itemBody? item
  have noMark : ¬(columnOf text = 0 ∧ isDocumentStart (contentOf text) = true) := by
    rw [isDocumentStart_of_itemBody? item]
    simp
  have noMargin : ¬(columnOf text = 0 ∧ (itemBody? (contentOf text)).isNone = true) := by
    simp [item]
  rw [line_of_loud r loud spaced noMark, Reader.contentLine]
  dsimp only
  rw [if_neg noMargin]
  simp only [place]
  have list := sound.seen.entriesLine_of_dash item here
  rw [← place]
  exact list

/-- With a new entry the one before is complete. -/
theorem frame_startEntry {body : List Char} (step : r.startEntry column content body = .ok r') :
    r'.place = r.place ∧ r'.entryColumn = r.entryColumn ∧ r'.entries = r.closeEntry.entries ∧
      r'.current.isSome = true := by
  have closed : r.closeEntry.place = r.place ∧ r.closeEntry.entryColumn = r.entryColumn := by
    rw [closeEntry_eq]
    exact ⟨rfl, rfl⟩
  obtain ⟨-, after⟩ | ⟨-, read⟩ := startEntry_cases step
  · rw [after]
    exact ⟨closed.1, closed.2, rfl, rfl⟩
  · obtain ⟨entry, key, value, -, -, -, stored⟩ := entryField_cases read
    obtain ⟨raw, block, after, -⟩ := storeField_cases stored
    rw [after]
    exact ⟨closed.1, closed.2, rfl, rfl⟩

end Reader

end CatalogAudit.Manifest.Line
