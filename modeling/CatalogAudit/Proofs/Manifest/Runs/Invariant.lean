import CatalogAudit.Proofs.Manifest.Runs.Lines

/-!
# What holds between two lines

What the reader remembers of the lines before is consistent: there is an open entry exactly in the
list of entries behind its first dash, the keys of the entry stand deeper than the dash, and what is
open under a key belongs to that entry and stands at the column of its keys. Every line that is
accepted keeps this, so it holds between any two lines of any text. For that it is told once, reader
by reader, what an accepted line can have done.
-/

namespace CatalogAudit.Manifest.Line

/-- The column of the key under which something is open. -/
def Block.column? : Block → Option Nat
  | .none => Option.none
  | .modes keyColumn _ => some keyColumn
  | .skip deeperThan => some deeperThan

/-- What is read of an entry, before and after a key whose value is `value`. -/
inductive Stores (raw : RawEntry) (value : List Char) : List Char → RawEntry → Prop
  /-- The value is the token. -/
  | token {token : RawValue} (read : scalarValue value = .ok token) :
      Stores raw value "token".toList { raw with token := some token }
  /-- The value is the kind. -/
  | kind {kind : RawValue} (read : scalarValue value = .ok kind) :
      Stores raw value "kind".toList { raw with kind := some kind }
  /-- The value is the list of modes, or that stands below the key. -/
  | modes (modes : RawModes) : Stores raw value "modes".toList { raw with modes }
  /-- The key is ignored. -/
  | ignored {key : List Char} (noToken : key ≠ "token".toList) (noKind : key ≠ "kind".toList) :
      Stores raw value key raw

/-- The body of a list item is shorter than the item. -/
theorem byteLength_itemBody? {content body : List Char} (item : itemBody? content = some body) :
    Text.byteLength body < Text.byteLength content := by
  unfold itemBody? at item
  split at item
  · rename_i rest
    have dash : Text.byteLength ('-' :: rest) = 1 + Text.byteLength rest :=
      Text.byteLength_append ['-'] rest
    have body_le : Text.byteLength body ≤ Text.byteLength rest := by
      split at item
      · rw [← Option.some.inj item]
        exact Nat.zero_le _
      · split at item
        · have parts := congrArg Text.byteLength
            (List.takeWhile_append_dropWhile (p := Text.isBlank) (l := rest))
          rw [Text.byteLength_append] at parts
          rw [← Option.some.inj item, Text.trimStart]
          omega
        · cases item
    omega
  · cases item

namespace Reader

/-- What the reader remembers is consistent. -/
structure Sound (r : Reader) : Prop where
  /-- The list of entries is entered by its key only. -/
  entered : r.place = .entries ∨ r.place = .inline ∨ r.entryColumn.isSome = true →
    entriesKey.toList ∈ r.topKeys
  /-- An entry is open exactly in the list of entries, from its first dash on. -/
  current : r.current.isSome = true ↔ r.place = .entries ∧ r.entryColumn.isSome = true
  /-- An open entry has been read. -/
  saw : r.current.isSome = true → r.sawContent = true
  /-- The keys of the open entry stand deeper than its dash. -/
  deeper : ∀ entry ∈ r.current, ∀ dash ∈ r.entryColumn, ∀ keys ∈ entry.keyColumn, dash < keys
  /-- What is open under a key belongs to the open entry. -/
  block : ∀ column ∈ r.block.column?, ∃ entry ∈ r.current, entry.keyColumn = some column

/-- Before the first line the reader remembers nothing. -/
theorem sound_start : Sound {} where
  entered := by simp
  current := by simp
  saw := by simp
  deeper := by simp
  block := by simp [Block.column?]

/-- Closing the open entry adds what was read of it to the entries. -/
theorem closeEntry_eq (r : Reader) :
    r.closeEntry = { r with current := none, entries := r.closeEntry.entries } := by
  cases r with
  | mk place topKeys sawContent entryColumn current block entries => cases current <;> rfl

section Cases

variable {r r' : Reader}

/-- What storing a key reads, and the block that it opens at the column of the keys, depend on what
was read of the entry and on that column only. -/
theorem storeField_uniform (entry : OpenEntry) (key value : List Char) :
    (∃ fault, ∀ (r : Reader) keys, r.storeField { entry with keys } key value = .error fault) ∨
      ∃ raw, ∃ block? : Option Block, Stores entry.raw value key raw ∧
        (∀ block ∈ block?, block.column? = some (entry.keyColumn.getD 0)) ∧
        ∀ (r : Reader) keys, r.storeField { entry with keys } key value = .ok { r with
          current := some { raw, keys := key :: keys, keyColumn := entry.keyColumn }
          block := block?.getD r.block } := by
  by_cases token : key = "token".toList
  · subst token
    cases read : scalarValue value with
    | error fault => exact .inl ⟨fault, fun r keys => by simp [storeField, read]⟩
    | ok token =>
      refine .inr ⟨_, none, .token read, by simp, fun r keys => ?_⟩
      simp [storeField, read]
  by_cases kind : key = "kind".toList
  · subst kind
    cases read : scalarValue value with
    | error fault => exact .inl ⟨fault, fun r keys => by simp [storeField, read]⟩
    | ok kind =>
      refine .inr ⟨_, none, .kind read, by simp, fun r keys => ?_⟩
      simp [storeField, read]
  by_cases modes : key = "modes".toList
  · subst modes
    cases spent : isSpent (Text.trimStart value) with
    | true =>
      refine .inr ⟨_, some (.modes (entry.keyColumn.getD 0) none), .modes .absent,
        by simp [Block.column?], fun r keys => ?_⟩
      simp [storeField, spent]
    | false =>
      cases read : modesValue (Text.trimStart value) with
      | error fault => exact .inl ⟨fault, fun r keys => by simp [storeField, spent, read]⟩
      | ok modes =>
        refine .inr ⟨_, none, .modes modes, by simp, fun r keys => ?_⟩
        simp [storeField, spent, read]
  · refine .inr ⟨entry.raw, some (.skip (entry.keyColumn.getD 0)), .ignored token kind,
      by simp [Block.column?], fun r keys => ?_⟩
    simp only [storeField, token, kind, modes, if_false, Option.getD_some]

/-- What storing a key does: the key is put to the keys of the entry, and a block may be opened at
their column. -/
theorem storeField_cases {entry : OpenEntry} {key value : List Char}
    (step : r.storeField entry key value = .ok r') :
    ∃ raw block, r' = { r with
        current := some { raw, keys := key :: entry.keys, keyColumn := entry.keyColumn }, block } ∧
      Stores entry.raw value key raw ∧
      (block = r.block ∨ block.column? = some (entry.keyColumn.getD 0)) := by
  obtain ⟨fault, refused⟩ | ⟨raw, block?, stores, opens, stored⟩ :=
    storeField_uniform entry key value
  · cases (refused r entry.keys).symm.trans step
  · have after := Except.ok.inj (step.symm.trans (stored r entry.keys))
    refine ⟨raw, block?.getD r.block, after, stores, ?_⟩
    cases block? with
    | none => exact .inl rfl
    | some block => exact .inr (opens block rfl)

/-- A key of an entry is one that the entry did not have. -/
theorem entryField_cases {text : List Char} (step : r.entryField text = .ok r') :
    ∃ entry key value, r.current = some entry ∧ key ∉ entry.keys ∧
      splitKey text = .ok (some (key, value)) ∧ r.storeField entry key value = .ok r' := by
  unfold entryField at step
  split at step
  · cases step
  · split at step
    · cases step
    · cases step
    · rename_i key value found
      split at step
      · cases step
      · rename_i entry current
        split at step
        · cases step
        · rename_i fresh
          exact ⟨entry, key, value, current, by simpa using fresh, found, step⟩

/-- A dash closes the entry before it and begins one, the first key of which may stand behind it. -/
theorem startEntry_cases {column : Nat} {content body : List Char}
    (step : r.startEntry column content body = .ok r') :
    body.isEmpty = true ∧ r' = { r.closeEntry with current := some {}, block := .none } ∨
      body.isEmpty = false ∧ { r.closeEntry with
        current := some
          { keyColumn := some (column + Text.byteLength content - Text.byteLength body) }
        block := .none }.entryField body = .ok r' := by
  unfold startEntry at step
  dsimp only at step
  split at step
  · rename_i bare
    exact .inl ⟨bare, (Except.ok.inj step).symm⟩
  · rename_i filled
    exact .inr ⟨by simpa using filled, step⟩

/-- A mode is added to the modes of the open entry. -/
theorem addMode_cases {body : List Char} (step : r.addMode body = .ok r') :
    ∃ entry item, r.current = some entry ∧ modeItem body = .ok item ∧
      r' = { r with current := some { entry with
        raw := { entry.raw with modes := entry.raw.modes.push item } } } := by
  unfold addMode at step
  split at step
  · cases step
  · rename_i item read
    split at step
    · cases step
    · rename_i entry current
      exact ⟨entry, item, current, read, (Except.ok.inj step).symm⟩

/-- A line of an entry that belongs to no block is no list item and stands at the column of its
keys. -/
theorem keyLine_cases {column : Nat} {content : List Char}
    (step : r.keyLine column content = .ok r') :
    ∃ entry, r.current = some entry ∧ itemBody? content = none ∧
      entry.keyColumn.getD column = column ∧
      { r with current := some { entry with keyColumn := some column } }.entryField content
        = .ok r' := by
  unfold keyLine at step
  split at step
  · cases step
  · rename_i entry current
    split at step
    · cases step
    · rename_i item
      dsimp only at step
      split at step
      · cases step
      · rename_i same
        have same : entry.keyColumn.getD column = column := by omega
        rw [same] at step
        exact ⟨entry, current, by simpa using item, same, step⟩

/-- A line deeper than the dashes is an item of the list of modes that is open, or else that list
ends there and the line is one of the entry. -/
theorem deepLine_cases {column : Nat} {content : List Char}
    (step : r.deepLine column content = .ok r') :
    (∃ keyColumn itemColumn body, r.block = .modes keyColumn itemColumn ∧
        itemBody? content = some body ∧ keyColumn ≤ column ∧ itemColumn.getD column = column ∧
        { r with block := .modes keyColumn (some column) }.addMode body = .ok r') ∨
      ∃ block, (block = .none ∨ block = r.block ∧ ∃ deeperThan, block = .skip deeperThan) ∧
        { r with block }.keyLine column content = .ok r' := by
  unfold deepLine at step
  cases open_ : r.block with
  | none =>
    simp only [open_] at step
    exact .inr ⟨.none, .inl rfl, by rw [← open_]; exact step⟩
  | skip deeperThan =>
    simp only [open_] at step
    exact .inr ⟨.skip deeperThan, .inr ⟨rfl, deeperThan, rfl⟩, by rw [← open_]; exact step⟩
  | modes keyColumn itemColumn =>
    cases item : itemBody? content with
    | none =>
      simp only [open_, item] at step
      exact .inr ⟨.none, .inl rfl, step⟩
    | some body =>
      simp only [open_, item] at step
      split at step
      · rename_i fits
        exact .inl ⟨keyColumn, itemColumn, body, rfl, rfl, fits.1, fits.2, step⟩
      · cases step

/-- A dash in the column of the dashes begins an entry of the list. -/
theorem listLine_of_dash {column : Nat} {content body : List Char}
    (item : itemBody? content = some body) (here : r.entryColumn.getD column = column) :
    r.listLine column content =
      { r with entryColumn := some column }.startEntry column content body := by
  unfold Reader.listLine
  cases known : r.entryColumn with
  | none => simp only [item]
  | some dash =>
    rw [known, Option.getD_some] at here
    simp only [item, here, Nat.lt_irrefl, if_false, if_true]
    rw [← here, ← known]

/-- A line deeper than the dashes belongs to the open entry. -/
theorem listLine_of_deeper {column dash : Nat} (content : List Char)
    (known : r.entryColumn = some dash) (deeper : dash < column) :
    r.listLine column content = r.deepLine column content := by
  simp only [listLine, known]
  rw [if_neg (Nat.lt_asymm deeper), if_neg (Nat.ne_of_gt deeper)]

/-- A line in the list of entries is a dash in the column of the first one, or it stands deeper. -/
theorem listLine_cases {column : Nat} {content : List Char}
    (step : r.listLine column content = .ok r') :
    (∃ body, itemBody? content = some body ∧ r.entryColumn.getD column = column ∧
        { r with entryColumn := some column }.startEntry column content body = .ok r') ∨
      ∃ dash, r.entryColumn = some dash ∧ dash < column ∧ r.deepLine column content = .ok r' := by
  unfold listLine at step
  split at step
  · cases step
  · rename_i body unknown item
    exact .inl ⟨body, item, by rw [unknown]; rfl, step⟩
  · rename_i dash known
    split at step
    · cases step
    · split at step
      · rename_i here
        subst here
        split at step
        · rename_i body item
          refine .inl ⟨body, item, by rw [known]; rfl, ?_⟩
          rw [← known]
          exact step
        · cases step
      · exact .inr ⟨dash, known, by omega, step⟩

/-- A line among the entries is passed over, or no ignored content is open for it. -/
theorem entriesLine_cases {column : Nat} {content : List Char}
    (step : r.entriesLine column content = .ok r') :
    (∃ deeperThan, r.block = .skip deeperThan ∧ deeperThan < column ∧ r' = r) ∨
      ∃ block, (∀ deeperThan, block ≠ .skip deeperThan) ∧ (block = .none ∨ block = r.block) ∧
        { r with block }.listLine column content = .ok r' := by
  unfold entriesLine at step
  split at step
  · rename_i deeperThan skip
    split at step
    · rename_i deeper
      exact .inl ⟨deeperThan, skip, deeper, (Except.ok.inj step).symm⟩
    · exact .inr ⟨.none, by simp, .inl rfl, step⟩
  · rename_i noSkip
    exact .inr ⟨r.block, noSkip, .inr rfl, step⟩

/-- The key of the entries leads into their list, or past it when it is empty. -/
theorem openEntries_cases {value : List Char} (step : r.openEntries value = .ok r') :
    ∃ place, r' = { r with place } ∧ (place = .entries ∨ place = .inline) := by
  unfold openEntries at step
  dsimp only at step
  split at step
  · exact ⟨.entries, (Except.ok.inj step).symm, .inl rfl⟩
  · split at step
    · split at step
      · cases step
      · exact ⟨.inline, (Except.ok.inj step).symm, .inr rfl⟩
      · cases step
    · split at step
      · cases step
      · exact ⟨.inline, (Except.ok.inj step).symm, .inr rfl⟩
      · cases step

/-- A key at the margin is one that was not there before; the open entry is closed. -/
theorem topLevel_cases {content : List Char} (step : r.topLevel content = .ok r') :
    ∃ key value, splitKey content = .ok (some (key, value)) ∧ key ∉ r.topKeys ∧
      ∃ place, r' = { r.closeEntry with topKeys := key :: r.topKeys, block := .none, place } ∧
        (place = .other ∨ key = entriesKey.toList ∧ (place = .entries ∨ place = .inline)) := by
  unfold topLevel at step
  split at step
  · cases step
  · cases step
  · rename_i key value found
    split at step
    · cases step
    · rename_i fresh
      refine ⟨key, value, found, by simpa using fresh, ?_⟩
      dsimp only at step
      split at step
      · rename_i entries
        obtain ⟨place, after, inside⟩ := openEntries_cases step
        exact ⟨place, after, .inr ⟨entries, inside⟩⟩
      · exact ⟨.other, (Except.ok.inj step).symm, .inl rfl⟩

/-- A line with content is a key at the margin, or it belongs to what stands under one. -/
theorem contentLine_cases {column : Nat} {content : List Char}
    (step : r.contentLine column content = .ok r') :
    (column = 0 ∧ itemBody? content = none ∧
        { r with sawContent := true }.topLevel content = .ok r') ∨
      ¬(column = 0 ∧ itemBody? content = none) ∧
        (r.place = .other ∧ r' = { r with sawContent := true } ∨
          r.place = .entries ∧
            { r with sawContent := true }.entriesLine column content = .ok r') := by
  unfold contentLine at step
  dsimp only at step
  simp only [Option.isNone_iff_eq_none] at step
  split at step
  · rename_i margin
    exact .inl ⟨margin.1, margin.2, step⟩
  · rename_i inside
    refine .inr ⟨inside, ?_⟩
    cases place : r.place with
    | start => simp [place] at step
    | inline => simp [place] at step
    | other =>
      simp only [place] at step
      exact .inl ⟨rfl, (Except.ok.inj step).symm⟩
    | entries =>
      simp only [place] at step
      exact .inr ⟨rfl, step⟩

/-- A line is quiet, or it is read as its content at its column. -/
theorem line_cases {text : List Char} (step : r.line text = .ok r') :
    IsQuiet r text ∧ r' = r ∨ isNoise text = false ∧ isTabbed text = false ∧
      ¬(columnOf text = 0 ∧ isDocumentStart (contentOf text) = true) ∧
      r.contentLine (columnOf text) (contentOf text) = .ok r' := by
  rw [line_eq] at step
  split at step
  · rename_i noise
    exact .inl ⟨.inl noise, (Except.ok.inj step).symm⟩
  · rename_i loud
    split at step
    · cases step
    · rename_i spaced
      split at step
      · rename_i mark
        split at step
        · cases step
        · rename_i unseen
          exact .inl ⟨.inr ⟨by simpa using spaced, mark, by simpa using unseen⟩,
            (Except.ok.inj step).symm⟩
      · rename_i noMark
        exact .inr ⟨by simpa using loud, by simpa using spaced, noMark, step⟩

end Cases

namespace Sound

variable {r r' : Reader} {column : Nat} {content : List Char}

/-- Before the key of the entries no dash of theirs was read. -/
theorem entryColumn_eq_none (sound : Sound r) (fresh : entriesKey.toList ∉ r.topKeys) :
    r.entryColumn = none := by
  cases known : r.entryColumn with
  | none => rfl
  | some dash => exact absurd (sound.entered (.inr (.inr (by rw [known]; rfl)))) fresh

/-- What is open may be closed. -/
theorem closeBlock (sound : Sound r) : Sound { r with block := .none } where
  entered := sound.entered
  current := sound.current
  saw := sound.saw
  deeper := sound.deeper
  block := by simp [Block.column?]

/-- The open entry may be read on, and a block may be opened at the column of its keys. -/
theorem update (sound : Sound r) {entry next : OpenEntry} (current : r.current = some entry)
    (keyColumn : next.keyColumn = entry.keyColumn) {block : Block}
    (under : ∀ column ∈ block.column?, entry.keyColumn = some column) :
    Sound { r with current := some next, block } where
  entered := sound.entered
  current := by simpa [current] using sound.current
  saw := by simpa [current] using sound.saw
  deeper := by simpa [current, keyColumn] using sound.deeper
  block := by simpa [keyColumn] using under

/-- The keys of the open entry may stand anywhere behind its dash. -/
theorem placeKeys (sound : Sound r) {entry : OpenEntry} (current : r.current = some entry)
    (noBlock : r.block = .none) (behind : ∀ dash ∈ r.entryColumn, dash < column) :
    Sound { r with current := some { entry with keyColumn := some column } } where
  entered := sound.entered
  current := by simpa [current] using sound.current
  saw := by simpa [current] using sound.saw
  deeper := by simpa using behind
  block := by simp [noBlock, Block.column?]

/-- An entry may begin behind a dash in the list of entries. -/
theorem opened (place : r.place = .entries) (entered : entriesKey.toList ∈ r.topKeys)
    (saw : r.sawContent = true) (dash : r.entryColumn = some column) {entry : OpenEntry}
    (deeper : ∀ keys ∈ entry.keyColumn, column < keys) :
    Sound { r.closeEntry with current := some entry, block := .none } := by
  rw [closeEntry_eq]
  exact {
    entered := fun _ => entered
    current := by simp [place, dash]
    saw := fun _ => saw
    deeper := by simpa [dash] using deeper
    block := by simp [Block.column?] }

/-- A field keeps what is remembered consistent. -/
theorem entryField (sound : Sound r) (noBlock : r.block = .none) {entry : OpenEntry}
    (current : r.current = some entry) (known : entry.keyColumn = some column)
    (step : r.entryField content = .ok r') : Sound r' := by
  obtain ⟨entry', key, value, current', -, -, stored⟩ := entryField_cases step
  obtain ⟨raw, block, after, -, opens⟩ := storeField_cases stored
  have same : entry' = entry := Option.some.inj (current'.symm.trans current)
  rw [after]
  apply sound.update current'
  · rfl
  intro place under
  cases opens with
  | inl same =>
    rw [same, noBlock] at under
    cases under
  | inr here =>
    rw [here, same, known, Option.getD_some] at under
    rw [same, known, Option.mem_some.mp under]

/-- A dash that begins an entry keeps what is remembered consistent. -/
theorem startEntry (place : r.place = .entries) (entered : entriesKey.toList ∈ r.topKeys)
    (saw : r.sawContent = true) (dash : r.entryColumn = some column) {body : List Char}
    (item : itemBody? content = some body) (step : r.startEntry column content body = .ok r') :
    Sound r' := by
  have shorter := byteLength_itemBody? item
  obtain ⟨-, after⟩ | ⟨-, read⟩ := startEntry_cases step
  · rw [after]
    exact opened place entered saw dash (by simp)
  · have deeper : column < column + Text.byteLength content - Text.byteLength body := by omega
    refine entryField ?_ rfl rfl rfl read
    exact opened place entered saw dash (by simpa using deeper)

/-- A line at the key column keeps what is remembered consistent. -/
theorem keyLine (sound : Sound r) (noBlock : r.block = .none)
    (behind : ∀ dash ∈ r.entryColumn, dash < column)
    (step : r.keyLine column content = .ok r') : Sound r' := by
  obtain ⟨entry, current, -, -, stored⟩ := keyLine_cases step
  exact (sound.placeKeys current noBlock behind).entryField noBlock rfl rfl stored

/-- A line deeper than the dashes keeps what is remembered consistent. -/
theorem deepLine (sound : Sound r) (noSkip : ∀ column, r.block ≠ .skip column)
    (behind : ∀ dash ∈ r.entryColumn, dash < column)
    (step : r.deepLine column content = .ok r') : Sound r' := by
  obtain ⟨keyColumn, itemColumn, body, open_, -, -, -, read⟩ | ⟨block, closed, read⟩ :=
    deepLine_cases step
  · obtain ⟨entry, mode, current, -, after⟩ := addMode_cases read
    obtain ⟨entry', same, keys⟩ := sound.block keyColumn (by rw [open_]; rfl)
    have same : entry' = entry := Option.some.inj (same.symm.trans current)
    rw [after]
    apply sound.update current
    · rfl
    intro column under
    rw [← same, keys]
    exact under
  · obtain rfl | ⟨same, deeperThan, skip⟩ := closed
    · exact sound.closeBlock.keyLine rfl behind read
    · exact absurd (same.symm.trans skip) (noSkip deeperThan)

/-- A line of the entry list keeps what is remembered consistent. -/
theorem listLine (sound : Sound r) (place : r.place = .entries) (saw : r.sawContent = true)
    (noSkip : ∀ column, r.block ≠ .skip column)
    (step : r.listLine column content = .ok r') : Sound r' := by
  have entered := sound.entered (.inl place)
  obtain ⟨body, item, -, read⟩ | ⟨dash, known, deeper, read⟩ := listLine_cases step
  · exact startEntry (r := { r with entryColumn := some column }) place entered saw rfl item read
  · have behind : ∀ dash ∈ r.entryColumn, dash < column := by
      intro dash' mem
      rw [known] at mem
      rwa [← Option.mem_some.mp mem]
    exact sound.deepLine noSkip behind read

/-- A line of the list's section keeps what is remembered consistent. -/
theorem entriesLine (sound : Sound r) (place : r.place = .entries) (saw : r.sawContent = true)
    (step : r.entriesLine column content = .ok r') : Sound r' := by
  obtain ⟨-, -, -, after⟩ | ⟨block, noSkip, closed, read⟩ := entriesLine_cases step
  · rw [after]
    exact sound
  · obtain rfl | rfl := closed
    · exact sound.closeBlock.listLine place saw noSkip read
    · exact sound.listLine place saw noSkip read

/-- A top-level line keeps what is remembered consistent. -/
theorem topLevel (sound : Sound r) (step : r.topLevel content = .ok r') : Sound r' := by
  obtain ⟨key, value, -, fresh, place, after, other⟩ := topLevel_cases step
  rw [after, closeEntry_eq]
  exact {
    entered := by
      cases other with
      | inl other => simpa [other] using fun known => .inr (sound.entered (.inr (.inr known)))
      | inr entries => simp [entries.1]
    current := by
      cases other with
      | inl other => simp [other]
      | inr entries =>
        -- The key is new, so no dash of a list was read before.
        rw [entries.1] at fresh
        simp [sound.entryColumn_eq_none fresh]
    saw := by simp
    deeper := by simp
    block := by simp [Block.column?] }

/-- A line with content keeps what is remembered consistent. -/
theorem contentLine (sound : Sound r) (step : r.contentLine column content = .ok r') :
    Sound r' := by
  have seen : Sound { r with sawContent := true } :=
    ⟨sound.entered, sound.current, fun _ => rfl, sound.deeper, sound.block⟩
  obtain ⟨-, -, top⟩ | ⟨-, ⟨-, after⟩ | ⟨place, list⟩⟩ := contentLine_cases step
  · exact seen.topLevel top
  · rw [after]
    exact seen
  · exact seen.entriesLine place rfl list

/-- Every line that is accepted keeps what is remembered consistent. -/
theorem line (sound : Sound r) {text : List Char} (step : r.line text = .ok r') : Sound r' := by
  obtain ⟨-, rfl⟩ | ⟨-, -, -, read⟩ := line_cases step
  · exact sound
  · exact sound.contentLine read

/-- Between any two lines of an accepted text, what is remembered is consistent. -/
theorem lines (sound : Sound r) {lines : List (List Char)} {number : Nat}
    (run : r.lines number lines = .ok r') : Sound r' := by
  induction lines generalizing r number with
  | nil =>
    rw [Reader.lines] at run
    rw [← Except.ok.inj run]
    exact sound
  | cons text rest ih =>
    obtain ⟨next, step, onward⟩ := exists_line_of_cons run
    exact ih (sound.line step) onward

end Sound

end Reader

end CatalogAudit.Manifest.Line
