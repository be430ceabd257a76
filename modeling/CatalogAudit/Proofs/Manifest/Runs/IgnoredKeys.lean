import CatalogAudit.Proofs.Manifest.Runs.ExtraKeys

/-!
# Ignored keys

A key that has no meaning, of an entry or of the top level, may be put behind what stands under
another key, with content of its own nested under it. The reader remembers the key, and nothing
else, so the entries stay the same. There is one exception: under a key of an entry a list whose
dashes stand at the column of the key is not taken for content of that key, and the text is refused.
-/

namespace CatalogAudit.Manifest.Line

/-- The line may be nested under a key at the column: if it says something it stands deeper, or it
is a list item at the column of the key. -/
def IsNested (column : Nat) (line : List Char) : Prop :=
  isNoise line = true ∨ column < columnOf line ∨
    columnOf line = column ∧ (itemBody? (contentOf line)).isSome = true

/-- The line is passed over under an ignored key of an entry at the column. -/
def IsSkipped (column : Nat) (line : List Char) : Prop :=
  isNoise line = true ∨ column < columnOf line ∧ isTabbed line = false

instance (column : Nat) (line : List Char) : Decidable (IsNested column line) :=
  inferInstanceAs (Decidable (_ ∨ _ ∨ _))

instance (column : Nat) (line : List Char) : Decidable (IsSkipped column line) :=
  inferInstanceAs (Decidable (_ ∨ _))

/-- The line begins a section of the top level, if it says something. -/
def BeginsSection (line : List Char) : Prop :=
  columnOf line = 0 ∧ itemBody? (contentOf line) = none ∧ isDocumentStart (contentOf line) = false

/-- The first line that says something. -/
def firstLoud? (lines : List (List Char)) : Option (List Char) :=
  lines.find? fun line => !isNoise line

namespace Reader

variable {r next : Reader} {column : Nat} {line : List Char}

/-- A top-level line does not ask what was open before it. -/
theorem topLevel_block (r : Reader) (block : Block) (content : List Char) :
    { r with block }.topLevel content = r.topLevel content := by
  cases r with
  | mk place topKeys sawContent entryColumn current block' entries => cases current <;> rfl

/-- A dash that begins an entry does not ask what was open before it. -/
theorem startEntry_block (r : Reader) (block : Block) (column : Nat) (content body : List Char) :
    { r with block }.startEntry column content body = r.startEntry column content body := by
  cases r with
  | mk place topKeys sawContent entryColumn current block' entries => cases current <;> rfl

/-- Where nothing is open, to close it changes nothing. -/
theorem eq_of_block_none (open_ : r.block = .none) : { r with block := .none } = r := by
  cases r with
  | mk place topKeys sawContent entryColumn current block entries =>
    cases open_
    rfl

/-- The reader is in an entry whose keys stand at the column, as does what is open under one. -/
structure AtKeys (r : Reader) (entry : OpenEntry) (column : Nat) : Prop where
  /-- It is in the list of entries. -/
  place : r.place = .entries
  /-- It has seen content. -/
  saw : r.sawContent = true
  /-- The entry is open. -/
  current : r.current = some entry
  /-- Its keys stand at the column. -/
  known : entry.keyColumn = some column
  /-- They stand behind the dash. -/
  behind : ∃ dash, r.entryColumn = some dash ∧ dash < column
  /-- What is open stands at the column. -/
  under : ∀ d ∈ r.block.column?, d = column

/-- A reader with an open entry of known column is at the keys of that entry. -/
theorem Sound.atKeys (sound : Sound r) {entry : OpenEntry} (current : r.current = some entry)
    (known : entry.keyColumn = some column) : AtKeys r entry column := by
  have open_ : r.current.isSome = true := by rw [current]; rfl
  obtain ⟨place, first⟩ := sound.current.mp open_
  obtain ⟨dash, first⟩ := Option.isSome_iff_exists.mp first
  refine ⟨place, sound.saw open_, current, known, ⟨dash, first, ?_⟩, ?_⟩
  · exact sound.deeper entry current dash first column known
  · intro d mem
    obtain ⟨entry', same, stands⟩ := sound.block d mem
    rw [current, Option.mem_some] at same
    rw [← same, known] at stands
    exact (Option.some.inj stands).symm

variable {entry : OpenEntry}

/-- At the column of the keys of an entry every block is closed by a line that is no list item. -/
theorem AtKeys.entriesLine_eq (at_ : AtKeys r entry column) {content : List Char}
    (item : itemBody? content = none) :
    r.entriesLine column content = { r with block := .none }.keyLine column content := by
  obtain ⟨dash, first, behind⟩ := at_.behind
  cases open_ : r.block with
  | none =>
    rw [eq_of_block_none open_]
    simp only [entriesLine, listLine, deepLine, open_, first]
    rw [if_neg (by omega), if_neg (by omega)]
  | modes keyColumn itemColumn =>
    simp only [entriesLine, listLine, deepLine, open_, first, item]
    rw [if_neg (by omega), if_neg (by omega)]
  | skip deeperThan =>
    have here : deeperThan = column := at_.under deeperThan (by rw [open_]; rfl)
    simp only [entriesLine, listLine, deepLine, open_, first, here]
    rw [if_neg (by omega), if_neg (by omega), if_neg (by omega)]

/-- In an entry, content has been seen. -/
theorem AtKeys.sawContent_eq (at_ : AtKeys r entry column) : { r with sawContent := true } = r := by
  rw [← at_.saw]

/-- Closing what is open under a key keeps the reader at the keys. -/
theorem AtKeys.closeBlock (at_ : AtKeys r entry column) :
    AtKeys { r with block := .none } entry column :=
  ⟨at_.place, at_.saw, at_.current, at_.known, at_.behind, by simp [Block.column?]⟩

/-- No line of an entry stands at the margin. -/
theorem AtKeys.column_pos (at_ : AtKeys r entry column) : 0 < column := by
  obtain ⟨dash, -, behind⟩ := at_.behind
  omega

/-- In the list of entries a line off the margin is read as one of the list. -/
theorem AtKeys.contentLine_eq (at_ : AtKeys r entry column) {place : Nat} {content : List Char}
    (inside : ¬(place = 0 ∧ itemBody? content = none)) :
    r.contentLine place content = r.entriesLine place content := by
  rw [contentLine, at_.sawContent_eq, if_neg (by simpa using inside)]
  simp only [at_.place]

/-- A key that is no field of an entry is remembered, and what stands under it is skipped. -/
theorem storeField_ignored {key : List Char} (other : ∀ f : Layout.Field, key ≠ f.name)
    (value : List Char) :
    r.storeField entry key value = .ok { r with
      current := some { entry with keys := key :: entry.keys }
      block := .skip (entry.keyColumn.getD 0) } := by
  have noToken : key ≠ "token".toList := other .token
  have noKind : key ≠ "kind".toList := other .kind
  have noModes : key ≠ "modes".toList := other .modes
  unfold storeField
  dsimp only
  rw [if_neg noToken, if_neg noKind, if_neg noModes]

/-- The reader under an ignored key of the open entry. -/
def underEntryKey (r : Reader) (entry : OpenEntry) (column : Nat) (key : List Char) : Reader :=
  { r with current := some { entry with keys := key :: entry.keys }, block := .skip column }

/-- An ignored key is put to the keys of the entry, and what is nested under it will be skipped. -/
theorem AtKeys.line_of_isKeyLine (at_ : AtKeys r entry column) {key text : List Char}
    (is : IsKeyLine column key text) (other : ∀ f : Layout.Field, key ≠ f.name)
    (absent : key ∉ entry.keys) :
    r.line text = .ok (r.underEntryKey entry column key) := by
  obtain ⟨value, splits⟩ := is.splits
  have positive := at_.column_pos
  have stands : entry.keyColumn.getD column = column := by rw [at_.known, Option.getD_some]
  have same : { entry with keyColumn := some column } = entry := by rw [← at_.known]
  have read := keyLine_eq (r := { r with block := .none }) at_.current is.noItem stands
  rw [Reader.line_of_isKeyLine r is, at_.contentLine_eq (by omega), at_.entriesLine_eq is.noItem,
    read, same, entryField_eq rfl splits absent, storeField_ignored other, Reader.underEntryKey,
    at_.known, Option.getD_some]

/-- Where ignored content ends, the line is read as if there had been none. -/
theorem AtKeys.line_of_skip (at_ : AtKeys r entry column) (skip : r.block = .skip column)
    (loud : isNoise line = false) (left : columnOf line ≤ column) :
    r.line line = { r with block := .none }.line line := by
  rw [line_eq, line_eq, loud, if_neg Bool.false_ne_true, if_neg Bool.false_ne_true]
  split
  · rfl
  · split
    · simp only [at_.saw, if_true]
    · rw [contentLine, contentLine]
      dsimp only
      split
      · exact (topLevel_block { r with sawContent := true } .none _).symm
      · simp only [at_.place, entriesLine, skip]
        rw [if_neg (by omega)]

/-- A line left of the keys is read the same whatever is open under one of them. -/
theorem AtKeys.entriesLine_of_left (at_ : AtKeys r entry column) {place : Nat} {content : List Char}
    (left : place < column) (step : r.entriesLine place content = .ok next) :
    { r with block := .none }.entriesLine place content = .ok next := by
  obtain ⟨deeperThan, skip, deeper, -⟩ | ⟨block, noSkip, closed, list⟩ := entriesLine_cases step
  · have here : deeperThan = column := at_.under deeperThan (by rw [skip]; rfl)
    omega
  · obtain ⟨body, item, here, begins⟩ | ⟨dash, known, behind, deep⟩ := listLine_cases list
    · have same := startEntry_block { r with entryColumn := some place } .none place content body
      have other := startEntry_block { r with entryColumn := some place } block place content body
      have dash := listLine_of_dash (r := { r with block := .none }) item here
      exact (dash.trans (same.trans other.symm)).trans begins
    · have deeper := listLine_of_deeper (r := { r with block := .none }) content known behind
      refine deeper.trans ?_
      obtain ⟨keyColumn, itemColumn, body, open_, item, fits, -⟩ | ⟨below, open_, keys⟩ :=
        deepLine_cases deep
      · -- An item of the list of modes would not stand left of the keys.
        have modes : r.block = .modes keyColumn itemColumn := by
          rcases closed with rfl | rfl
          · cases open_
          · exact open_
        have here : keyColumn = column := at_.under keyColumn (by rw [modes]; rfl)
        omega
      · rcases open_ with rfl | ⟨rfl, deeperThan, skip⟩
        · exact keys
        · exact absurd skip (noSkip deeperThan)

/-- A line that is not nested under a key is read as if nothing were open under it. -/
theorem AtKeys.line_of_not_nested (at_ : AtKeys r entry column) (apart : ¬IsNested column line)
    (step : r.line line = .ok next) : { r with block := .none }.line line = .ok next := by
  rw [IsNested, not_or, not_or, Bool.not_eq_true] at apart
  obtain ⟨loud, left, noItem⟩ := apart
  obtain ⟨noise | ⟨-, -, unseen⟩, -⟩ | ⟨-, spaced, noMark, read⟩ := line_cases step
  · rw [loud] at noise
    cases noise
  · rw [at_.saw] at unseen
    cases unseen
  · rw [line_of_loud _ loud spaced noMark]
    by_cases margin : columnOf line = 0 ∧ itemBody? (contentOf line) = none
    · have top : (columnOf line = 0 ∧ (itemBody? (contentOf line)).isNone = true) := by
        simpa using margin
      rw [contentLine, if_pos top] at read ⊢
      have same := topLevel_block { r with sawContent := true } .none (contentOf line)
      exact same.trans read
    · rw [at_.contentLine_eq margin] at read
      rw [at_.closeBlock.contentLine_eq margin]
      by_cases here : columnOf line = column
      · have item : itemBody? (contentOf line) = none := by simpa [here] using noItem
        rw [here] at read ⊢
        rw [at_.entriesLine_eq item] at read
        rw [at_.closeBlock.entriesLine_eq item]
        exact read
      · exact at_.entriesLine_of_left (by omega) read

/-- Nested under an ignored key a line leads nowhere if it is skipped, and else it is refused. -/
theorem AtKeys.line_eq_ok_iff (at_ : AtKeys r entry column) (skip : r.block = .skip column)
    (nested : IsNested column line) :
    r.line line = .ok next ↔ next = r ∧ IsSkipped column line := by
  obtain ⟨dash, first, behind⟩ := at_.behind
  rw [line_eq]
  split
  · rename_i noise
    rw [Except.ok.injEq, eq_comm]
    exact (and_iff_left (.inl noise)).symm
  · rename_i loud
    have place : column < columnOf line ∨
        columnOf line = column ∧ (itemBody? (contentOf line)).isSome = true := by
      simpa [IsNested, loud] using nested
    split
    · rename_i tabbed
      simp [IsSkipped, loud, tabbed]
    · rename_i spaced
      rw [if_neg (by omega), at_.contentLine_eq (by omega), entriesLine, skip]
      dsimp only
      split
      · rename_i deeper
        rw [Except.ok.injEq, eq_comm]
        refine (and_iff_left (.inr ⟨deeper, ?_⟩)).symm
        simpa using spaced
      · rename_i level
        have item : (itemBody? (contentOf line)).isSome = true := by
          cases place with
          | inl deeper => omega
          | inr item => exact item.2
        have refused : { r with block := .none }.listLine (columnOf line) (contentOf line)
            = .error .listItem := by
          simp only [listLine, deepLine, keyLine, first, at_.current]
          rw [if_neg (by omega), if_neg (by omega), if_pos item]
        rw [refused]
        simp [IsSkipped, loud, level]

/-- Lines each of which leads nowhere or is refused lead nowhere, unless one is refused. -/
theorem lines_eq_ok_iff {stays : List Char → Prop} {lines : List (List Char)}
    (each : ∀ line ∈ lines, ∀ next, r.line line = .ok next ↔ next = r ∧ stays line)
    (number : Nat) : r.lines number lines = .ok next ↔ next = r ∧ ∀ line ∈ lines, stays line := by
  induction lines generalizing number with
  | nil =>
    rw [Reader.lines, Except.ok.injEq, eq_comm]
    simp
  | cons text rest ih =>
    rw [List.forall_mem_cons] at each ⊢
    constructor
    · intro run
      obtain ⟨between, step, onward⟩ := exists_line_of_cons run
      obtain ⟨rfl, here⟩ := (each.1 between).mp step
      obtain ⟨same, others⟩ := (ih each.2 (number + 1)).mp onward
      exact ⟨same, here, others⟩
    · rintro ⟨same, here, others⟩
      rw [Reader.lines, (each.1 r).mpr ⟨rfl, here⟩]
      exact (ih each.2 (number + 1)).mpr ⟨same, others⟩

/-- Keys new to the rest of an entry are so from another reader that reads the next line alike. -/
theorem AreNew.of_line {own : List (List Char)} {r' : Reader} {rest : List (List Char)}
    (new : AreNew own r (line :: rest)) (current : r'.current = r.current)
    (entries : r'.entries = r.entries) (step : r.line line = .ok next)
    (step' : r'.line line = .ok next) : AreNew own r' (line :: rest) := by
  intro later rest' s split run kept entry' open_
  rw [entries] at kept
  cases later with
  | nil =>
    rw [← Except.ok.inj (run 0), current] at open_
    exact new [] (line :: rest) r rfl (reads_nil r) rfl entry' open_
  | cons first later =>
    obtain ⟨between, first_, onward⟩ := exists_line_of_reads run
    rw [← (List.cons.inj split).1, step'] at first_
    rw [← Except.ok.inj first_] at onward
    rw [← (List.cons.inj split).1] at split
    exact new (line :: later) rest' s split (reads_cons step onward) kept entry' open_

/-- Under an ignored key the reader is still at the keys, with that one among them. -/
theorem AtKeys.underEntryKey (at_ : AtKeys r entry column) (key : List Char) :
    AtKeys (r.underEntryKey entry column key) { entry with keys := key :: entry.keys } column :=
  ⟨at_.place, at_.saw, rfl, at_.known, at_.behind, by simp [Reader.underEntryKey, Block.column?]⟩

/-- Behind an ignored key and what is nested under it, the reader reads on as it would have. -/
theorem AtKeys.exists_reads_after (at_ : AtKeys r entry column) {key : List Char}
    {after : List (List Char)} {last : Reader}
    (ends : ∀ line ∈ firstLoud? after, ¬IsNested column line) (new : AreNew [key] r after)
    (reads : Reads r after last) :
    ∃ last', Reads (r.underEntryKey entry column key) after last' ∧
      last'.finish = last.finish := by
  induction after with
  | nil =>
    have same : r = last := Except.ok.inj (reads 0)
    refine ⟨_, reads_nil _, ?_⟩
    rw [← same]
    simp [Reader.underEntryKey, finish, closeEntry, at_.current]
  | cons text rest ih =>
    obtain ⟨next, step, onward⟩ := exists_line_of_reads reads
    cases noise : isNoise text with
    | true =>
      rw [line_of_isNoise r noise, Except.ok.injEq] at step
      rw [← step] at onward
      obtain ⟨last', reads', same⟩ := ih (by simpa [firstLoud?, noise] using ends)
        (new.onward (line_of_isNoise r noise) rfl) onward
      exact ⟨last', reads_cons (line_of_isNoise _ noise) reads', same⟩
    | false =>
      -- The line closes what is open in both readers; from there on they differ in the key only.
      have apart : ¬IsNested column text := by simpa [firstLoud?, noise] using ends
      have left : columnOf text ≤ column := by
        rw [IsNested, not_or, not_or] at apart
        omega
      have closed := at_.line_of_not_nested apart step
      have beside : Option.Rel (OpenEntry.Beside [key]) { r with block := .none }.current
          (some { entry with keys := key :: entry.keys }) := by
        simp only [at_.current]
        exact .some ⟨_, rfl, adds_single key entry.keys⟩
      obtain ⟨last', reads', same⟩ := exists_reads_beside (r := { r with block := .none })
        (adds_nil r.topKeys) beside (reads_cons closed onward) (by simp) (by simp)
        (new.of_line rfl rfl step closed)
      obtain ⟨next', step', onward'⟩ := exists_line_of_reads reads'
      refine ⟨last', reads_cons ?_ onward', same⟩
      rw [(at_.underEntryKey key).line_of_skip rfl noise left]
      exact step'

/-- The reader behind what it has read at the top level. -/
def closeSection (r : Reader) : Reader :=
  { r.closeEntry with place := .other, sawContent := true, block := .none }

/-- The reader under an ignored key of the top level. -/
def underKey (r : Reader) (key : List Char) : Reader :=
  { r.closeSection with topKeys := key :: r.topKeys }

/-- What ends a section changes nothing about what was read in the end. -/
theorem finish_closeSection (r : Reader) : r.closeSection.finish = r.finish := by
  cases r with
  | mk place topKeys sawContent entryColumn current block entries => cases current <;> rfl

/-- A key at the margin closes what is open anyway. -/
theorem topLevel_closeSection {content : List Char}
    (step : { r with sawContent := true }.topLevel content = .ok next) :
    r.closeSection.topLevel content = .ok next := by
  obtain ⟨key, value, found, -, -⟩ := topLevel_cases step
  rw [topLevel, found] at step ⊢
  cases r with
  | mk place topKeys sawContent entryColumn current block entries => cases current <;> exact step

/-- An ignored key of the top level closes what was open. -/
theorem line_of_ignored_key (r : Reader) {key text : List Char} (is : IsKeyLine 0 key text)
    (other : key ≠ entriesKey.toList) (absent : key ∉ r.topKeys) :
    r.line text = .ok (r.underKey key) := by
  obtain ⟨value, splits⟩ := is.splits
  have known : r.topKeys.contains key = false := by simpa using absent
  rw [line_of_isKeyLine_zero r is, topLevel, splits]
  simp only [known, Bool.false_eq_true, if_false, if_neg other]
  cases r with
  | mk place topKeys sawContent entryColumn current block entries => cases current <;> rfl

/-- Under an ignored key of the top level a line leads nowhere, unless a tab stands in its
indentation. -/
theorem line_underKey_eq_ok_iff {key : List Char} (nested : IsNested 0 line) :
    (r.underKey key).line line = .ok next ↔
      next = r.underKey key ∧ (isNoise line = true ∨ isTabbed line = false) := by
  rw [line_eq]
  split
  · rename_i noise
    rw [Except.ok.injEq, eq_comm]
    exact (and_iff_left (.inl noise)).symm
  · rename_i loud
    split
    · rename_i tabbed
      simp [loud, tabbed]
    · rename_i spaced
      have item : columnOf line = 0 → ∃ body, itemBody? (contentOf line) = some body := by
        intro margin
        rw [← Option.isSome_iff_exists]
        simpa [IsNested, loud, margin] using nested
      have noMark : ¬(columnOf line = 0 ∧ isDocumentStart (contentOf line) = true) := by
        rintro ⟨margin, mark⟩
        obtain ⟨body, item⟩ := item margin
        rw [isDocumentStart_of_itemBody? item] at mark
        cases mark
      have inside : ¬(columnOf line = 0 ∧ (itemBody? (contentOf line)).isNone = true) := by
        rintro ⟨margin, noItem⟩
        obtain ⟨body, item⟩ := item margin
        rw [item] at noItem
        cases noItem
      have read : (r.underKey key).contentLine (columnOf line) (contentOf line)
          = .ok (r.underKey key) := by
        rw [contentLine, if_neg inside]
        rfl
      rw [if_neg noMark, read, Except.ok.injEq, eq_comm]
      exact (and_iff_left (.inr (by simpa using spaced))).symm

/-- Behind an ignored key of the top level and what is nested under it, the reader reads on as it
would have. -/
theorem exists_reads_underKey {key : List Char} {after : List (List Char)} {last : Reader}
    (ends : ∀ line ∈ firstLoud? after, BeginsSection line) (other : key ≠ entriesKey.toList)
    (new : key ∉ last.topKeys) (reads : Reads r after last) :
    ∃ last', Reads (r.underKey key) after last' ∧ last'.finish = last.finish := by
  have topKeys : r.closeSection.topKeys = r.topKeys := by rw [closeSection, closeEntry_eq]
  have adds : Adds [key] r.closeSection.topKeys (key :: r.topKeys) := by
    rw [topKeys]
    exact adds_single key r.topKeys
  have closed : r.closeSection.current = none := by rw [closeSection, closeEntry_eq]
  have beside : Option.Rel (OpenEntry.Beside []) r.closeSection.current none := by
    rw [closed]
    exact .none
  have same : r.closeSection.beside (key :: r.topKeys) none = r.underKey key := by
    rw [underKey, Reader.beside, ← closed]
  induction after with
  | nil =>
    have end_ : r = last := Except.ok.inj (reads 0)
    refine ⟨_, reads_nil _, ?_⟩
    rw [← same, finish_beside adds (by simpa using other.symm) beside, finish_closeSection, end_]
  | cons text rest ih =>
    obtain ⟨next, step, onward⟩ := exists_line_of_reads reads
    cases noise : isNoise text with
    | true =>
      rw [line_of_isNoise r noise, Except.ok.injEq] at step
      rw [← step] at onward
      obtain ⟨last', reads', finishes⟩ := ih (by simpa [firstLoud?, noise] using ends) onward
      exact ⟨last', reads_cons (line_of_isNoise _ noise) reads', finishes⟩
    | false =>
      have begins : BeginsSection text := by simpa [firstLoud?, noise] using ends
      have noMark : ¬(columnOf text = 0 ∧ isDocumentStart (contentOf text) = true) := by
        simp [begins.2.2]
      have margin : columnOf text = 0 ∧ (itemBody? (contentOf text)).isNone = true := by
        simp [begins.1, begins.2.1]
      have closes : r.closeSection.line text = .ok next := by
        obtain ⟨noise' | ⟨-, mark, -⟩, -⟩ | ⟨-, spaced, -, read⟩ := line_cases step
        · rw [noise] at noise'
          cases noise'
        · exact absurd mark noMark
        · rw [contentLine, if_pos margin] at read
          rw [line_of_loud _ noise spaced noMark, contentLine, if_pos margin]
          exact topLevel_closeSection read
      have extra := exists_reads_beside adds beside (reads_cons closes onward)
        (by simpa using other.symm) (by simpa using new) (areNew_nil _ _)
      rwa [same] at extra

end Reader

/-- A key at the column is put between two lines of a text, with lines nested under it. -/
structure Insertion (column : Nat) (key : List Char) (before nested after : List (List Char))
    (text edited : List Char) : Prop where
  /-- The lines of the text, before and after the place. -/
  lines : Text.lines text = before ++ after
  /-- The lines of the edited text. -/
  inserted : ∃ keyLine, IsKeyLine column key keyLine ∧
    Text.lines edited = before ++ keyLine :: (nested ++ after)
  /-- What is put under the key is nested under it. -/
  nested : ∀ line ∈ nested, IsNested column line

/-- A run over the lines of a manifest decides what its text gives. -/
theorem parse_of_reads {text : List Char} {last : Reader}
    (reads : Reader.Reads {} (Text.lines text) last) : parse text = last.finish := by
  rw [parse, reads 1]

/-- A manifest that is accepted was run through line by line. -/
theorem exists_reads_of_parse {text : List Char} {entries : List RawEntry}
    (accepted : parse text = .ok entries) :
    ∃ last, Reader.Reads {} (Text.lines text) last ∧ last.finish = .ok entries := by
  cases run : ({} : Reader).lines 1 (Text.lines text) with
  | error fault => simp [parse, run] at accepted
  | ok last =>
    have reads := Reader.reads_of_lines run
    rw [parse_of_reads reads] at accepted
    exact ⟨last, reads, accepted⟩

/-- When the reader goes on under and behind the key as it would have without it, a text with the
key is accepted unless a line under the key is refused. -/
theorem parse_eq_ok_iff_of_inserted {edited keyLine : List Char} {entries : List RawEntry}
    {before nested after : List (List Char)} {r under last : Reader} {stays : List Char → Prop}
    (lines : Text.lines edited = before ++ keyLine :: (nested ++ after))
    (reads : Reader.Reads {} before r) (step : r.line keyLine = .ok under)
    (each : ∀ line ∈ nested, ∀ next, under.line line = .ok next ↔ next = under ∧ stays line)
    (onward : Reader.Reads under after last) (accepted : last.finish = .ok entries)
    (result : List RawEntry) :
    parse edited = .ok result ↔ result = entries ∧ ∀ line ∈ nested, stays line := by
  have accepts : (∀ line ∈ nested, stays line) → parse edited = .ok entries := by
    intro all
    have through : Reader.Reads under nested under :=
      fun number => (Reader.lines_eq_ok_iff each number).mpr ⟨rfl, all⟩
    have whole : Reader.Reads {} (Text.lines edited) last := by
      rw [lines]
      exact Reader.reads_append reads (Reader.reads_cons step (Reader.reads_append through onward))
    rw [parse_of_reads whole, accepted]
  constructor
  · intro read
    obtain ⟨end_, run, -⟩ := exists_reads_of_parse read
    have run := run 1
    rw [lines, Reader.lines_append (reads 1)] at run
    obtain ⟨next, step', run⟩ := Reader.exists_line_of_cons run
    rw [step, Except.ok.injEq] at step'
    rw [← step'] at run
    obtain ⟨between, through, -⟩ := Reader.exists_lines_of_append run
    have all := ((Reader.lines_eq_ok_iff each _).mp through).2
    rw [accepts all] at read
    exact ⟨(Except.ok.inj read).symm, all⟩
  · rintro ⟨rfl, all⟩
    exact accepts all

/-- Ignored keys make no difference. Where a text is read as entries, a key that has no meaning may
be put into an entry behind what is nested under another of its keys, or between two sections of the
top level. If the key is new there, the same entries are read, unless one of the lines under it has
a tab in its indentation or, in an entry, is a list item at the column of the key; then the text is
refused. -/
theorem parse_insert_ignored_key {column : Nat} {key text edited : List Char}
    {before nested after : List (List Char)} {entries : List RawEntry}
    (insertion : Insertion column key before nested after text edited)
    (accepted : parse text = .ok entries) :
    ∃ r last : Reader, Reader.Reads {} before r ∧ Reader.Reads r after last ∧
      (∀ entry, r.current = some entry → entry.keyColumn = some column →
        (∀ line ∈ firstLoud? after, ¬IsNested column line) → (∀ f : Layout.Field, key ≠ f.name) →
        Reader.AreNew [key] r after → ∀ result,
        (parse edited = .ok result ↔
          result = entries ∧ ∀ line ∈ nested, IsSkipped column line)) ∧
      (column = 0 → (∀ line ∈ firstLoud? after, BeginsSection line) → key ≠ entriesKey.toList →
        key ∉ last.topKeys → ∀ result,
        (parse edited = .ok result ↔
          result = entries ∧ ∀ line ∈ nested, isNoise line = true ∨ isTabbed line = false)) := by
  obtain ⟨last, whole, finish⟩ := exists_reads_of_parse accepted
  obtain ⟨keyLine, is, lines⟩ := insertion.inserted
  have run := whole 1
  rw [insertion.lines] at run
  obtain ⟨r, first, second⟩ := Reader.exists_lines_of_append run
  have reads := Reader.reads_of_lines first
  have onward := Reader.reads_of_lines second
  refine ⟨r, last, reads, onward, ?_, ?_⟩
  · intro entry current known ends other new
    have sound : Reader.Sound r := Reader.sound_start.lines first
    have atKeys := sound.atKeys current known
    have absent : key ∉ entry.keys :=
      new [] after r rfl (Reader.reads_nil r) rfl entry current key (List.mem_singleton_self key)
    obtain ⟨last', reads', same⟩ := atKeys.exists_reads_after ends new onward
    refine parse_eq_ok_iff_of_inserted lines reads (atKeys.line_of_isKeyLine is other absent) ?_
      reads' (same.trans finish)
    intro line mem next
    exact (atKeys.underEntryKey key).line_eq_ok_iff rfl (insertion.nested line mem)
  · intro margin ends other new
    rw [margin] at is
    have absent : key ∉ r.topKeys :=
      fun seen => new (Reader.topKeys_subset_of_reads onward seen)
    obtain ⟨last', reads', same⟩ := Reader.exists_reads_underKey ends other new onward
    refine parse_eq_ok_iff_of_inserted lines reads (Reader.line_of_ignored_key r is other absent) ?_
      reads' (same.trans finish)
    intro line mem next
    have nested := insertion.nested line mem
    rw [margin] at nested
    exact Reader.line_underKey_eq_ok_iff nested

/-- What is read of a manifest of one effect. -/
def blurEntry : RawEntry := { token := some (.text "blur"), kind := some (.text "effect") }

/-- The lines of that manifest. -/
def blurLines : List (List Char) :=
  ["entries:".toList, "- token: blur".toList, "  kind: effect".toList]

/-- The reader behind those lines. -/
def blurReader : Reader :=
  { place := .entries
    topKeys := ["entries".toList]
    sawContent := true
    entryColumn := some 0
    current := some
      { raw := blurEntry, keys := ["kind".toList, "token".toList], keyColumn := some 2 } }

/-- The manifest of one effect is read. -/
theorem parse_blur :
    parse "entries:\n- token: blur\n  kind: effect\n".toList = .ok [blurEntry] := by rfl

/-- Its lines leave the entry open. -/
theorem lines_blur : ({} : Reader).lines 1 blurLines = .ok blurReader := by rfl

/-- A key that the entry does not have. -/
theorem isKeyLine_note : IsKeyLine 2 "note".toList "  note:".toList where
  loud := by decide
  spaced := by decide
  stands := by decide
  noMark := by decide
  noItem := by decide
  splits := ⟨[], by rfl⟩

/-- A list may be put under a new key of the entry, when its dashes stand deeper than the key. -/
theorem parse_insert_ignored_key_note :
    Insertion 2 "note".toList blurLines ["   - a".toList] []
        "entries:\n- token: blur\n  kind: effect\n".toList
        "entries:\n- token: blur\n  kind: effect\n  note:\n   - a\n".toList ∧
      parse "entries:\n- token: blur\n  kind: effect\n".toList = .ok [blurEntry] ∧
      parse "entries:\n- token: blur\n  kind: effect\n  note:\n   - a\n".toList
        = .ok [blurEntry] := by
  have insertion : Insertion 2 "note".toList blurLines ["   - a".toList] []
      "entries:\n- token: blur\n  kind: effect\n".toList
      "entries:\n- token: blur\n  kind: effect\n  note:\n   - a\n".toList :=
    ⟨by decide, ⟨"  note:".toList, isKeyLine_note, by decide⟩, by decide⟩
  obtain ⟨r, last, reads, -, entryPart, -⟩ := parse_insert_ignored_key insertion parse_blur
  have known : r = blurReader := by
    have run := (reads 1).symm.trans lines_blur
    exact Except.ok.inj run
  have new : Reader.AreNew ["note".toList] r [] := by
    intro later rest s split run kept entry current
    rw [(List.nil_eq_append_iff.mp split).1] at run
    rw [← Except.ok.inj (run 0), known] at current
    rw [← Option.some.inj current]
    decide
  have other : ∀ f : Layout.Field, "note".toList ≠ f.name := by
    intro f
    cases f <;> decide
  have accepted := entryPart _ (by rw [known]; rfl) rfl (by simp [firstLoud?]) other new [blurEntry]
  exact ⟨insertion, parse_blur, accepted.mpr ⟨rfl, by decide⟩⟩

/-- A list under a new key of the entry is refused when its dashes stand at the column of the
key. -/
theorem list_at_ignored_key_refused :
    Insertion 2 "note".toList blurLines ["  - a".toList] []
        "entries:\n- token: blur\n  kind: effect\n".toList
        "entries:\n- token: blur\n  kind: effect\n  note:\n  - a\n".toList ∧
      Reader.Reads {} blurLines blurReader ∧
      parse "entries:\n- token: blur\n  kind: effect\n".toList = .ok [blurEntry] ∧
      parse "entries:\n- token: blur\n  kind: effect\n  note:\n  - a\n".toList
        = .error (.line 5 .listItem) := by
  have insertion : Insertion 2 "note".toList blurLines ["  - a".toList] []
      "entries:\n- token: blur\n  kind: effect\n".toList
      "entries:\n- token: blur\n  kind: effect\n  note:\n  - a\n".toList :=
    ⟨by decide, ⟨"  note:".toList, isKeyLine_note, by decide⟩, by decide⟩
  exact ⟨insertion, Reader.reads_of_lines lines_blur, parse_blur, by rfl⟩

end CatalogAudit.Manifest.Line
