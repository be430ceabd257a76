import CatalogAudit.Proofs.Manifest.Decoding.Document
import CatalogAudit.Proofs.Manifest.Runs.Behind
import Mathlib.Data.List.TakeWhile

/-!
# One entry for each dash

The lines under the key of the entries fall into blocks, each of which begins at a dash in the
column of the first one. An accepted text has one entry for each block, in the same order, and it
is the entry that the block makes when it stands alone under the key. So no line of one entry is
taken for a line of another, and no dash is lost in what stands above it.
-/

namespace CatalogAudit.Manifest.Line

/-- The key of the top level that a line begins with. -/
def topKey? (line : List Char) : Option (List Char) :=
  if isNoise line || isTabbed line || isDocumentStart (contentOf line)
      || !(columnOf line == 0 && (itemBody? (contentOf line)).isNone) then none
  else
    match splitKey (contentOf line) with
    | .ok (some (key, _)) => some key
    | _ => none

/-- The lines that say something under the key of the entries, up to the next key of the top
level. -/
def listLines (lines : List (List Char)) : List (List Char) :=
  (((lines.dropWhile fun line => topKey? line != some entriesKey.toList).drop 1).takeWhile
    fun line => (topKey? line).isNone).filter fun line => !isNoise line

/-- Whether the line is a list item at the column. -/
def isDashAt (column : Nat) (line : List Char) : Bool :=
  columnOf line == column && (itemBody? (contentOf line)).isSome

/-- The column of the first line in a list. -/
def dashColumn (lines : List (List Char)) : Nat := (lines.head?.map columnOf).getD 0

/-- The lines are those of one entry. -/
structure IsEntryBlock (column : Nat) (block : List (List Char)) (raw : RawEntry) : Prop where
  /-- They begin at a dash in the column, and there is no other one. -/
  headed : ∃ dash below, block = dash :: below ∧ isDashAt column dash = true ∧
    ∀ line ∈ below, isDashAt column line = false
  /-- Alone under the key of the entries they are read as the entry. -/
  reads : ∃ r, ({} : Reader).lines 1 ("entries:".toList :: block) = .ok r ∧ r.finish = .ok [raw]

namespace Reader

variable {r next r' : Reader} {text : List Char} {column : Nat} {content : List Char}

/-- The key of the entry list, alone on its line, enters the list. -/
theorem line_entriesKey_alone : ({} : Reader).line "entries:".toList = .ok inEntries := by rfl

/-! ### Lines by their place -/

/-- What reading a line does to the reader. -/
inductive Passes (r : Reader) (text : List Char) (next : Reader) : Prop
  /-- The line says nothing, or it is the mark before all content. -/
  | quiet (noKey : topKey? text = none) (quiet : isNoise text = true ∨ r.sawContent = false)
    (same : next = r)
  /-- It is a key of the top level. -/
  | key {key value : List Char} (is : topKey? text = some key)
    (splits : splitKey (contentOf text) = .ok (some (key, value)))
    (read : { r with sawContent := true }.topLevel (contentOf text) = .ok next)
  /-- It stands under an ignored key. -/
  | other (noKey : topKey? text = none) (place : r.place = .other)
    (same : next = { r with sawContent := true })
  /-- It stands in the list of entries. -/
  | list (noKey : topKey? text = none)
    (inside : ¬(columnOf text = 0 ∧ (itemBody? (contentOf text)).isNone = true))
    (place : r.place = .entries)
    (read : { r with sawContent := true }.entriesLine (columnOf text) (contentOf text) = .ok next)

/-- A line that is indented or begins with a dash has no top-level key. -/
theorem topKey?_of_inside
    (inside : ¬(columnOf text = 0 ∧ (itemBody? (contentOf text)).isNone = true)) :
    topKey? text = none := by
  have inside : (columnOf text == 0 && (itemBody? (contentOf text)).isNone) = false := by
    rw [Bool.eq_false_iff]
    intro margin
    rw [Bool.and_eq_true, beq_iff_eq] at margin
    exact inside margin
  rw [topKey?, if_pos]
  rw [inside, Bool.not_false, Bool.or_true]

/-- Every line that is read does one of these. -/
theorem passes_of_line (step : r.line text = .ok next) : Passes r text next := by
  obtain ⟨quiet, same⟩ | ⟨loud, spaced, noMark, read⟩ := line_cases step
  · have noKey : topKey? text = none := by
      rcases quiet with noise | ⟨-, mark, -⟩
      · rw [topKey?, noise]
        rfl
      · rw [topKey?, mark.2]
        simp
    exact .quiet noKey (quiet.imp_right fun first => first.2.2) same
  · obtain ⟨margin, noItem, top⟩ | ⟨inside, here⟩ := contentLine_cases read
    · obtain ⟨key, value, splits, -⟩ := topLevel_cases top
      have noMark : isDocumentStart (contentOf text) = false := by simpa [margin] using noMark
      have is : topKey? text = some key := by
        rw [topKey?, if_neg, splits]
        simp [loud, spaced, noMark, margin, noItem]
      exact .key is splits top
    · rw [← Option.isNone_iff_eq_none] at inside
      have noKey := topKey?_of_inside inside
      rcases here with ⟨place, same⟩ | ⟨place, list⟩
      · exact .other noKey place same
      · exact .list noKey inside place list

/-- Where no key came behind that of the entries, a line that says something and is no key is read
in their list. -/
theorem list_of_line (noOther : r.place ≠ .other) (saw : r.sawContent = true)
    (noKey : topKey? text = none) (loud : isNoise text = false) (step : r.line text = .ok next) :
    ¬(columnOf text = 0 ∧ (itemBody? (contentOf text)).isNone = true) ∧ r.place = .entries ∧
      { r with sawContent := true }.entriesLine (columnOf text) (contentOf text) = .ok next := by
  cases passes_of_line step with
  | quiet _ quiet _ =>
    rw [loud, saw] at quiet
    cases quiet with
    | inl noise => cases noise
    | inr unseen => cases unseen
  | key is _ _ => rw [noKey] at is; cases is
  | other _ other _ => exact absurd other noOther
  | list _ inside place read => exact ⟨inside, place, read⟩

/-- A line puts the key that it begins with to those of the top level. -/
theorem topKeys_of_line (step : r.line text = .ok next) :
    next.topKeys = (topKey? text).toList ++ r.topKeys := by
  cases passes_of_line step with
  | quiet noKey _ same => rw [noKey, same]; rfl
  | key is splits read =>
    obtain ⟨key, value, splits', -, place, after, -⟩ := topLevel_cases read
    rw [splits] at splits'
    rw [is, after]
    injection splits' with found
    injection Option.some.inj found with same
    rw [same]
    rfl
  | other noKey _ same => rw [noKey, same]; rfl
  | list noKey _ _ read =>
    rw [noKey]
    have same := topKeys_of_entriesLine read
    exact same

/-- A run remembers the keys of its top-level lines, the last one first. -/
theorem topKeys_of_lines {lines : List (List Char)} {number : Nat}
    (run : r.lines number lines = .ok r') :
    r'.topKeys = (lines.filterMap topKey?).reverse ++ r.topKeys := by
  induction lines generalizing r number with
  | nil =>
    rw [Reader.lines] at run
    rw [← Except.ok.inj run]
    rfl
  | cons text rest ih =>
    obtain ⟨next, step, onward⟩ := exists_line_of_cons run
    rw [ih onward, topKeys_of_line step]
    cases isKey : topKey? text with
    | none => rw [List.filterMap_cons_none isKey]; rfl
    | some key =>
      rw [List.filterMap_cons_some isKey, List.reverse_cons, List.append_assoc]
      rfl

/-- The key of the entries leads into their list, or past it when it is empty. -/
theorem place_of_entriesKey {value : List Char}
    (splits : splitKey content = .ok (some (entriesKey.toList, value)))
    (step : r.topLevel content = .ok next) : next.place = .entries ∨ next.place = .inline := by
  unfold topLevel at step
  rw [splits] at step
  dsimp only at step
  split at step
  · cases step
  · rw [if_pos rfl] at step
    obtain ⟨place, after, inside⟩ := openEntries_cases step
    rw [after]
    exact inside

/-- What is complete with the open entry depends on these two only. -/
theorem entries_closeEntry_congr (entries : r.entries = r'.entries)
    (current : r.current = r'.current) : r.closeEntry.entries = r'.closeEntry.entries := by
  unfold closeEntry
  rw [current]
  split
  · rename_i entry _
    exact congrArg (·.push entry.raw) entries
  · exact entries

/-! ### Behind the list -/

/-- The list of entries is left for good. -/
structure IsPast (r : Reader) : Prop where
  /-- Another key came behind it. -/
  place : r.place = .other
  /-- It was there. -/
  entered : entriesKey.toList ∈ r.topKeys
  /-- Its last entry is complete. -/
  closed : r.current = none

/-- A key that is not the one of the entries leads past the list. -/
theorem isPast_of_topLevel (entered : entriesKey.toList ∈ r.topKeys)
    (step : r.topLevel content = .ok next) :
    IsPast next ∧ next.entries = r.closeEntry.entries := by
  obtain ⟨key, value, -, fresh, place, after, isOther⟩ := topLevel_cases step
  have isOther : place = .other := isOther.resolve_right fun same => fresh (same.1 ▸ entered)
  rw [after, closeEntry_eq]
  exact ⟨⟨isOther, List.mem_cons_of_mem _ entered, rfl⟩, rfl⟩

/-- Nothing that follows changes the entries. -/
theorem IsPast.line (past : IsPast r) (step : r.line text = .ok next) :
    IsPast next ∧ next.entries = r.entries := by
  cases passes_of_line step with
  | quiet _ _ same => rw [same]; exact ⟨past, rfl⟩
  | key is splits read =>
    obtain ⟨after, entries⟩ := isPast_of_topLevel (r := { r with sawContent := true })
      past.entered read
    refine ⟨after, entries.trans ?_⟩
    simp only [closeEntry, past.closed]
  | other _ _ same => rw [same]; exact ⟨⟨past.place, past.entered, past.closed⟩, rfl⟩
  | list _ _ place _ =>
    rw [past.place] at place
    cases place

/-- Once the list of entries is past, no line adds an entry. -/
theorem IsPast.lines (past : IsPast r) {lines : List (List Char)} {number : Nat}
    (run : r.lines number lines = .ok r') : IsPast r' ∧ r'.entries = r.entries := by
  induction lines generalizing r number with
  | nil =>
    rw [Reader.lines] at run
    rw [← Except.ok.inj run]
    exact ⟨past, rfl⟩
  | cons text rest ih =>
    obtain ⟨next, step, onward⟩ := exists_line_of_cons run
    obtain ⟨past, same⟩ := past.line step
    rw [← same]
    exact ih past onward

/-- Behind the list the entries that were complete, and the one that was open, are all there is. -/
theorem entries_of_rest (entered : entriesKey.toList ∈ r.topKeys) {lines : List (List Char)}
    {number : Nat} (begins : ∀ line ∈ lines.head?, (topKey? line).isSome = true)
    (run : r.lines number lines = .ok r') : r'.closeEntry.entries = r.closeEntry.entries := by
  cases lines with
  | nil =>
    rw [Reader.lines] at run
    rw [← Except.ok.inj run]
  | cons text rest =>
    obtain ⟨next, step, onward⟩ := exists_line_of_cons run
    have isKey := begins text rfl
    cases passes_of_line step with
    | quiet noKey _ _ => rw [noKey] at isKey; cases isKey
    | key is splits read =>
      obtain ⟨past, first⟩ := isPast_of_topLevel (r := { r with sawContent := true }) entered read
      obtain ⟨past, others⟩ := past.lines onward
      have closed : r'.closeEntry = r' := by simp only [closeEntry, past.closed]
      rw [closed, others, first]
      exact entries_closeEntry_congr rfl rfl
    | other noKey _ _ => rw [noKey] at isKey; cases isKey
    | list noKey _ _ _ => rw [noKey] at isKey; cases isKey

/-! ### In the list -/

/-- The reader goes on in the entry it is in. -/
structure Stays (r next : Reader) : Prop where
  /-- It is where it was at the top level. -/
  place : next.place = r.place
  /-- The dashes stand where they did. -/
  entryColumn : next.entryColumn = r.entryColumn
  /-- No more entries are complete. -/
  entries : next.entries = r.entries
  /-- An entry that was open still is, and its keys keep what they stored. -/
  current : ∀ entry, r.current = some entry → ∃ entry', next.current = some entry' ∧ entry.Le entry'

/-- A reader stays in the entry in which it is. -/
theorem Stays.refl (r : Reader) : Stays r r :=
  ⟨rfl, rfl, rfl, fun entry current => ⟨entry, current, .refl entry⟩⟩

/-- An entry in which a reader stays is still open. -/
theorem Stays.isSome (stays : Stays r next) (open_ : r.current.isSome = true) :
    next.current.isSome = true := by
  obtain ⟨entry, current⟩ := Option.isSome_iff_exists.mp open_
  obtain ⟨entry', current', -⟩ := stays.current entry current
  rw [current']
  rfl

/-- A line at the key column stays in the entry. -/
theorem stays_keyLine (step : r.keyLine column content = .ok next) : Stays r next := by
  obtain ⟨entry, current, -, -, read⟩ := keyLine_cases step
  obtain ⟨same, key, value, -, -, -, stored⟩ := entryField_cases read
  obtain ⟨raw, block, after, -⟩ := storeField_cases stored
  refine ⟨?_, ?_, ?_, fun entry current => ?_⟩
  · rw [after]
  · rw [after]
  · rw [after]
  · obtain ⟨entry', open_, le, -⟩ := exists_le_keyLine current step
    exact ⟨entry', open_, le⟩

/-- A line deeper than the dashes stays in the entry. -/
theorem stays_deepLine (step : r.deepLine column content = .ok next) : Stays r next := by
  obtain ⟨keyColumn, _, body, -, -, -, -, read⟩ | ⟨block, -, read⟩ := deepLine_cases step
  · obtain ⟨entry, item, -, -, after⟩ := addMode_cases read
    refine ⟨?_, ?_, ?_, fun entry current => ?_⟩
    · rw [after]
    · rw [after]
    · rw [after]
    · exact exists_le_addMode (r := { r with block := .modes keyColumn (some column) }) current read
  · obtain ⟨place, entryColumn, entries, current⟩ := stays_keyLine read
    exact ⟨place, entryColumn, entries, current⟩

/-- In the list a line that is no dash of it belongs to the entry that is open. -/
theorem stays_listLine (known : r.entryColumn = some column) {at_ : Nat}
    (noDash : ¬(at_ = column ∧ (itemBody? content).isSome = true))
    (step : r.listLine at_ content = .ok next) : Stays r next := by
  obtain ⟨body, item, here, -⟩ | ⟨dash, -, -, read⟩ := listLine_cases step
  · rw [known, Option.getD_some] at here
    exact absurd ⟨here.symm, by rw [item]; rfl⟩ noDash
  · exact stays_deepLine read

/-- A line that is neither a top-level key nor a dash of the list stays in the entry. -/
theorem stays_line (known : r.entryColumn = some column) (place : r.place = .entries)
    (noKey : topKey? text = none) (noDash : isDashAt column text = false)
    (step : r.line text = .ok next) : Stays r next := by
  have noDash : ¬(columnOf text = column ∧ (itemBody? (contentOf text)).isSome = true) := by
    intro dash
    rw [isDashAt, dash.1, dash.2, beq_self_eq_true, Bool.and_true] at noDash
    cases noDash
  cases passes_of_line step with
  | quiet _ _ same => rw [same]; exact .refl r
  | key is _ _ => rw [noKey] at is; cases is
  | other _ other _ => rw [place] at other; cases other
  | list _ _ _ read =>
    obtain ⟨-, -, -, after⟩ | ⟨block, -, -, read⟩ := entriesLine_cases read
    · rw [after]
      exact ⟨rfl, rfl, rfl, fun entry current => ⟨entry, current, .refl entry⟩⟩
    · obtain ⟨place, entryColumn, entries, current⟩ :=
        stays_listLine (r := { r with sawContent := true, block }) known noDash read
      exact ⟨place, entryColumn, entries, current⟩

/-- The reader is in an entry, whose dash stands at the column. -/
structure InEntry (column : Nat) (r : Reader) : Prop where
  /-- It is between two lines. -/
  sound : Sound r
  /-- It is in the list. -/
  place : r.place = .entries
  /-- The dashes stand there. -/
  dashes : r.entryColumn = some column

/-- What says something within the entry is read in the list. -/
theorem InEntry.entriesLine (inEntry : InEntry column r) (noKey : topKey? text = none)
    (loud : isNoise text = false) (step : r.line text = .ok next) :
    ¬(columnOf text = 0 ∧ (itemBody? (contentOf text)).isNone = true) ∧
      { r with sawContent := true }.entriesLine (columnOf text) (contentOf text) = .ok next := by
  have open_ : r.current.isSome = true :=
    inEntry.sound.current.mpr ⟨inEntry.place, by rw [inEntry.dashes]; rfl⟩
  have noOther : r.place ≠ .other := by rw [inEntry.place]; decide
  obtain ⟨inside, -, read⟩ := list_of_line noOther (inEntry.sound.saw open_) noKey loud step
  exact ⟨inside, read⟩

/-- A line within the entry leaves the reader in it. -/
theorem InEntry.line (inEntry : InEntry column r) (noKey : topKey? text = none)
    (noDash : isDashAt column text = false) (step : r.line text = .ok next) :
    InEntry column next ∧ Stays r next := by
  have stays := stays_line inEntry.dashes inEntry.place noKey noDash step
  exact ⟨⟨inEntry.sound.line step, stays.place.trans inEntry.place,
    stays.entryColumn.trans inEntry.dashes⟩, stays⟩

/-- The reader stands in the entry that began with the block, behind entries that are complete. -/
structure Stands (column : Nat) (before : Array RawEntry) (block : List (List Char)) (r : Reader) :
    Prop extends InEntry column r where
  /-- The block begins at a dash and has no other one. -/
  headed : ∃ dash below, block = dash :: below ∧ isDashAt column dash = true ∧
    ∀ line ∈ below, isDashAt column line = false
  /-- It is where the block alone leads, behind those entries. -/
  alone : ∃ cur, Reads inEntries block cur ∧ cur.entries = #[] ∧ cur.current.isSome = true ∧
    r = cur.behind before r.topKeys

/-- Right behind the key of the entry list, what is remembered is consistent. -/
theorem sound_inEntries : Sound inEntries where
  entered := by simp [inEntries]
  current := by simp [inEntries]
  saw := by simp [inEntries]
  deeper := by simp [inEntries]
  block := by simp [inEntries, Block.column?]

/-- At a dash all that was read is complete, and nothing else of it matters. -/
theorem startEntry_eq_behind (place : r.place = .entries) (column : Nat)
    (content body : List Char) :
    { r with sawContent := true, entryColumn := some column }.startEntry column content body =
      ({ inEntries with entryColumn := some column }.behind r.closeEntry.entries
        r.topKeys).startEntry column content body := by
  have closed : ({ r with sawContent := true, entryColumn := some column } : Reader).closeEntry =
      { ({ inEntries with entryColumn := some column }.behind r.closeEntry.entries
          r.topKeys).closeEntry with block := r.block } := by
    obtain ⟨place', topKeys, sawContent, entryColumn, current, block, entries⟩ := r
    cases place
    cases current <;> simp [closeEntry, behind, inEntries]
  unfold startEntry
  rw [closed]

/-- A new block begins with every dash at the column. -/
theorem stands_of_dash (sound : Sound r) (place : r.place = .entries)
    (here : r.entryColumn.getD (columnOf text) = columnOf text)
    (dash : (itemBody? (contentOf text)).isSome = true) (step : r.line text = .ok next) :
    Stands (columnOf text) r.closeEntry.entries [text] next := by
  obtain ⟨body, item⟩ := Option.isSome_iff_exists.mp dash
  have sound' := sound.line step
  rw [sound.line_of_dash place item here, startEntry_eq_behind place] at step
  obtain ⟨cur, alone, behind⟩ := (startEntry_behind _ _ _ _ _ _).exists_of_ok_right step
  obtain ⟨inList, dashes, none, open_⟩ := frame_startEntry alone
  have topKeys : next.topKeys = r.topKeys := by rw [behind]; rfl
  have first : inEntries.line text = .ok cur := by
    rw [sound_inEntries.line_of_dash rfl item rfl]
    exact alone
  refine ⟨⟨sound', ?_, ?_⟩, ⟨text, [], rfl, ?_, by simp⟩, cur, reads_cons first (reads_nil cur),
    none, open_, ?_⟩
  · rw [behind]
    exact inList
  · rw [behind]
    exact dashes
  · rw [isDashAt, beq_self_eq_true, dash, Bool.and_true]
  · rw [topKeys]
    exact behind

variable {before : Array RawEntry} {block : List (List Char)}

/-- A line of the list that is no dash of it belongs to the block. -/
theorem Stands.line (stands : Stands column before block r) (noKey : topKey? text = none)
    (loud : isNoise text = false) (noDash : isDashAt column text = false)
    (step : r.line text = .ok next) : Stands column before (block ++ [text]) next := by
  obtain ⟨inside, -⟩ := stands.toInEntry.entriesLine noKey loud step
  obtain ⟨dash, below, split, isDash, noOther⟩ := stands.headed
  obtain ⟨cur, reads, none, open_, behind⟩ := stands.alone
  obtain ⟨inEntry, -⟩ := stands.toInEntry.line noKey noDash step
  have same : next.topKeys = r.topKeys := by rw [topKeys_of_line step, noKey]; rfl
  have step' := step
  rw [behind] at step'
  obtain ⟨cur', alone, behind'⟩ := (line_behind _ _ _ inside).exists_of_ok_right step'
  have place : cur.place = .entries := by
    have place := stands.place
    rw [behind] at place
    exact place
  have dashes : cur.entryColumn = some column := by
    have dashes := stands.dashes
    rw [behind] at dashes
    exact dashes
  have goesOn := stays_line dashes place noKey noDash alone
  refine ⟨inEntry, ⟨dash, below ++ [text], ?_, isDash, ?_⟩, cur',
    reads_append reads (reads_cons alone (reads_nil cur')), goesOn.entries.trans none,
    goesOn.isSome open_, ?_⟩
  · rw [split, List.cons_append]
  · intro line mem
    obtain mem | mem := List.mem_append.mp mem
    · exact noOther line mem
    · rw [List.mem_singleton.mp mem]
      exact noDash
  · rw [same]
    exact behind'

/-- What stands in a block is one entry. -/
theorem Stands.complete (stands : Stands column before block r) :
    ∃ raw, IsEntryBlock column block raw ∧ r.closeEntry.entries = before.push raw := by
  obtain ⟨cur, reads, none, open_, behind⟩ := stands.alone
  obtain ⟨entry, current⟩ := Option.isSome_iff_exists.mp open_
  have closed : cur.closeEntry.entries = #[entry.raw] := by
    simp only [closeEntry, current, none]
    rfl
  have entered : entriesKey.toList ∈ cur.topKeys := by
    rw [topKeys_of_lines (reads 1)]
    exact List.mem_append_right _ List.mem_cons_self
  refine ⟨entry.raw, ⟨stands.headed, cur, reads_cons line_entriesKey_alone reads 1, ?_⟩, ?_⟩
  · rw [finish, if_pos (List.contains_iff_mem.mpr entered), closed]
  · rw [behind, closeEntry_behind]
    exact congrArg (before ++ ·) closed

/-- From inside a block on, the lines of the list are the rest of the block and other blocks, each
of which is one entry. -/
theorem Stands.lines (stands : Stands column before block r) {lines : List (List Char)}
    (inList : ∀ line ∈ lines, topKey? line = none ∧ isNoise line = false) {number : Nat}
    (run : r.lines number lines = .ok r') :
    ∃ tail blocks raw raws, lines = tail ++ blocks.flatten ∧
      IsEntryBlock column (block ++ tail) raw ∧ List.Forall₂ (IsEntryBlock column) blocks raws ∧
      r'.closeEntry.entries.toList = before.toList ++ raw :: raws := by
  induction lines generalizing before block r number with
  | nil =>
    rw [Reader.lines] at run
    obtain ⟨raw, isBlock, entries⟩ := stands.complete
    rw [← Except.ok.inj run]
    refine ⟨[], [], raw, [], rfl, ?_, .nil, ?_⟩
    · rwa [List.append_nil]
    · rw [entries, Array.toList_push]
  | cons text rest ih =>
    obtain ⟨next, step, onward⟩ := exists_line_of_cons run
    obtain ⟨⟨noKey, loud⟩, inRest⟩ := List.forall_mem_cons.mp inList
    cases isDash : isDashAt column text with
    | true =>
      rw [isDashAt, Bool.and_eq_true, beq_iff_eq] at isDash
      have here : r.entryColumn.getD (columnOf text) = columnOf text := by
        rw [stands.dashes, Option.getD_some, isDash.1]
      have stands' := stands_of_dash stands.sound stands.place here isDash.2 step
      rw [isDash.1] at stands'
      obtain ⟨tail, blocks, raw', raws, split, isBlock', areBlocks, entries⟩ :=
        ih stands' inRest onward
      obtain ⟨raw, isBlock, complete⟩ := stands.complete
      refine ⟨[], (text :: tail) :: blocks, raw, raw' :: raws, ?_, ?_, .cons isBlock' areBlocks, ?_⟩
      · rw [split, List.flatten_cons]
        rfl
      · rwa [List.append_nil]
      · rw [entries, complete, Array.toList_push, List.append_assoc]
        rfl
    | false =>
      obtain ⟨tail, blocks, raw, raws, split, isBlock, areBlocks, entries⟩ :=
        ih (stands.line noKey loud isDash step) inRest onward
      refine ⟨text :: tail, blocks, raw, raws, ?_, ?_, areBlocks, entries⟩
      · rw [split, List.cons_append]
      · rwa [List.append_assoc] at isBlock

/-- Lines that say nothing may be left out. -/
theorem reads_filter_loud {lines : List (List Char)} {number : Nat}
    (run : r.lines number lines = .ok r') :
    Reads r (lines.filter fun line => !isNoise line) r' := by
  induction lines generalizing r number with
  | nil => exact reads_of_lines run
  | cons text rest ih =>
    obtain ⟨next, step, onward⟩ := exists_line_of_cons run
    cases noise : isNoise text with
    | true =>
      rw [List.filter_cons_of_neg (by simp [noise])]
      rw [line_of_isNoise r noise] at step
      rw [Except.ok.inj step]
      exact ih onward
    | false =>
      rw [List.filter_cons_of_pos (by simp [noise])]
      exact reads_cons step (ih onward)

/-- The reader right behind the key of the entries. -/
structure Entered (r : Reader) : Prop where
  /-- It is between two lines. -/
  sound : Sound r
  /-- It is in the list, unless that was closed on the line of its key. -/
  place : r.place = .entries ∨ r.place = .inline
  /-- The key was content. -/
  saw : r.sawContent = true
  /-- No entry is open. -/
  current : r.current = none
  /-- No dash was read. -/
  entryColumn : r.entryColumn = none
  /-- Nothing is open under a key of an entry. -/
  block : r.block = .none
  /-- No entry is complete. -/
  entries : r.entries = #[]

/-- Nothing of the entries was read before their key. -/
theorem entered_of_line (sound : Sound r) (tracks : Tracks r)
    (fresh : entriesKey.toList ∉ r.topKeys) (isKey : topKey? text = some entriesKey.toList)
    (step : r.line text = .ok next) : Entered next := by
  have sound' := sound.line step
  have none : r.current = none := by
    cases current : r.current with
    | none => rfl
    | some entry =>
      have place := (sound.current.mp (by rw [current]; rfl)).1
      exact absurd (sound.entered (.inl place)) fresh
  cases passes_of_line step with
  | quiet noKey _ _ => rw [isKey] at noKey; cases noKey
  | other noKey _ _ => rw [isKey] at noKey; cases noKey
  | list noKey _ _ _ => rw [isKey] at noKey; cases noKey
  | key is splits read =>
    obtain rfl := Option.some.inj (is.symm.trans isKey)
    have place' := place_of_entriesKey splits read
    obtain ⟨key', value', -, -, place, after, -⟩ := topLevel_cases read
    have closed : ({ r with sawContent := true } : Reader).closeEntry =
        { r with sawContent := true } := by simp only [closeEntry, none]
    rw [closed] at after
    rw [after] at sound' place' ⊢
    exact ⟨sound', place', rfl, none, sound.entryColumn_eq_none fresh, rfl, tracks.entries fresh⟩

/-- The lines of a list are blocks, each of which is one entry. -/
theorem Entered.lines (entered : Entered r) {lines : List (List Char)}
    (inList : ∀ line ∈ lines, topKey? line = none ∧ isNoise line = false) {number : Nat}
    (run : r.lines number lines = .ok r') :
    ∃ blocks raws, blocks.flatten = lines ∧
      List.Forall₂ (IsEntryBlock (dashColumn lines)) blocks raws ∧
      r'.closeEntry.entries.toList = raws := by
  cases lines with
  | nil =>
    rw [Reader.lines] at run
    refine ⟨[], [], rfl, .nil, ?_⟩
    rw [← Except.ok.inj run]
    simp only [closeEntry, entered.current, entered.entries]
  | cons first rest =>
    obtain ⟨next, step, onward⟩ := exists_line_of_cons run
    obtain ⟨⟨noKey, loud⟩, inRest⟩ := List.forall_mem_cons.mp inList
    have noOther : r.place ≠ .other := by
      cases entered.place with
      | inl entries => rw [entries]; decide
      | inr inline => rw [inline]; decide
    obtain ⟨-, place, read⟩ := list_of_line noOther entered.saw noKey loud step
    have isItem : (itemBody? (contentOf first)).isSome = true := by
      cases item : itemBody? (contentOf first) with
      | none =>
        simp only [entriesLine, entered.block, listLine, entered.entryColumn, item] at read
        cases read
      | some body => rfl
    have here : r.entryColumn.getD (columnOf first) = columnOf first := by
      rw [entered.entryColumn, Option.getD_none]
    have stands := stands_of_dash entered.sound place here isItem step
    obtain ⟨tail, blocks, raw, raws, split, isBlock, areBlocks, entries⟩ :=
      stands.lines inRest onward
    refine ⟨(first :: tail) :: blocks, raw :: raws, ?_, .cons isBlock areBlocks, ?_⟩
    · rw [split, List.flatten_cons]
      rfl
    · rw [entries]
      simp only [closeEntry, entered.current, entered.entries, List.nil_append]

end Reader

/-- What stands before the list, under its key, and behind the next key. -/
theorem exists_listLines {lines : List (List Char)}
    (isThere : entriesKey.toList ∈ lines.filterMap topKey?) :
    ∃ before key section_ after, lines = before ++ key :: (section_ ++ after) ∧
      entriesKey.toList ∉ before.filterMap topKey? ∧ topKey? key = some entriesKey.toList ∧
      (∀ line ∈ section_, topKey? line = none) ∧
      (∀ line ∈ after.head?, (topKey? line).isSome = true) ∧
      listLines lines = section_.filter fun line => !isNoise line := by
  let isOther (line : List Char) : Bool := topKey? line != some entriesKey.toList
  let isInside (line : List Char) : Bool := (topKey? line).isNone
  have stops : ∀ (p : List Char → Bool) (lines : List (List Char)),
      ∀ line ∈ (lines.dropWhile p).head?, p line = false := by
    intro p lines line first
    have stop := List.head?_dropWhile_not p lines
    rw [Option.mem_def.mp first] at stop
    exact stop
  have others : ∀ line ∈ lines.takeWhile isOther, topKey? line ≠ some entriesKey.toList := by
    intro line mem
    have isOther : isOther line = true := List.mem_takeWhile_imp mem
    exact bne_iff_ne.mp isOther
  have fresh : entriesKey.toList ∉ (lines.takeWhile isOther).filterMap topKey? := by
    intro mem
    obtain ⟨line, mem, isKey⟩ := List.mem_filterMap.mp mem
    exact others line mem isKey
  have whole := List.takeWhile_append_dropWhile (p := isOther) (l := lines)
  cases found : lines.dropWhile isOther with
  | nil =>
    rw [found, List.append_nil] at whole
    rw [whole] at fresh
    exact absurd isThere fresh
  | cons key rest =>
    have isKey := stops isOther lines key (by rw [found]; rfl)
    refine ⟨lines.takeWhile isOther, key, rest.takeWhile isInside, rest.dropWhile isInside, ?_,
      fresh, by simpa [isOther] using isKey, ?_, ?_, ?_⟩
    · rw [List.takeWhile_append_dropWhile, ← found, whole]
    · intro line mem
      have inside : isInside line = true := List.mem_takeWhile_imp mem
      exact Option.isNone_iff_eq_none.mp inside
    · intro line first
      have isKey := stops isInside rest line first
      rwa [← Option.not_isNone, Bool.not_eq_true']
    · unfold listLines
      rw [found]
      rfl

/-- An accepted text has one entry for each block of its list, the one that the block alone is read
as. -/
theorem exists_blocks_of_parse {text : List Char} {raws : List RawEntry}
    (parsed : parse text = .ok raws) :
    ∃ blocks, blocks.flatten = listLines (Text.lines text) ∧
      List.Forall₂ (IsEntryBlock (dashColumn (listLines (Text.lines text)))) blocks raws := by
  obtain ⟨last, reads, finished⟩ := exists_reads_of_parse parsed
  have run := reads 1
  rw [Reader.finish] at finished
  split at finished
  · rename_i isThere
    have isThere := List.contains_iff_mem.mp isThere
    rw [Reader.topKeys_of_lines run, List.append_nil, List.mem_reverse] at isThere
    obtain ⟨before, key, section_, after, split, fresh, isKey, noKeys, isNext, list⟩ :=
      exists_listLines isThere
    rw [split] at run
    obtain ⟨r₀, first, run⟩ := Reader.exists_lines_of_append run
    obtain ⟨r₁, step, run⟩ := Reader.exists_line_of_cons run
    obtain ⟨r₂, inside, rest⟩ := Reader.exists_lines_of_append run
    have sound := Reader.sound_start.lines first
    have fresh : entriesKey.toList ∉ r₀.topKeys := by
      rw [Reader.topKeys_of_lines first, List.append_nil, List.mem_reverse]
      exact fresh
    have entered := Reader.entered_of_line sound
      (Reader.Tracks.lines Reader.sound_start Reader.tracks_start first) fresh isKey step
    have inList : ∀ line ∈ section_.filter fun line => !isNoise line,
        topKey? line = none ∧ isNoise line = false := by
      intro line mem
      obtain ⟨mem, loud⟩ := List.mem_filter.mp mem
      exact ⟨noKeys line mem, by simpa using loud⟩
    obtain ⟨blocks, raws', flat, areBlocks, entries⟩ :=
      entered.lines inList (Reader.reads_filter_loud inside 1)
    have known : entriesKey.toList ∈ r₂.topKeys := by
      rw [Reader.topKeys_of_lines inside, Reader.topKeys_of_line step, isKey]
      exact List.mem_append_right _ List.mem_cons_self
    rw [Reader.entries_of_rest known isNext rest, entries] at finished
    obtain rfl := Except.ok.inj finished
    rw [list]
    exact ⟨blocks, flat, areBlocks⟩
  · cases finished

/-- Each block has one dash, so there are as many dashes as entries. -/
theorem length_filter_of_blocks {column : Nat} {blocks : List (List (List Char))}
    {raws : List RawEntry} (areBlocks : List.Forall₂ (IsEntryBlock column) blocks raws) :
    (blocks.flatten.filter (isDashAt column)).length = raws.length := by
  induction areBlocks with
  | nil => rfl
  | cons isBlock _ ih =>
    obtain ⟨dash, below, rfl, isDash, noOther⟩ := isBlock.headed
    have none : below.filter (isDashAt column) = [] := by
      refine List.filter_eq_nil_iff.mpr fun line mem => ?_
      rw [noOther line mem]
      exact Bool.false_ne_true
    rw [List.flatten_cons, List.filter_append, List.filter_cons_of_pos isDash, none,
      List.length_append, ih, List.length_cons, List.length_cons, List.length_nil, Nat.zero_add,
      Nat.add_comm]

/-- What holds of a reader between two lines, and of the line that comes next. -/
structure BetweenLines (r : Reader) : Prop where
  /-- All that it remembers fits together. -/
  coherent : r.Coherent
  /-- No line is refused for want of an open entry: a line is stray when it stands in front of the
  dashes, or when it is an item and no list of modes is open. -/
  stray : ∀ text fault, r.line text = .error fault → fault.isStray = true →
    r.StrayAt (columnOf text) fault
  /-- A dash in the column of the dashes is read as the beginning of an entry, whatever is open. -/
  dash : ∀ text body, r.place = .entries → itemBody? (contentOf text) = some body →
    r.entryColumn.getD (columnOf text) = columnOf text →
      r.line text = { r with
        sawContent := true
        entryColumn := some (columnOf text) }.startEntry (columnOf text) (contentOf text) body
  /-- With it the entry before is complete and a new one is open. -/
  begins : ∀ text next, r.place = .entries → (itemBody? (contentOf text)).isSome = true →
    r.entryColumn.getD (columnOf text) = columnOf text → r.line text = .ok next →
      next.entries = r.closeEntry.entries ∧ next.current.isSome = true

/-- What is consistent and tracked is all that holds between two lines. -/
theorem Reader.Sound.betweenLines {r : Reader} (sound : r.Sound) (tracks : r.Tracks) :
    BetweenLines r where
  coherent := sound.coherent tracks
  stray _ _ refused stray := sound.strayAt refused stray
  dash _ _ place item here := sound.line_of_dash place item here
  begins text next place dash here step := by
    obtain ⟨body, item⟩ := Option.isSome_iff_exists.mp dash
    rw [sound.line_of_dash place item here] at step
    obtain ⟨-, -, entries, open_⟩ := Reader.frame_startEntry step
    refine ⟨entries.trans ?_, open_⟩
    exact Reader.entries_closeEntry_congr rfl rfl

/-- The entries are those of the dashes in the list, one for each, in their order. -/
structure ReadsByDashes (lines : List (List Char)) (raws : List RawEntry) : Prop where
  /-- There are as many of them. -/
  size : raws.length =
    ((listLines lines).filter (isDashAt (dashColumn (listLines lines)))).length
  /-- The lines of the list fall into blocks, each of which alone is read as its entry. -/
  blocks : ∃ blocks, blocks.flatten = listLines lines ∧
    List.Forall₂ (IsEntryBlock (dashColumn (listLines lines))) blocks raws

/-- The reader loses and invents no entry. -/
theorem reader_loses_no_entry :
    (∀ (lines : List (List Char)) (number : Nat) (r : Reader),
      ({} : Reader).lines number lines = .ok r → BetweenLines r) ∧
    ∀ (text : List Char) (raws : List RawEntry),
      parse text = .ok raws → ReadsByDashes (Text.lines text) raws := by
  constructor
  · intro lines number r run
    have sound := Reader.sound_start.lines run
    exact sound.betweenLines (Reader.Tracks.lines Reader.sound_start Reader.tracks_start run)
  · intro text raws parsed
    obtain ⟨blocks, flat, areBlocks⟩ := exists_blocks_of_parse parsed
    refine ⟨?_, blocks, flat, areBlocks⟩
    rw [← length_filter_of_blocks areBlocks, flat]

/-- A text with one entry has one dash. -/
theorem reader_loses_no_entry_blur :
    BetweenLines blurReader ∧
      ReadsByDashes (Text.lines "entries:\n- token: blur\n  kind: effect\n".toList) [blurEntry] :=
  ⟨reader_loses_no_entry.1 _ _ _ lines_blur, reader_loses_no_entry.2 _ _ parse_blur⟩

end CatalogAudit.Manifest.Line
