import CatalogAudit.Manifest.Line.Reader
import CatalogAudit.Proofs.Manifest.Decoding.FlowList
import CatalogAudit.Proofs.Manifest.Decoding.Key

/-!
# Entries read as they were written

The reader goes through the lines of an entry. `Reads` says what a run over some lines leads to;
runs are put together as the lines are. Between two keys of an entry the reader is in a state of a
fixed shape, `inEntry`, in which only what was read so far and the block that is open vary, and
every key with the lines below it leads from one such state to another.
-/

namespace CatalogAudit.Manifest.Line.Reader

open Layout

/-- Lines behind others are read from the reader behind those. -/
theorem lines_append {r between : Reader} {first : List (List Char)} {number : Nat}
    (before : r.lines number first = .ok between) (second : List (List Char)) :
    r.lines number (first ++ second) = between.lines (number + first.length) second := by
  induction first generalizing r number with
  | nil =>
    rw [Reader.lines, Except.ok.injEq] at before
    rw [before]
    rfl
  | cons text first ih =>
    rw [Reader.lines] at before
    rw [List.cons_append, Reader.lines]
    cases step : r.line text with
    | error fault =>
      rw [step] at before
      simp at before
    | ok next =>
      rw [step] at before
      have onward := ih before
      rw [List.length_cons]
      simp only [onward]
      congr 1
      omega

/-- From `r` the lines lead to `r'`, whatever their numbers are. -/
def Reads (r : Reader) (lines : List (List Char)) (r' : Reader) : Prop :=
  ∀ number, r.lines number lines = .ok r'

/-- Without lines the reader stays. -/
theorem reads_nil (r : Reader) : Reads r [] r := by
  intro number
  rw [Reader.lines]

/-- A run over lines goes on over the lines behind them. -/
theorem reads_append {r between r' : Reader} {first second : List (List Char)}
    (before : Reads r first between) (after : Reads between second r') :
    Reads r (first ++ second) r' := by
  intro number
  rw [lines_append (before number)]
  exact after _

/-- A run begins with a step over the first line. -/
theorem reads_cons {r next r' : Reader} {text : List Char} {rest : List (List Char)}
    (step : r.line text = .ok next) (run : Reads next rest r') : Reads r (text :: rest) r' := by
  intro number
  rw [Reader.lines, step]
  exact run (number + 1)

/-- What is left of an indented line without its indentation. -/
theorem dropWhile_spaces (column : Nat) {content : List Char}
    (solid : ∀ c ∈ content.head?, (c == ' ') = false) :
    (spaces column ++ content).dropWhile (· == ' ') = content := by
  refine Text.dropWhile_run (fun c mem => ?_) solid
  rw [spaces, List.mem_replicate] at mem
  rw [mem.2]
  rfl

/-- A line of no meaning is passed over. -/
theorem line_noise (r : Reader) (noise : Noise) : r.line noise.text = .ok r := by
  cases noise with
  | blank gap =>
    have blank : Text.isBlankText (gap.text.dropWhile (· == ' ')) = true := by
      rw [Text.isBlankText, List.all_eq_true]
      intro c mem
      exact isBlank_text_gap gap c ((List.dropWhile_sublist _).subset mem)
    rw [Noise.text, Reader.line, blank]
    rfl
  | comment indent words oneLine =>
    have content : (spaces indent ++ '#' :: words).dropWhile (· == ' ') = '#' :: words :=
      dropWhile_spaces indent (by simp)
    rw [Noise.text, Reader.line, content]
    simp [Text.startsWith_cons]

/-- Lines that do not count leave the reader as it is. -/
theorem reads_noise (r : Reader) (noise : List Noise) : Reads r (noise.map Noise.text) r := by
  induction noise with
  | nil => exact reads_nil r
  | cons first noise ih => exact reads_cons (line_noise r first) ih

/-- A line with content is read as its content at its column. -/
theorem line_spaces (r : Reader) (column : Nat) {c : Char} {rest : List Char}
    (solid : Text.isBlank c = false) (noComment : c ≠ '#')
    (noMark : column = 0 → isDocumentStart (c :: rest) = false) :
    r.line (spaces column ++ c :: rest) = r.contentLine column (c :: rest) := by
  have noSpace : ∀ d ∈ (c :: rest).head?, (d == ' ') = false := by
    intro d first
    rw [← Option.mem_some.mp first, beq_eq_false_iff_ne]
    rintro rfl
    exact absurd solid (by decide)
  have noTab : (c == '\t') = false := by
    rw [beq_eq_false_iff_ne]
    rintro rfl
    exact absurd solid (by decide)
  have width : (spaces column ++ c :: rest).length - (c :: rest).length = column := by
    rw [List.length_append, spaces, List.length_replicate]
    omega
  have noStart : ¬(column = 0 ∧ isDocumentStart (c :: rest) = true) := by
    intro ⟨margin, mark⟩
    rw [noMark margin] at mark
    exact Bool.false_ne_true mark
  rw [Reader.line, dropWhile_spaces column noSpace]
  simp only [width, noStart, if_false]
  simp [Text.isBlankText, solid, Text.startsWith_cons, noComment, noTab]

/-- A reader in an entry. Dashes of entries stand at `column` and the keys of this one at
`keyColumn`, if that is known; `done` are the entries before it, `raw` is what was read of it, and
`seen` are its keys so far. -/
def inEntry (column : Nat) (keyColumn : Option Nat) (done : Array RawEntry) (raw : RawEntry)
    (seen : List Field) (block : Block) : Reader :=
  { place := .entries
    topKeys := [entriesKey.toList]
    sawContent := true
    entryColumn := some column
    current := some { raw, keys := seen.map Field.name, keyColumn }
    block
    entries := done }

/-- A key that was not seen before is stored. -/
theorem entryField_key (column keyColumn : Nat) (done : Array RawEntry) (raw : RawEntry)
    {seen : List Field} {f : Field} (fresh : f ∉ seen) (block : Block) (key : Key f.name)
    {value : List Char} (ends : endsKey value = true) :
    (inEntry column (some keyColumn) done raw seen block).entryField (key.text ++ value)
      = (inEntry column (some keyColumn) done raw seen block).storeField
          { raw, keys := seen.map Field.name, keyColumn := some keyColumn } f.name value := by
  have noBrace : Text.startsWith (· == '{') (key.text ++ value) = false := by
    obtain ⟨c, others, text, -, -, -, other⟩ := exists_text_key (isWord_name f) key value
    rw [text, Text.startsWith_cons, beq_eq_false_iff_ne]
    exact other
  have unseen : (seen.map Field.name).contains f.name = false := by
    rw [← Bool.not_eq_true, List.contains_iff_mem, List.mem_map]
    rintro ⟨g, mem, same⟩
    rw [name_inj same] at mem
    exact fresh mem
  rw [entryField, noBrace, splitKey_text (isWord_name f) key ends]
  simp only [inEntry, unseen, Bool.false_eq_true, if_false]

/-- What reading one key adds to an entry. -/
def store (d : Declared) (raw : RawEntry) : Field → RawEntry
  | .token => { raw with token := d.raw.token }
  | .kind => { raw with kind := d.raw.kind }
  | .modes => { raw with modes := d.raw.modes }

/-- A gap ends a key. -/
theorem endsKey_gap {gap : Gap} (apart : gap.text ≠ []) (rest : List Char) :
    endsKey (gap.text ++ rest) = true := by
  cases text : gap.text with
  | nil => exact absurd text apart
  | cons c others =>
    have blank := gap.blank c (by simp [text])
    simp [endsKey, Text.startsWith_cons, blank]

/-- The value behind the key of the token becomes the token. -/
theorem storeField_token (r : Reader) (entry : OpenEntry) (gap : Gap) (s : Scalar) (tail : Tail) :
    r.storeField entry Field.token.name (gap.text ++ (s.text ++ tail.text))
      = .ok { r with
          current := some
            { entry with
              keys := Field.token.name :: entry.keys
              raw := { entry.raw with token := some (.text (String.ofList s.value)) } } } := by
  have value := scalarValue_text (isBlank_text_gap gap) s tail
  simp [storeField, Field.name, value]

/-- The value behind the key of the kind becomes the kind. -/
theorem storeField_kind (r : Reader) (entry : OpenEntry) (gap : Gap) (s : Scalar) (tail : Tail) :
    r.storeField entry Field.kind.name (gap.text ++ (s.text ++ tail.text))
      = .ok { r with
          current := some
            { entry with
              keys := Field.kind.name :: entry.keys
              raw := { entry.raw with kind := some (.text (String.ofList s.value)) } } } := by
  have value := scalarValue_text (isBlank_text_gap gap) s tail
  simp [storeField, Field.name, value]

/-- A list in brackets behind the key of the modes becomes the modes. -/
theorem storeField_inline (r : Reader) (entry : OpenEntry) (gap : Gap) (items : FlowList)
    (tail : Tail) :
    r.storeField entry Field.modes.name (gap.text ++ '[' :: (items.text ++ tail.text))
      = .ok { r with
          current := some
            { entry with
              keys := Field.modes.name :: entry.keys
              raw := { entry.raw with modes := .list (items.values.map String.ofList) } } } := by
  have start : Text.trimStart (gap.text ++ '[' :: (items.text ++ tail.text))
      = '[' :: (items.text ++ tail.text) :=
    Text.trimStart_append_cons (isBlank_text_gap gap) rfl _
  have unspent : isSpent ('[' :: (items.text ++ tail.text)) = false :=
    isSpent_cons (by decide) (by decide) _
  simp [storeField, Field.name, start, unspent, modesValue, Text.startsWith_cons, flowList_text]

/-- Nothing behind the key of the modes opens a list below it. -/
theorem storeField_below (r : Reader) (entry : OpenEntry) (tail : Tail) :
    r.storeField entry Field.modes.name tail.text
      = .ok { r with
          current := some
            { entry with
              keys := Field.modes.name :: entry.keys
              raw := { entry.raw with modes := .absent } }
          block := .modes (entry.keyColumn.getD 0) none } := by
  have spent := isSpent_trimStart_tail tail
  simp [storeField, Field.name, spent]

/-- The mode behind a dash is read as it was written. -/
theorem modeItem_core (s : Scalar) (tail : Tail) :
    modeItem (s.core ++ tail.text) = .ok (some (String.ofList s.value)) := by
  have value : scalarValue (s.core ++ tail.text) = .ok (.text (String.ofList s.value)) := by
    have whole := scalarValue_text (isBlank_text_gap Gap.none) s tail
    rw [Gap.none, List.nil_append] at whole
    rwa [scalarValue, trimStart_core, ← trimStart_scalar, ← scalarValue]
  have unbracketed : Text.startsWith (fun c => c == '[' || c == '{') (s.core ++ tail.text)
      = false := by
    cases s with
    | quoted q => cases q <;> rfl
    | plain p =>
      rw [Scalar.core, List.append_assoc]
      exact startsWith_bare p.toBare (fun _ => isReserved_of_opens) _
  have filled : (s.core ++ tail.text).isEmpty = false := by
    obtain ⟨c, others, text, -⟩ := exists_core s
    rw [text]
    rfl
  rw [modeItem, itemBody?_core, unbracketed, splitKey_core, value, filled]
  rfl

/-- What follows the dash of an item is found behind the blanks. -/
theorem itemBody?_gap {gap : Gap} (apart : gap.text ≠ []) (rest : List Char) :
    itemBody? ('-' :: (gap.text ++ rest)) = some (Text.trimStart rest) := by
  have trimmed : Text.trimStart (gap.text ++ rest) = Text.trimStart rest :=
    Text.trimStart_append (isBlank_text_gap gap) rest
  have starts : Text.startsWith Text.isGap (gap.text ++ rest) = true := by
    cases text : gap.text with
    | nil => exact absurd text apart
    | cons c others => exact gap.blank c (by simp [text])
  have filled : (gap.text ++ rest).isEmpty = false := by
    cases text : gap.text with
    | nil => exact absurd text apart
    | cons c others => rfl
  rw [itemBody?, filled, starts, trimmed]
  rfl

/-- A mode behind its dash is a list item. -/
theorem itemBody?_modeLine (mode : ModeLine) :
    itemBody? mode.text = some (mode.scalar.core ++ mode.tail.text) := by
  rw [ModeLine.text, List.append_assoc, itemBody?_gap mode.apart, trimStart_scalar]

/-- Below the margin, a line of an entry is read in the list of entries. -/
theorem contentLine_inEntry {column : Nat} (keyColumn : Option Nat) (done : Array RawEntry)
    (raw : RawEntry) (seen : List Field) {block : Block} (noSkip : ∀ n, block ≠ .skip n)
    {place : Nat} (deeper : column < place) (content : List Char) :
    (inEntry column keyColumn done raw seen block).contentLine place content
      = (inEntry column keyColumn done raw seen block).deepLine place content := by
  have noMargin : ¬(place = 0 ∧ (itemBody? content).isNone = true) := by omega
  have entries : (inEntry column keyColumn done raw seen block).contentLine place content
      = (inEntry column keyColumn done raw seen block).entriesLine place content := by
    rw [contentLine]
    simp only [inEntry, noMargin, if_false]
  have list : (inEntry column keyColumn done raw seen block).entriesLine place content
      = (inEntry column keyColumn done raw seen block).listLine place content := by
    rw [entriesLine]
    split
    · rename_i n skip
      exact absurd skip (noSkip n)
    · rfl
  rw [entries, list, listLine]
  have noLess : ¬place < column := by omega
  have noSame : ¬place = column := by omega
  simp only [inEntry, noLess, noSame, if_false]

/-- The line of a mode adds the mode to the entry. -/
theorem line_modeLine {column keyColumn itemColumn : Nat} (deeper : column < keyColumn)
    (fits : keyColumn ≤ itemColumn) (done : Array RawEntry) (raw : RawEntry) (seen : List Field)
    {level : Option Nat} (same : level.getD itemColumn = itemColumn) (mode : ModeLine) :
    (inEntry column (some keyColumn) done raw seen (.modes keyColumn level)).line
        (spaces itemColumn ++ mode.text)
      = .ok (inEntry column (some keyColumn) done
          { raw with modes := raw.modes.push (some (String.ofList mode.scalar.value)) } seen
          (.modes keyColumn (some itemColumn))) := by
  have item := itemBody?_modeLine mode
  have value := modeItem_core mode.scalar mode.tail
  have noMargin : itemColumn = 0 → isDocumentStart mode.text = false := by omega
  have content : (inEntry column (some keyColumn) done raw seen (.modes keyColumn level)).line
        (spaces itemColumn ++ mode.text)
      = (inEntry column (some keyColumn) done raw seen (.modes keyColumn level)).contentLine
          itemColumn mode.text := line_spaces _ _ (by decide) (by decide) noMargin
  rw [content, contentLine_inEntry _ done raw seen (by simp) (by omega), deepLine, item]
  simp only [inEntry, fits, same, addMode, value]
  rfl

/-- The lines of modes add the modes to those before them. -/
theorem reads_modeLines {column keyColumn itemColumn : Nat} (deeper : column < keyColumn)
    (fits : keyColumn ≤ itemColumn) (done : Array RawEntry) (raw : RawEntry) (seen : List Field)
    (before : List String) (modes : List ModeLine) :
    Reads
      (inEntry column (some keyColumn) done { raw with modes := .list before } seen
        (.modes keyColumn (some itemColumn)))
      (modes.flatMap (ModeLine.lines itemColumn))
      (inEntry column (some keyColumn) done
        { raw with
          modes := .list (before ++ modes.map fun mode => String.ofList mode.scalar.value) }
        seen (.modes keyColumn (some itemColumn))) := by
  induction modes generalizing before with
  | nil =>
    rw [List.flatMap_nil, List.map_nil, List.append_nil]
    exact reads_nil _
  | cons mode modes ih =>
    have same : (some itemColumn).getD itemColumn = itemColumn := rfl
    have step := line_modeLine deeper fits done { raw with modes := .list before } seen same mode
    have onward := ih (before ++ [String.ofList mode.scalar.value])
    rw [List.append_assoc, List.singleton_append] at onward
    rw [List.flatMap_cons, ModeLine.lines, List.cons_append]
    exact reads_cons step (reads_append (reads_noise _ _) onward)

/-- What follows a value ends a key as well. -/
theorem endsKey_tail (tail : Tail) : endsKey tail.text = true := by
  cases tail with
  | blank gap =>
    cases text : gap.text with
    | nil => rw [Tail.text, text]; rfl
    | cons c others =>
      have apart : gap.text ≠ [] := by simp [text]
      have ends := endsKey_gap apart []
      rwa [List.append_nil] at ends
  | comment gap apart words oneLine => exact endsKey_gap apart _

/-- What stands behind the key of the modes may end that key. -/
theorem endsKey_modes (modes : Modes) : endsKey modes.text = true := by
  cases modes with
  | inline gap apart items tail after =>
    rw [Modes.text, List.append_assoc]
    exact endsKey_gap apart _
  | below tail after extra first others => exact endsKey_tail tail

/-- The line of a key that an entry has is its key and what follows that. -/
theorem exists_fieldText (e : Layout.Entry) {f : Field} (has : e.Has f) :
    ∃ (key : Key f.name) (value : List Char),
      e.fieldText f = key.text ++ value ∧ endsKey value = true := by
  cases f with
  | token =>
    refine ⟨e.token.key, _, ?_,
      endsKey_gap e.token.apart (e.token.scalar.text ++ e.token.tail.text)⟩
    simp [Layout.Entry.fieldText, Assignment.text]
  | kind =>
    refine ⟨e.kind.key, _, ?_, endsKey_gap e.kind.apart (e.kind.scalar.text ++ e.kind.tail.text)⟩
    simp [Layout.Entry.fieldText, Assignment.text]
  | modes =>
    obtain ⟨⟨key, modes⟩, found⟩ := Option.isSome_iff_exists.mp (has rfl)
    exact ⟨key, modes.text, by simp [Layout.Entry.fieldText, found], endsKey_modes modes⟩

/-- Reading the token adds it to the entry. -/
theorem entryField_token (column keyColumn : Nat) (done : Array RawEntry) (raw : RawEntry)
    {seen : List Field} (fresh : Field.token ∉ seen) (a : Assignment Field.token.name) :
    (inEntry column (some keyColumn) done raw seen .none).entryField a.text
      = .ok (inEntry column (some keyColumn) done
          { raw with token := some (.text (String.ofList a.scalar.value)) } (.token :: seen)
          .none) := by
  have ends := endsKey_gap a.apart (a.scalar.text ++ a.tail.text)
  rw [Assignment.text, List.append_assoc, List.append_assoc,
    entryField_key column keyColumn done raw fresh .none a.key ends, storeField_token]
  rfl

/-- Reading the kind adds it to the entry. -/
theorem entryField_kind (column keyColumn : Nat) (done : Array RawEntry) (raw : RawEntry)
    {seen : List Field} (fresh : Field.kind ∉ seen) (a : Assignment Field.kind.name) :
    (inEntry column (some keyColumn) done raw seen .none).entryField a.text
      = .ok (inEntry column (some keyColumn) done
          { raw with kind := some (.text (String.ofList a.scalar.value)) } (.kind :: seen)
          .none) := by
  have ends := endsKey_gap a.apart (a.scalar.text ++ a.tail.text)
  rw [Assignment.text, List.append_assoc, List.append_assoc,
    entryField_key column keyColumn done raw fresh .none a.key ends, storeField_kind]
  rfl

/-- Reading the modes, with the lines below their key, adds them to the entry. -/
theorem exists_reads_modes {column keyColumn : Nat} (deeper : column < keyColumn)
    (done : Array RawEntry) (raw : RawEntry) {seen : List Field} (fresh : Field.modes ∉ seen)
    (key : Key Field.modes.name) (modes : Modes) :
    ∃ (between : Reader) (block : Block),
      (inEntry column (some keyColumn) done raw seen .none).entryField (key.text ++ modes.text)
        = .ok between ∧
      Reads between (modes.belowKey keyColumn)
        (inEntry column (some keyColumn) done
          { raw with modes := .list (modes.values.map String.ofList) } (.modes :: seen) block) ∧
      ∀ n, block ≠ .skip n := by
  rw [entryField_key column keyColumn done raw fresh .none key (endsKey_modes modes)]
  cases modes with
  | inline gap apart items tail after =>
    rw [Modes.text, List.append_assoc, List.cons_append, storeField_inline]
    exact ⟨_, .none, rfl, reads_noise _ after, by simp⟩
  | below tail after extra first others =>
    rw [Modes.text, storeField_below]
    have fits : keyColumn ≤ keyColumn + extra := by omega
    have same : (none : Option Nat).getD (keyColumn + extra) = keyColumn + extra := rfl
    have start := line_modeLine deeper fits done { raw with modes := .absent } (.modes :: seen)
      same first
    have onward := reads_modeLines deeper fits done raw (.modes :: seen)
      [String.ofList first.scalar.value] others
    refine ⟨_, .modes keyColumn (some (keyColumn + extra)), rfl, ?_, by simp⟩
    rw [Modes.belowKey, List.flatMap_cons, ModeLine.lines, List.cons_append]
    have values : [String.ofList first.scalar.value]
          ++ others.map (fun mode => String.ofList mode.scalar.value)
        = (Modes.below tail after extra first others).values.map String.ofList := by
      simp [Modes.values]
    rw [values] at onward
    exact reads_append (reads_noise _ after)
      (reads_cons start (reads_append (reads_noise _ first.after) onward))

/-- A key that was not seen before is read with all that belongs to it, from its line on. -/
theorem exists_reads_field (e : Layout.Entry) {f : Field} (has : e.Has f)
    {column keyColumn : Nat} (deeper : column < keyColumn) (done : Array RawEntry)
    (raw : RawEntry) {seen : List Field} (fresh : f ∉ seen) :
    ∃ (between : Reader) (block : Block),
      (inEntry column (some keyColumn) done raw seen .none).entryField (e.fieldText f) =
        .ok between ∧
      Reads between (e.fieldBelow keyColumn f)
        (inEntry column (some keyColumn) done (store e.declared raw f) (f :: seen) block) ∧
      ∀ n, block ≠ .skip n := by
  cases f with
  | token =>
    have step := entryField_token column keyColumn done raw fresh e.token
    exact ⟨_, .none, step, reads_noise _ e.token.after, by simp⟩
  | kind =>
    have step := entryField_kind column keyColumn done raw fresh e.kind
    exact ⟨_, .none, step, reads_noise _ e.kind.after, by simp⟩
  | modes =>
    obtain ⟨⟨key, modes⟩, found⟩ := Option.isSome_iff_exists.mp (has rfl)
    have reads := exists_reads_modes deeper done raw fresh key modes
    simpa [Layout.Entry.fieldText, Layout.Entry.fieldBelow, store, Declared.raw,
      Layout.Entry.declared, found] using reads

/-- The line of a key that stands at the column of the keys is read as that key. -/
theorem line_field (e : Layout.Entry) {f : Field} (has : e.Has f)
    {column keyColumn : Nat} (deeper : column < keyColumn) {known : Option Nat}
    (same : known.getD keyColumn = keyColumn) (done : Array RawEntry) (raw : RawEntry)
    (seen : List Field) {block : Block} (noSkip : ∀ n, block ≠ .skip n) :
    (inEntry column known done raw seen block).line (spaces keyColumn ++ e.fieldText f)
      = (inEntry column (some keyColumn) done raw seen .none).entryField (e.fieldText f) := by
  obtain ⟨key, value, text, -⟩ := exists_fieldText e has
  obtain ⟨c, others, first, solid, noComment, noDash, -⟩ :=
    exists_text_key (isWord_name f) key value
  rw [text, first]
  have noItem := itemBody?_cons noDash others
  have noMargin : keyColumn = 0 → isDocumentStart (c :: others) = false := by omega
  rw [line_spaces _ _ solid noComment noMargin, contentLine_inEntry _ done raw seen noSkip deeper,
    deepLine, noItem]
  cases block with
  | none => simp [inEntry, keyLine, noItem, same]
  | modes keyColumn' itemColumn => simp [inEntry, keyLine, noItem, same]
  | skip n => exact absurd rfl (noSkip n)

/-- Keys that were not seen before are read one after the other. -/
theorem exists_reads_fields (e : Layout.Entry) {fields : List Field}
    (has : .modes ∈ fields → e.modes.isSome) (distinct : fields.Nodup)
    {column keyColumn : Nat} (deeper : column < keyColumn) {known : Option Nat}
    (same : known.getD keyColumn = keyColumn) (done : Array RawEntry) (raw : RawEntry)
    {seen : List Field} (fresh : ∀ f ∈ fields, f ∉ seen) {block : Block}
    (noSkip : ∀ n, block ≠ .skip n) :
    ∃ (column' : Option Nat) (seen' : List Field) (block' : Block),
      Reads (inEntry column known done raw seen block) (fields.flatMap (e.fieldLines keyColumn))
        (inEntry column column' done (fields.foldl (store e.declared) raw) seen' block') ∧
      ∀ n, block' ≠ .skip n := by
  induction fields generalizing known raw seen block with
  | nil => exact ⟨known, seen, block, reads_nil _, noSkip⟩
  | cons f fields ih =>
    rw [List.nodup_cons] at distinct
    rw [List.forall_mem_cons] at fresh
    have hasFirst : f = .modes → e.modes.isSome := by
      rintro rfl
      exact has List.mem_cons_self
    have hasRest : .modes ∈ fields → e.modes.isSome := fun mem => has (List.mem_cons_of_mem f mem)
    obtain ⟨between, blockAfter, first, below, noSkipAfter⟩ :=
      exists_reads_field e hasFirst deeper done raw fresh.1
    have freshRest : ∀ g ∈ fields, g ∉ f :: seen := by
      intro g mem seenNow
      rw [List.mem_cons] at seenNow
      cases seenNow with
      | inl again => exact distinct.1 (again ▸ mem)
      | inr seenBefore => exact fresh.2 g mem seenBefore
    have sameAfter : (some keyColumn).getD keyColumn = keyColumn := rfl
    obtain ⟨column', seen', block', onward, noSkip'⟩ :=
      ih hasRest distinct.2 sameAfter (store e.declared raw f) freshRest noSkipAfter
    refine ⟨column', seen', block', ?_, noSkip'⟩
    rw [← line_field e hasFirst deeper same done raw seen noSkip] at first
    rw [List.flatMap_cons, Layout.Entry.fieldLines, List.cons_append]
    exact reads_cons first (reads_append below onward)

/-- The order of keys does not matter for what is stored. -/
theorem store_comm (d : Declared) (raw : RawEntry) (f g : Field) :
    store d (store d raw f) g = store d (store d raw g) f := by
  cases f <;> cases g <;> rfl

/-- All keys of an entry together make up what the entry says. -/
theorem foldl_store (e : Layout.Entry) :
    (e.first :: e.others).foldl (store e.declared) {} = e.declared.raw := by
  rw [e.complete.foldl_eq' fun f _ g _ raw => store_comm e.declared raw f g]
  cases written : e.modes with
  | none => simp [store, Declared.raw, Layout.Entry.declared, written]
  | some modes => simp [store, Declared.raw, Layout.Entry.declared, written]

/-- A reader that may come to the dash of an entry. Dashes stand at `column`, and `done` are the
entries that are complete then. -/
structure Ready (column : Nat) (done : Array RawEntry) (r : Reader) : Prop where
  /-- It is in the list of entries. -/
  place : r.place = .entries
  /-- No other key came before. -/
  topKeys : r.topKeys = [entriesKey.toList]
  /-- No dash stood at another column. -/
  level : r.entryColumn.getD column = column
  /-- The entry being read is the last of those that are complete. -/
  entries : r.closeEntry.entries = done
  /-- Nothing is ignored. -/
  noSkip : ∀ n, r.block ≠ .skip n

/-- In an entry whose keys skip nothing the reader is ready for the next one. -/
theorem ready_inEntry (column : Nat) (keyColumn : Option Nat) (done : Array RawEntry)
    (raw : RawEntry) (seen : List Field) {block : Block} (noSkip : ∀ n, block ≠ .skip n) :
    Ready column (done.push raw) (inEntry column keyColumn done raw seen block) :=
  ⟨rfl, rfl, rfl, rfl, noSkip⟩

/-- No item of a list is the mark that begins a document. -/
theorem isDocumentStart_of_itemBody? {text body : List Char}
    (item : itemBody? text = some body) : isDocumentStart text = false := by
  unfold isDocumentStart
  split
  · simp [itemBody?, Text.startsWith_cons, Text.isGap] at item
  · rfl

/-- A new entry begins after those that are complete. -/
theorem startEntry_eq {column : Nat} {done : Array RawEntry} {r : Reader}
    (ready : Ready column done r) (content body : List Char) :
    { r with sawContent := true, entryColumn := some column }.startEntry column content body =
      if body.isEmpty then .ok (inEntry column none done {} [] .none)
      else
        (inEntry column (some (column + Text.byteLength content - Text.byteLength body)) done {} []
          .none).entryField body := by
  obtain ⟨place, topKeys, -, entries, -⟩ := ready
  have closed : ({ r with sawContent := true, entryColumn := some column } : Reader).closeEntry
      = { r with
          sawContent := true
          entryColumn := some column
          current := none
          entries := done } := by
    rw [← entries]
    obtain ⟨place, topKeys, sawContent, entryColumn, current, block, entries⟩ := r
    cases current <;> rfl
  rw [startEntry, closed]
  simp only [inEntry, place, topKeys, List.map_nil]

/-- At a dash of the list the entry before is closed and a new one begins. -/
theorem line_dash {column : Nat} {done : Array RawEntry} {r : Reader} (ready : Ready column done r)
    {rest body : List Char} (item : itemBody? ('-' :: rest) = some body) :
    r.line (spaces column ++ '-' :: rest) =
      if body.isEmpty then .ok (inEntry column none done {} [] .none)
      else
        (inEntry column (some (column + Text.byteLength ('-' :: rest) - Text.byteLength body)) done
          {} [] .none).entryField body := by
  have noMark := isDocumentStart_of_itemBody? item
  have content : r.line (spaces column ++ '-' :: rest) = r.contentLine column ('-' :: rest) :=
    line_spaces r column (by decide) (by decide) fun _ => noMark
  have noMargin : ¬(column = 0 ∧ (itemBody? ('-' :: rest)).isNone = true) := by simp [item]
  have list : r.contentLine column ('-' :: rest)
      = { r with sawContent := true }.listLine column ('-' :: rest) := by
    rw [contentLine]
    simp only [noMargin, if_false, ready.place, entriesLine]
    split
    · rename_i n skip
      exact absurd skip (ready.noSkip n)
    · rfl
  rw [content, list, ← startEntry_eq ready]
  have level := ready.level
  cases known : r.entryColumn with
  | none => simp [listLine, item]
  | some entryColumn =>
    rw [known, Option.getD_some] at level
    simp [listLine, item, level]

/-- A space is one byte. -/
theorem byteLength_spaces (n : Nat) : Text.byteLength (spaces n) = n := by
  induction n with
  | zero => rfl
  | succ n ih =>
    have first : spaces (n + 1) = [' '] ++ spaces n := rfl
    rw [first, Text.byteLength_append, ih]
    have one : Text.byteLength [' '] = 1 := rfl
    omega

/-- A dash alone on its line begins an entry without keys. -/
theorem itemBody?_alone (gap : Gap) : itemBody? ('-' :: gap.text) = some [] := by
  have trimmed := Text.trimStart_of_forall (isBlank_text_gap gap)
  cases text : gap.text with
  | nil => rfl
  | cons c others =>
    have blank := gap.blank c (by simp [text])
    rw [text] at trimmed
    simp [itemBody?, Text.startsWith_cons, blank, trimmed]

/-- The first key of an entry may stand behind its dash. -/
theorem line_behindDash (e : Layout.Entry) {column : Nat} {done : Array RawEntry} {r : Reader}
    (ready : Ready column done r) (more : Nat) :
    r.line (spaces column ++ '-' :: (spaces (more + 1) ++ e.fieldText e.first))
      = (inEntry column (some (column + 2 + more)) done {} [] .none).entryField
          (e.fieldText e.first) := by
  have has := e.has_of_mem List.mem_cons_self
  obtain ⟨key, value, text, -⟩ := exists_fieldText e has
  obtain ⟨c, others, first, solid, -⟩ := exists_text_key (isWord_name e.first) key value
  rw [text, first]
  have trimmed : Text.trimStart (c :: others) = c :: others := Text.trimStart_cons solid others
  have apart : (Gap.spaces (more + 1)).text ≠ [] := by simp [Gap.spaces, spaces]
  have item : itemBody? ('-' :: (spaces (more + 1) ++ c :: others)) = some (c :: others) := by
    have body := itemBody?_gap apart (c :: others)
    rwa [trimmed] at body
  have width : Text.byteLength ('-' :: (spaces (more + 1) ++ c :: others))
      = more + 2 + Text.byteLength (c :: others) := by
    have dash : '-' :: (spaces (more + 1) ++ c :: others)
        = ['-'] ++ (spaces (more + 1) ++ c :: others) := rfl
    have one : Text.byteLength ['-'] = 1 := rfl
    rw [dash, Text.byteLength_append, Text.byteLength_append, byteLength_spaces]
    omega
  have keys : column + Text.byteLength ('-' :: (spaces (more + 1) ++ c :: others))
      - Text.byteLength (c :: others) = column + 2 + more := by omega
  rw [line_dash ready item, keys]
  rfl

/-- An entry is read as what it says, and another one may follow. -/
theorem exists_reads_entry (e : Layout.Entry) {column : Nat} {done : Array RawEntry} {r : Reader}
    (ready : Ready column done r) :
    ∃ r', Reads r (e.lines column) r' ∧ Ready column (done.push e.declared.raw) r' := by
  have stored := foldl_store e
  have distinct := e.nodup_fields
  have has : .modes ∈ e.first :: e.others → e.modes.isSome := fun mem => e.has_of_mem mem rfl
  cases opening : e.opening with
  | behindDash more =>
    have deeper : column < column + 2 + more := by omega
    rw [List.nodup_cons] at distinct
    have hasFirst : e.first = .modes → e.modes.isSome := by
      intro first
      exact has (by simp [first])
    have noneSeen : e.first ∉ ([] : List Field) := List.not_mem_nil
    obtain ⟨between, block, first, below, noSkip⟩ :=
      exists_reads_field e hasFirst deeper done {} noneSeen
    rw [← line_behindDash e ready more] at first
    have hasOthers : .modes ∈ e.others → e.modes.isSome :=
      fun mem => has (List.mem_cons_of_mem _ mem)
    have fresh : ∀ f ∈ e.others, f ∉ [e.first] := by
      intro f mem again
      rw [List.mem_singleton] at again
      exact distinct.1 (again ▸ mem)
    have same : (some (column + 2 + more)).getD (column + 2 + more) = column + 2 + more := rfl
    obtain ⟨column', seen, block', others, noSkip'⟩ :=
      exists_reads_fields e hasOthers distinct.2 deeper same done (store e.declared {} e.first)
        fresh noSkip
    rw [List.foldl_cons] at stored
    rw [stored] at others
    refine ⟨_, ?_, ready_inEntry column column' done e.declared.raw seen noSkip'⟩
    rw [Layout.Entry.lines, opening]
    exact reads_cons first (reads_append below others)
  | ownLine gap after more =>
    have deeper : column < column + 1 + more := by omega
    have start : r.line (spaces column ++ '-' :: gap.text)
        = .ok (inEntry column none done {} [] .none) := line_dash ready (itemBody?_alone gap)
    have same : (none : Option Nat).getD (column + 1 + more) = column + 1 + more := rfl
    have fresh : ∀ f ∈ e.first :: e.others, f ∉ ([] : List Field) := fun _ _ => List.not_mem_nil
    have noSkipYet : ∀ n, Block.none ≠ .skip n := by simp
    obtain ⟨column', seen, block, fields, noSkip⟩ :=
      exists_reads_fields e has distinct deeper same done {} fresh noSkipYet
    rw [stored] at fields
    refine ⟨_, ?_, ready_inEntry column column' done e.declared.raw seen noSkip⟩
    rw [Layout.Entry.lines, opening]
    exact reads_cons start (reads_append (reads_noise _ after) fields)

end CatalogAudit.Manifest.Line.Reader
