import CatalogAudit.Proofs.Manifest.Runs.Invariant

/-!
# Indentation of the list of entries

In the list of entries only the distance between columns counts. A reader that remembers every
column `k` further to the right reads a line with `k` more spaces in front as the other reader reads
the line, and remembers it `k` further to the right again. So a list of entries that is indented as
a whole is read as before, and a line that is refused is refused for the same reason.
-/

namespace CatalogAudit.Manifest.Line

open Layout

/-- The block with its columns `k` further to the right. -/
def Block.shift (k : Nat) : Block → Block
  | .none => .none
  | .modes keyColumn itemColumn => .modes (keyColumn + k) (itemColumn.map (· + k))
  | .skip deeperThan => .skip (deeperThan + k)

/-- The open entry with its keys `k` columns further to the right. -/
def OpenEntry.shift (k : Nat) (entry : OpenEntry) : OpenEntry :=
  { entry with keyColumn := entry.keyColumn.map (· + k) }

/-- The reader with every column that it remembers `k` further to the right. -/
def Reader.shift (k : Nat) (r : Reader) : Reader :=
  { r with
    entryColumn := r.entryColumn.map (· + k)
    current := r.current.map (OpenEntry.shift k)
    block := r.block.shift k }

/-- The line belongs under the key of the entries: if it says something at the margin, it is a list
item. -/
def IsInside (line : List Char) : Prop :=
  isNoise line = true ∨ isTabbed line = true ∨ columnOf line ≠ 0 ∨
    (itemBody? (contentOf line)).isSome = true

instance (line : List Char) : Decidable (IsInside line) :=
  inferInstanceAs (Decidable (_ ∨ _ ∨ _ ∨ _))

namespace Reader

section Step

variable (k : Nat) (r : Reader)

/-- Closing the open entry asks for no column. -/
theorem closeEntry_shift : (r.shift k).closeEntry = r.closeEntry.shift k := by
  cases r with
  | mk place topKeys sawContent entryColumn current block entries => cases current <;> rfl

/-- A key is stored as before. The column of what it may open is that of the keys. -/
theorem storeField_shift {entry : OpenEntry} (known : entry.keyColumn.isSome = true)
    (key value : List Char) :
    (r.shift k).storeField (entry.shift k) key value
      = (r.storeField entry key value).map (Reader.shift k) := by
  obtain ⟨column, keyColumn⟩ := Option.isSome_iff_exists.mp known
  have shifted : (entry.shift k).keyColumn.getD 0 = entry.keyColumn.getD 0 + k := by
    rw [OpenEntry.shift, keyColumn]
    rfl
  unfold storeField
  dsimp only
  rw [shifted]
  split
  · cases scalarValue value <;> rfl
  · split
    · cases scalarValue value <;> rfl
    · split
      · split
        · rfl
        · cases modesValue (Text.trimStart value) <;> rfl
      · rfl

/-- A field is read the same from a shifted reader. -/
theorem entryField_shift (known : ∀ entry ∈ r.current, entry.keyColumn.isSome = true)
    (text : List Char) :
    (r.shift k).entryField text = (r.entryField text).map (Reader.shift k) := by
  have number : (r.shift k).entryNumber = r.entryNumber := rfl
  have current : (r.shift k).current = r.current.map (OpenEntry.shift k) := rfl
  rw [entryField, entryField, number, current]
  split
  · rfl
  · cases splitKey text with
    | error fault => rfl
    | ok found =>
      cases found with
      | none => rfl
      | some pair =>
        cases open_ : r.current with
        | none => rfl
        | some entry =>
          have keys : (entry.shift k).keys = entry.keys := rfl
          simp only [Option.map_some, keys]
          split
          · rfl
          · exact storeField_shift k r (known entry open_) pair.1 pair.2

/-- The keys behind a dash stand as far behind it as before. -/
theorem startEntry_shift (column : Nat) {content body : List Char}
    (shorter : Text.byteLength body ≤ Text.byteLength content) :
    (r.shift k).startEntry (column + k) content body
      = (r.startEntry column content body).map (Reader.shift k) := by
  have keyColumn : column + k + Text.byteLength content - Text.byteLength body
      = column + Text.byteLength content - Text.byteLength body + k := by omega
  simp only [startEntry, closeEntry_shift, keyColumn]
  split
  · rfl
  · exact entryField_shift k { r.closeEntry with
      current :=
        some { keyColumn := some (column + Text.byteLength content - Text.byteLength body) }
      block := .none } (by simp) body

/-- An item of the modes is read the same from a shifted reader. -/
theorem addMode_shift (body : List Char) :
    (r.shift k).addMode body = (r.addMode body).map (Reader.shift k) := by
  have current : (r.shift k).current = r.current.map (OpenEntry.shift k) := rfl
  rw [addMode, addMode, current]
  cases modeItem body with
  | error fault => rfl
  | ok item => cases r.current <;> rfl

/-- A line at the key column is read the same when all columns are shifted. -/
theorem keyLine_shift (column : Nat) (content : List Char) :
    (r.shift k).keyLine (column + k) content
      = (r.keyLine column content).map (Reader.shift k) := by
  have current : (r.shift k).current = r.current.map (OpenEntry.shift k) := rfl
  rw [keyLine, keyLine, current]
  cases r.current with
  | none => rfl
  | some entry =>
    have keyColumn : (entry.shift k).keyColumn.getD (column + k)
        = entry.keyColumn.getD column + k := by
      rw [OpenEntry.shift]
      cases entry.keyColumn <;> rfl
    simp only [Option.map_some, keyColumn]
    split
    · rfl
    · by_cases same : column = entry.keyColumn.getD column
      · -- The keys stand here from now on, so the column under which a block opens is known.
        rw [if_neg (by omega), if_neg (by omega)]
        exact entryField_shift k { r with
          current := some { entry with keyColumn := some (entry.keyColumn.getD column) } }
          (by simp) content
      · rw [if_pos (by omega), if_pos (by omega)]
        rfl

/-- A line deeper than the dashes is read the same when all columns are shifted. -/
theorem deepLine_shift (column : Nat) (content : List Char) :
    (r.shift k).deepLine (column + k) content
      = (r.deepLine column content).map (Reader.shift k) := by
  have block : (r.shift k).block = r.block.shift k := rfl
  rw [deepLine, deepLine, block]
  cases r.block with
  | none => exact keyLine_shift k r column content
  | skip deeperThan => exact keyLine_shift k r column content
  | modes keyColumn itemColumn =>
    cases itemBody? content with
    | none => exact keyLine_shift k { r with block := .none } column content
    | some body =>
      simp only [Block.shift]
      have items : (itemColumn.map (· + k)).getD (column + k) = itemColumn.getD column + k := by
        cases itemColumn <;> rfl
      rw [items]
      by_cases fits : keyColumn ≤ column ∧ itemColumn.getD column = column
      · rw [if_pos (by omega), if_pos fits]
        exact addMode_shift k { r with block := .modes keyColumn (some column) } body
      · rw [if_neg (by omega), if_neg fits]
        rfl

/-- A line of the entry list is read the same when all columns are shifted. -/
theorem listLine_shift (column : Nat) (content : List Char) :
    (r.shift k).listLine (column + k) content
      = (r.listLine column content).map (Reader.shift k) := by
  have entryColumn : (r.shift k).entryColumn = r.entryColumn.map (· + k) := rfl
  have deep := deepLine_shift k r column content
  rw [listLine, listLine, entryColumn]
  cases dash : r.entryColumn with
  | none =>
    cases item : itemBody? content with
    | none => rfl
    | some body =>
      exact startEntry_shift k { r with entryColumn := some column } column
        (byteLength_itemBody? item).le
  | some entryColumn =>
    simp only [Option.map_some]
    by_cases before : column < entryColumn
    · rw [if_pos (by omega), if_pos before]
      rfl
    · rw [if_neg (by omega), if_neg before]
      by_cases here : column = entryColumn
      · rw [if_pos (by omega), if_pos here]
        cases item : itemBody? content with
        | none => rfl
        | some body => exact startEntry_shift k r column (byteLength_itemBody? item).le
      · rw [if_neg (by omega), if_neg here]
        exact deep

/-- A line of the list's section is read the same when all columns are shifted. -/
theorem entriesLine_shift (column : Nat) (content : List Char) :
    (r.shift k).entriesLine (column + k) content
      = (r.entriesLine column content).map (Reader.shift k) := by
  have block : (r.shift k).block = r.block.shift k := rfl
  rw [entriesLine, entriesLine, block]
  cases r.block with
  | none => exact listLine_shift k r column content
  | modes keyColumn itemColumn => exact listLine_shift k r column content
  | skip deeperThan =>
    simp only [Block.shift]
    by_cases deeper : deeperThan < column
    · rw [if_pos (by omega), if_pos deeper]
      rfl
    · rw [if_neg (by omega), if_neg deeper]
      exact listLine_shift k { r with block := .none } column content

/-- A line inside the list is read the same when all columns are shifted. -/
theorem contentLine_shift {column : Nat} {content : List Char}
    (inside : column ≠ 0 ∨ (itemBody? content).isSome = true) :
    (r.shift k).contentLine (column + k) content
      = (r.contentLine column content).map (Reader.shift k) := by
  have place : (r.shift k).place = r.place := rfl
  have off : ¬(column = 0 ∧ (itemBody? content).isNone = true) := by
    rintro ⟨margin, noItem⟩
    rw [Option.isNone_iff_eq_none] at noItem
    simp [margin, noItem] at inside
  have off' : ¬(column + k = 0 ∧ (itemBody? content).isNone = true) := by
    rintro ⟨margin, noItem⟩
    exact off ⟨by omega, noItem⟩
  rw [contentLine, contentLine]
  dsimp only
  rw [if_neg off, if_neg off', place]
  cases here : r.place with
  | start => rfl
  | other =>
    rw [Reader.shift]
    rfl
  | inline => rfl
  | entries =>
    have entries := entriesLine_shift k { r with sawContent := true } column content
    rw [here] at entries
    exact entries

end Step

/-- What a line says does not change when it is indented further, only its column does. -/
theorem line_shift (k : Nat) (r : Reader) {text : List Char} (inside : IsInside text) :
    (r.shift k).line (spaces k ++ text) = (r.line text).map (Reader.shift k) := by
  have noise : isNoise (spaces k ++ text) = isNoise text := by
    rw [isNoise, isNoise, contentOf_spaces_append]
  have tabbed : isTabbed (spaces k ++ text) = isTabbed text := by
    rw [isTabbed, isTabbed, contentOf_spaces_append]
  rw [line_eq, line_eq, noise, tabbed]
  split
  · rfl
  · rename_i loud
    split
    · rfl
    · rename_i spaced
      have inside : columnOf text ≠ 0 ∨ (itemBody? (contentOf text)).isSome = true := by
        simpa [IsInside, loud, spaced] using inside
      have noMark : ∀ column, columnOf text ≤ column →
          ¬(column = 0 ∧ isDocumentStart (contentOf text) = true) := by
        rintro column right ⟨margin, mark⟩
        cases inside with
        | inl off => omega
        | inr item =>
          obtain ⟨body, item⟩ := Option.isSome_iff_exists.mp item
          rw [isDocumentStart_of_itemBody? item] at mark
          cases mark
      rw [columnOf_spaces_append, contentOf_spaces_append, if_neg (noMark _ (Nat.le_add_right _ k)),
        if_neg (noMark _ le_rfl)]
      exact contentLine_shift k r inside

/-- A run over lines inside the list shifts with them: the same state, or the same fault on the same
line. -/
theorem lines_shift (k : Nat) (r : Reader) {lines : List (List Char)}
    (inside : ∀ line ∈ lines, IsInside line) (number : Nat) :
    (r.shift k).lines number (lines.map (spaces k ++ ·))
      = (r.lines number lines).map (Reader.shift k) := by
  induction lines generalizing r number with
  | nil => rfl
  | cons text rest ih =>
    rw [List.forall_mem_cons] at inside
    rw [List.map_cons, Reader.lines, Reader.lines, line_shift k r inside.1]
    cases r.line text with
    | error fault => rfl
    | ok next => exact ih next inside.2 (number + 1)

/-- What was read in the end has no columns. -/
theorem finish_shift (k : Nat) (r : Reader) : (r.shift k).finish = r.finish := by
  have topKeys : (r.shift k).topKeys = r.topKeys := rfl
  rw [finish, finish, topKeys, closeEntry_shift]
  rfl

/-- Behind the key of the entries nothing is remembered that an indentation would change. -/
theorem shift_eq_self_of_isKeyLine {r r' : Reader} (sound : Sound r) {text : List Char}
    (is : IsKeyLine 0 entriesKey.toList text) (step : r.line text = .ok r') (k : Nat) :
    r'.shift k = r' := by
  rw [line_of_isKeyLine_zero r is] at step
  obtain ⟨key, value, found, fresh, place, after, -⟩ := topLevel_cases step
  obtain ⟨value', splits⟩ := is.splits
  have same : key = entriesKey.toList := by
    rw [splits] at found
    injection found with found
    injection found with found
    exact (Prod.mk.inj found).1.symm
  rw [same] at fresh
  rw [after, closeEntry_eq, sound.entryColumn_eq_none fresh]
  rfl

end Reader

/-- Only the distances between columns count in the list of entries. When a list is indented as a
whole by `k` more spaces, the same entries are read, or the same line is refused for the same
reason. -/
theorem parse_indent (k : Nat) {header body keyLine : List Char} {before after : List (List Char)}
    (ended : header.getLast? = some '\n') (lines : Text.lines header = before ++ keyLine :: after)
    (key : IsKeyLine 0 entriesKey.toList keyLine) (noise : ∀ line ∈ after, isNoise line = true)
    (inside : ∀ line ∈ Text.lines body, IsInside line) :
    parse (header ++ Text.indent k body) = parse (header ++ body) := by
  rw [parse, parse, Text.lines_append ended, Text.lines_append ended, Text.lines_indent]
  cases head : ({} : Reader).lines 1 (Text.lines header) with
  | error fault => rw [Reader.lines_append_error head, Reader.lines_append_error head]
  | ok r =>
    rw [Reader.lines_append head, Reader.lines_append head]
    rw [lines] at head
    obtain ⟨between, first, second⟩ := Reader.exists_lines_of_append head
    obtain ⟨entered, step, onward⟩ := Reader.exists_line_of_cons second
    rw [Reader.lines_of_isNoise entered noise, Except.ok.injEq] at onward
    rw [onward] at step
    have still : r.shift k = r :=
      Reader.shift_eq_self_of_isKeyLine (Reader.sound_start.lines first) key step k
    have run := Reader.lines_shift k r inside (1 + (Text.lines header).length)
    rw [still] at run
    rw [← spaces, run]
    cases r.lines (1 + (Text.lines header).length) (Text.lines body) with
    | error fault => rfl
    | ok r' => exact Reader.finish_shift k r'

/-- A list of one entry may stand at the margin or two columns to the right. -/
theorem parse_indent_sample :
    IsKeyLine 0 entriesKey.toList "entries:".toList ∧
      (∀ line ∈ Text.lines "- token: a\n  modes:\n  - b\n".toList, IsInside line) ∧
      parse "entries:\n  - token: a\n    modes:\n    - b\n".toList
        = parse "entries:\n- token: a\n  modes:\n  - b\n".toList := by
  have key : IsKeyLine 0 entriesKey.toList "entries:".toList := {
    loud := by decide
    spaced := by decide
    stands := by decide
    noMark := by decide
    noItem := by decide
    splits := ⟨[], by rfl⟩ }
  have lines : Text.lines "entries:\n".toList = [] ++ "entries:".toList :: [] := by decide
  have inside : ∀ line ∈ Text.lines "- token: a\n  modes:\n  - b\n".toList, IsInside line := by
    decide
  exact ⟨key, inside, parse_indent 2 (by decide) lines key (by simp) inside⟩

end CatalogAudit.Manifest.Line
