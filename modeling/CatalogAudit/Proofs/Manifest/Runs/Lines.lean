import CatalogAudit.Proofs.Manifest.Decoding.Entry

/-!
# What a line is to the reader

A line of a manifest has a column and a content behind its indentation, or it says nothing. A run of
the reader goes through lines one by one, so that a run over some lines is a run over the first of
them and then one over the others. Which number the first line has shows only in a fault.
-/

namespace CatalogAudit.Manifest.Line

open Layout

/-- What stands in a line behind its indentation. -/
def contentOf (line : List Char) : List Char := line.dropWhile (· == ' ')

/-- The column of what stands in a line behind its indentation. -/
def columnOf (line : List Char) : Nat := line.length - (contentOf line).length

/-- Whether a line says nothing, because it is blank or a comment. -/
def isNoise (line : List Char) : Bool :=
  Text.isBlankText (contentOf line) || Text.startsWith (· == '#') (contentOf line)

/-- Whether a tab comes behind the spaces at the beginning of a line. -/
def isTabbed (line : List Char) : Bool := Text.startsWith (· == '\t') (contentOf line)

/-- The line is a key with a value at a column. -/
structure IsKeyLine (column : Nat) (key line : List Char) : Prop where
  /-- It says something. -/
  loud : isNoise line = false
  /-- Only spaces come before it. -/
  spaced : isTabbed line = false
  /-- It stands at the column. -/
  stands : columnOf line = column
  /-- It is no mark that begins a document. -/
  noMark : ¬(column = 0 ∧ isDocumentStart (contentOf line) = true)
  /-- It is no list item. -/
  noItem : itemBody? (contentOf line) = none
  /-- It begins with the key. -/
  splits : ∃ value, splitKey (contentOf line) = .ok (some (key, value))

/-- Indentation adds nothing to the content of a line. -/
theorem contentOf_spaces_append (n : Nat) (line : List Char) :
    contentOf (spaces n ++ line) = contentOf line := by
  apply List.dropWhile_append_of_pos
  intro c mem
  rw [List.eq_of_mem_replicate mem]
  rfl

/-- Indentation moves the column of a line. -/
theorem columnOf_spaces_append (n : Nat) (line : List Char) :
    columnOf (spaces n ++ line) = columnOf line + n := by
  have le := (List.dropWhile_sublist (l := line) (· == ' ')).length_le
  rw [columnOf, columnOf, contentOf_spaces_append, List.length_append, spaces,
    List.length_replicate, contentOf]
  omega

namespace Reader

/-- How one line is read, by what it is. -/
theorem line_eq (r : Reader) (text : List Char) :
    r.line text =
      if isNoise text then .ok r
      else if isTabbed text then .error .tabIndentation
      else if columnOf text = 0 ∧ isDocumentStart (contentOf text) then
        if r.sawContent then .error .secondDocument else .ok r
      else r.contentLine (columnOf text) (contentOf text) := rfl

/-- A line that says nothing leaves the reader as it is. -/
theorem line_of_isNoise (r : Reader) {text : List Char} (noise : isNoise text = true) :
    r.line text = .ok r := by
  rw [line_eq, if_pos noise]

/-- A line is quiet for a reader that stays as it is: the line says nothing, or it is the mark that
may stand before all content. -/
def IsQuiet (r : Reader) (text : List Char) : Prop :=
  isNoise text = true ∨ isTabbed text = false ∧
    (columnOf text = 0 ∧ isDocumentStart (contentOf text) = true) ∧ r.sawContent = false

/-- A quiet line leaves the reader as it is. -/
theorem line_of_isQuiet {r : Reader} {text : List Char} (quiet : IsQuiet r text) :
    r.line text = .ok r := by
  rw [line_eq]
  rcases quiet with noise | ⟨spaced, mark, unseen⟩
  · exact if_pos noise
  · rw [spaced, if_neg Bool.false_ne_true, if_pos mark, unseen, if_neg Bool.false_ne_true, ite_self]

/-- A line that says something is read as its content at its column. -/
theorem line_of_loud (r : Reader) {text : List Char} (loud : isNoise text = false)
    (spaced : isTabbed text = false)
    (noMark : ¬(columnOf text = 0 ∧ isDocumentStart (contentOf text) = true)) :
    r.line text = r.contentLine (columnOf text) (contentOf text) := by
  rw [line_eq, loud, if_neg Bool.false_ne_true, spaced, if_neg Bool.false_ne_true, if_neg noMark]

/-- A key is read at its column. -/
theorem line_of_isKeyLine (r : Reader) {column : Nat} {key text : List Char}
    (is : IsKeyLine column key text) : r.line text = r.contentLine column (contentOf text) := by
  have noMark : ¬(columnOf text = 0 ∧ isDocumentStart (contentOf text) = true) := by
    rw [is.stands]
    exact is.noMark
  rw [line_of_loud r is.loud is.spaced noMark, is.stands]

/-- A key at the margin is a key of the top level. -/
theorem line_of_isKeyLine_zero (r : Reader) {key text : List Char} (is : IsKeyLine 0 key text) :
    r.line text = { r with sawContent := true }.topLevel (contentOf text) := by
  have margin : 0 = 0 ∧ (itemBody? (contentOf text)).isNone = true := by simp [is.noItem]
  rw [line_of_isKeyLine r is, contentLine]
  exact if_pos margin

/-- Lines that say nothing leave the reader as it is. -/
theorem lines_of_isNoise (r : Reader) {lines : List (List Char)}
    (noise : ∀ line ∈ lines, isNoise line = true) (number : Nat) :
    r.lines number lines = .ok r := by
  induction lines generalizing number with
  | nil => rfl
  | cons text rest ih =>
    rw [List.forall_mem_cons] at noise
    rw [Reader.lines, line_of_isNoise r noise.1]
    exact ih noise.2 (number + 1)

/-- A run over lines reads the first one, and then the others. -/
theorem exists_line_of_cons {r r' : Reader} {number : Nat} {text : List Char}
    {rest : List (List Char)} (run : r.lines number (text :: rest) = .ok r') :
    ∃ next, r.line text = .ok next ∧ next.lines (number + 1) rest = .ok r' := by
  rw [Reader.lines] at run
  cases step : r.line text with
  | error fault => simp [step] at run
  | ok next => exact ⟨next, rfl, by simpa [step] using run⟩

/-- The numbers of lines that are read do not matter. -/
theorem reads_of_lines {r r' : Reader} {number : Nat} {lines : List (List Char)}
    (run : r.lines number lines = .ok r') : Reads r lines r' := by
  induction lines generalizing r number with
  | nil => exact fun _ => run
  | cons text rest ih =>
    obtain ⟨next, step, onward⟩ := exists_line_of_cons run
    exact reads_cons step (ih onward)

/-- A run that has failed is not mended by more lines. -/
theorem lines_append_error {r : Reader} {number : Nat} {first : List (List Char)}
    {fault : DocumentFault} (before : r.lines number first = .error fault)
    (second : List (List Char)) : r.lines number (first ++ second) = .error fault := by
  induction first generalizing r number with
  | nil => cases before
  | cons text first ih =>
    rw [Reader.lines] at before
    rw [List.cons_append, Reader.lines]
    cases step : r.line text with
    | error fault' => simpa [step] using before
    | ok next => exact ih (by simpa [step] using before)

/-- A run over two stretches of lines goes over the first one, and then over the second. -/
theorem exists_lines_of_append {r r' : Reader} {number : Nat} {first second : List (List Char)}
    (run : r.lines number (first ++ second) = .ok r') :
    ∃ between, r.lines number first = .ok between ∧
      between.lines (number + first.length) second = .ok r' := by
  cases before : r.lines number first with
  | error fault =>
    rw [lines_append_error before] at run
    cases run
  | ok between =>
    rw [lines_append before] at run
    exact ⟨between, rfl, run⟩

end Reader

end CatalogAudit.Manifest.Line
