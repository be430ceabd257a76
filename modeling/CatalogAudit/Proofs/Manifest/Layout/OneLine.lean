import CatalogAudit.Proofs.Manifest.Layout.Document

/-!
# Lines of a layout

No line of a layout holds a line end, however its values are written: line ends among the characters
of a value are always escaped.
-/

namespace CatalogAudit.Manifest.Layout

open Text (OneLine oneLine_append oneLine_cons oneLine_nil)

/-- A gap between two tokens stays on the line. -/
theorem oneLine_gap (gap : Gap) : OneLine gap.text := by
  intro c mem
  have blank := gap.blank c mem
  apply Text.isLineEnd_eq_false <;> rintro rfl <;> exact absurd blank (by decide)

/-- Indentation stays on the line. -/
theorem oneLine_spaces (n : Nat) : OneLine (spaces n) := oneLine_gap (Gap.spaces n)

/-- A piece of a string in quotes stays on the line, escapes and all. -/
theorem oneLine_piece (piece : Piece) : OneLine piece.text := by
  cases piece with
  | literal c inside =>
    rw [Piece.text, oneLine_cons]
    exact ⟨inside.2.2, oneLine_nil⟩
  | letter l c listed =>
    have letters : ∀ line ∈ Text.escapeTable, Text.isLineEnd line.1 = false := by decide
    have inside : Text.isLineEnd l = false := letters _ listed
    rw [Piece.text, oneLine_cons, oneLine_cons]
    exact ⟨rfl, inside, oneLine_nil⟩
  | number l digits c announced code =>
    have letters : ∀ line ∈ Text.widthTable, Text.isLineEnd line.1 = false := by decide
    have inside : Text.isLineEnd l = false := letters _ announced
    rw [Piece.text, oneLine_cons, oneLine_cons]
    refine ⟨rfl, inside, ?_⟩
    intro d mem
    have digit := (Text.hexNumber_iff.mp code).1 d mem
    apply Text.isLineEnd_eq_false <;> rintro rfl <;> exact absurd digit (by decide)

/-- Texts that stay on the line do so one behind the other. -/
theorem oneLine_flatMap {α : Type} {text : α → List Char} {items : List α}
    (h : ∀ item ∈ items, OneLine (text item)) : OneLine (items.flatMap text) := by
  intro c mem
  obtain ⟨item, inItems, inside⟩ := List.mem_flatMap.mp mem
  exact h item inItems c inside

/-- A string in quotes stays on the line. -/
theorem oneLine_quoted (q : Quoted) : OneLine q.text := by
  cases q with
  | double pieces =>
    rw [Quoted.text, oneLine_cons, oneLine_append]
    exact ⟨rfl, oneLine_flatMap fun piece _ => oneLine_piece piece, by decide⟩
  | single value oneLine =>
    have doubled : OneLine (value.flatMap Quoted.doubled) := by
      apply oneLine_flatMap
      intro c mem
      rw [Quoted.doubled]
      split
      · decide
      · rw [oneLine_cons]
        exact ⟨oneLine c mem, oneLine_nil⟩
    rw [Quoted.text, oneLine_cons, oneLine_append]
    exact ⟨rfl, doubled, by decide⟩

/-- A scalar stays on the line, plain or in quotes. -/
theorem oneLine_scalar (s : Scalar) : OneLine s.text := by
  cases s with
  | quoted q => exact oneLine_quoted q
  | plain p => exact p.oneLine

/-- What follows a value stays on the line. -/
theorem oneLine_tail (tail : Tail) : OneLine tail.text := by
  cases tail with
  | blank gap => exact oneLine_gap gap
  | comment gap apart words oneLine =>
    rw [Tail.text, oneLine_append, oneLine_cons]
    exact ⟨oneLine_gap gap, rfl, oneLine⟩

/-- A key stays on the line, with its gap and its colon. -/
theorem oneLine_key {name : List Char} (nameOneLine : OneLine name) (key : Key name) :
    OneLine key.text := by
  have spelling : OneLine key.spelling.text := by
    cases key.spelling with
    | bare => exact nameOneLine
    | quoted q same => exact oneLine_quoted q
  rw [Key.text, oneLine_append, oneLine_append]
  exact ⟨⟨spelling, oneLine_gap key.gap⟩, by decide⟩

/-- A line that does not count is one line. -/
theorem oneLine_noise (noise : Noise) : OneLine noise.text := by
  cases noise with
  | blank gap => exact oneLine_gap gap
  | comment indent words oneLine =>
    rw [Noise.text, oneLine_append, oneLine_cons]
    exact ⟨oneLine_spaces indent, rfl, oneLine⟩

/-- Each of several lines that do not count is one line. -/
theorem oneLine_of_mem_noise {noise : List Noise} {line : List Char}
    (mem : line ∈ noise.map Noise.text) : OneLine line := by
  obtain ⟨one, -, rfl⟩ := List.mem_map.mp mem
  exact oneLine_noise one

/-- An item of a list in brackets stays on the line. -/
theorem oneLine_flowItem (item : FlowItem) : OneLine item.text := by
  rw [FlowItem.text, oneLine_append, oneLine_append]
  exact ⟨⟨oneLine_gap _, oneLine_scalar _⟩, oneLine_gap _⟩

/-- A list in brackets stays on the line. -/
theorem oneLine_flowList (list : FlowList) : OneLine list.text := by
  induction list with
  | close gap =>
    rw [FlowList.text, oneLine_append]
    exact ⟨oneLine_gap gap, by decide⟩
  | last item =>
    rw [FlowList.text, oneLine_append]
    exact ⟨oneLine_flowItem item, by decide⟩
  | more item rest ih =>
    rw [FlowList.text, oneLine_append, oneLine_cons]
    exact ⟨oneLine_flowItem item, rfl, ih⟩

/-- A mode behind its dash stays on the line. -/
theorem oneLine_modeLine (mode : ModeLine) : OneLine mode.text := by
  rw [ModeLine.text, oneLine_cons, oneLine_append, oneLine_append]
  exact ⟨rfl, ⟨oneLine_gap _, oneLine_scalar _⟩, oneLine_tail _⟩

/-- What stands behind the key of the modes stays on the line. -/
theorem oneLine_modes (modes : Modes) : OneLine modes.text := by
  cases modes with
  | inline gap apart items tail after =>
    rw [Modes.text, oneLine_append, oneLine_append, oneLine_cons]
    exact ⟨⟨oneLine_gap gap, rfl, oneLine_flowList items⟩, oneLine_tail tail⟩
  | below tail after extra first others => exact oneLine_tail tail

/-- Each line of a mode, the noise before it too, is one line. -/
theorem oneLine_of_mem_modeLine {column : Nat} {mode : ModeLine} {line : List Char}
    (mem : line ∈ mode.lines column) : OneLine line := by
  rw [ModeLine.lines, List.mem_cons] at mem
  cases mem with
  | inl here =>
    rw [here, oneLine_append]
    exact ⟨oneLine_spaces column, oneLine_modeLine mode⟩
  | inr after => exact oneLine_of_mem_noise after

/-- Each line of the modes below their key is one line. -/
theorem oneLine_of_mem_belowKey {column : Nat} {modes : Modes} {line : List Char}
    (mem : line ∈ modes.belowKey column) : OneLine line := by
  cases modes with
  | inline gap apart items tail after => exact oneLine_of_mem_noise mem
  | below tail after extra first others =>
    rw [Modes.belowKey, List.mem_append] at mem
    cases mem with
    | inl noise => exact oneLine_of_mem_noise noise
    | inr modes =>
      obtain ⟨mode, -, inside⟩ := List.mem_flatMap.mp modes
      exact oneLine_of_mem_modeLine inside

/-- A key and its value stay on the line. -/
theorem oneLine_assignment {name : List Char} (nameOneLine : OneLine name) (a : Assignment name) :
    OneLine a.text := by
  rw [Assignment.text, oneLine_append, oneLine_append, oneLine_append]
  exact ⟨⟨⟨oneLine_key nameOneLine a.key, oneLine_gap a.gap⟩, oneLine_scalar a.scalar⟩,
    oneLine_tail a.tail⟩

/-- The text of a field stays on the line of its key. -/
theorem oneLine_fieldText (e : Entry) (f : Field) : OneLine (e.fieldText f) := by
  cases f with
  | token => exact oneLine_assignment (by decide) e.token
  | kind => exact oneLine_assignment (by decide) e.kind
  | modes =>
    cases written : e.modes with
    | none => simp [Entry.fieldText, written, oneLine_nil]
    | some keyed =>
      obtain ⟨key, modes⟩ := keyed
      simp only [Entry.fieldText, written, Option.map_some, Option.getD_some, oneLine_append]
      exact ⟨oneLine_key (by decide) key, oneLine_modes modes⟩

/-- Each line below the key of a field is one line. -/
theorem oneLine_of_mem_fieldBelow {e : Entry} {column : Nat} {f : Field} {line : List Char}
    (mem : line ∈ e.fieldBelow column f) : OneLine line := by
  cases f with
  | token => exact oneLine_of_mem_noise mem
  | kind => exact oneLine_of_mem_noise mem
  | modes =>
    cases written : e.modes with
    | none => simp [Entry.fieldBelow, written] at mem
    | some keyed =>
      obtain ⟨key, modes⟩ := keyed
      simp only [Entry.fieldBelow, written, Option.map_some, Option.getD_some] at mem
      exact oneLine_of_mem_belowKey mem

/-- Each line of the fields that do not come first is one line. -/
theorem oneLine_of_mem_fields {e : Entry} {column : Nat} {fields : List Field} {line : List Char}
    (mem : line ∈ fields.flatMap (e.fieldLines column)) : OneLine line := by
  obtain ⟨f, -, inside⟩ := List.mem_flatMap.mp mem
  rw [Entry.fieldLines, List.mem_cons] at inside
  cases inside with
  | inl here =>
    rw [here, oneLine_append]
    exact ⟨oneLine_spaces column, oneLine_fieldText e f⟩
  | inr below => exact oneLine_of_mem_fieldBelow below

/-- Each line of an entry is one line. -/
theorem oneLine_of_mem_entry {e : Entry} {column : Nat} {line : List Char}
    (mem : line ∈ e.lines column) : OneLine line := by
  rw [Entry.lines] at mem
  cases opening : e.opening with
  | behindDash more =>
    simp only [opening, List.cons_append, List.mem_cons, List.mem_append] at mem
    rcases mem with here | below | others
    · rw [here, oneLine_append, oneLine_cons, oneLine_append]
      exact ⟨oneLine_spaces column, rfl, oneLine_spaces _, oneLine_fieldText e e.first⟩
    · exact oneLine_of_mem_fieldBelow below
    · exact oneLine_of_mem_fields others
  | ownLine gap after more =>
    simp only [opening, List.cons_append, List.mem_cons, List.mem_append] at mem
    rcases mem with here | noise | fields
    · rw [here, oneLine_append, oneLine_cons]
      exact ⟨oneLine_spaces column, rfl, oneLine_gap gap⟩
    · exact oneLine_of_mem_noise noise
    · exact oneLine_of_mem_fields fields

/-- Each line before the entries is one line. -/
theorem oneLine_of_mem_headLines {doc : Document} {line : List Char}
    (mem : line ∈ doc.headLines) : OneLine line := by
  rw [Document.headLines, List.mem_append] at mem
  cases mem with
  | inl noise => exact oneLine_of_mem_noise noise
  | inr marked =>
    cases mark : doc.mark with
    | none => simp [mark] at marked
    | some tailed =>
      obtain ⟨tail, after⟩ := tailed
      simp only [mark, Option.map_some, Option.getD_some, List.mem_cons] at marked
      cases marked with
      | inl here =>
        rw [here, oneLine_cons, oneLine_cons, oneLine_cons]
        exact ⟨rfl, rfl, rfl, oneLine_tail tail⟩
      | inr noise => exact oneLine_of_mem_noise noise

/-- Every line of a document is one. -/
theorem oneLine_of_mem_lines {doc : Document} {line : List Char} (mem : line ∈ doc.lines) :
    OneLine line := by
  rw [Document.lines, List.append_assoc, List.mem_append, List.cons_append, List.mem_cons,
    List.mem_append] at mem
  rcases mem with head | key | noise | entries
  · exact oneLine_of_mem_headLines head
  · rw [key, oneLine_append]
    exact ⟨oneLine_key (by decide) doc.key, oneLine_tail doc.tail⟩
  · exact oneLine_of_mem_noise noise
  · obtain ⟨e, -, inside⟩ := List.mem_flatMap.mp entries
    exact oneLine_of_mem_entry inside

end CatalogAudit.Manifest.Layout
