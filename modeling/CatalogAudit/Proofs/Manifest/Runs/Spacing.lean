import CatalogAudit.Proofs.Manifest.Runs.Trailing
import CatalogAudit.Proofs.Manifest.Decoding.Document

/-!
# Layout that does not count

Spaces at the end of lines, lines that say nothing and the kind of line ends make no difference to
the reader. A line with more spaces at its end leads to the same state, or it is refused as before,
perhaps with other words; a line that says nothing leads nowhere. What is read of a text is then the
same by induction on the edits of its lines.
-/

namespace CatalogAudit.Manifest.Line

open Layout

/-- What agrees on every text with something in it agrees behind trimmed texts. -/
theorem agree_padded {α : Type} {f : List Char → Except Fault α} (n : Nat)
    (agree : ∀ text, text ≠ [] → Agree Eq (f text) (f (text ++ spaces n))) (text : List Char) :
    Agree Eq (f text) (f (padded n text)) := by
  cases text with
  | nil => exact agree_refl _
  | cons c text => exact agree _ (List.cons_ne_nil c text)

namespace Reader

section Step

variable (r : Reader) (n : Nat)

/-- The value of the entry list is read the same with spaces behind it. -/
theorem openEntries_append_spaces (value : List Char) :
    Agree Eq (r.openEntries value) (r.openEntries (value ++ spaces n)) := by
  simp only [openEntries, trimStart_append_spaces, isSpent_padded, startsWith_padded]
  generalize Text.trimStart value = value
  split
  · exact .result rfl
  · split
    · have agree := agree_padded n (fun _ filled => flowList_append_spaces n filled) value
      exact agree.transfer (fun _ => agree_refl _) .fault
    · have agree := agree_padded n (fun text _ => scalarValue_append_spaces n text) value
      exact agree.transfer (fun _ => agree_refl _) .fault

/-- A top-level line is read the same with spaces behind it. -/
theorem topLevel_append_spaces {content : List Char} (filled : content ≠ []) :
    Agree Eq (r.topLevel content) (r.topLevel (content ++ spaces n)) := by
  have agree := splitKey_append_spaces n filled
  rw [topLevel, topLevel]
  generalize splitKey content = found, splitKey (content ++ spaces n) = found' at agree
  cases agree with
  | fault => exact .fault _ _
  | result same =>
    rename_i key? key?'
    rw [same]
    cases key? with
    | none => exact .fault _ _
    | some pair =>
      obtain ⟨key, value⟩ := pair
      simp only [Option.map_some, withSpaces]
      split
      · exact .fault _ _
      · split
        · exact openEntries_append_spaces _ n value
        · exact .result rfl

/-- The value of the modes is read the same with spaces behind it. -/
theorem modesValue_append_spaces {value : List Char} (filled : value ≠ []) :
    Agree Eq (modesValue value) (modesValue (value ++ spaces n)) := by
  rw [modesValue, modesValue, startsWith_append_spaces n filled]
  split
  · exact flowList_append_spaces n filled
  · have agree := scalarValue_append_spaces n value
    exact agree.transfer (fun _ => agree_refl _) .fault

/-- The value of a field is stored the same with spaces behind it. -/
theorem storeField_append_spaces (entry : OpenEntry) (key value : List Char) :
    Agree Eq (r.storeField entry key value) (r.storeField entry key (value ++ spaces n)) := by
  have scalar := scalarValue_append_spaces n value
  simp only [storeField, trimStart_append_spaces, isSpent_padded]
  split
  · exact scalar.transfer (fun _ => agree_refl _) .fault
  · split
    · exact scalar.transfer (fun _ => agree_refl _) .fault
    · split
      · generalize Text.trimStart value = value
        split
        · exact .result rfl
        · have modes := agree_padded n (fun _ filled => modesValue_append_spaces n filled) value
          exact modes.transfer (fun _ => agree_refl _) .fault
      · exact .result rfl

/-- A field is read the same with spaces behind it. -/
theorem entryField_append_spaces {text : List Char} (filled : text ≠ []) :
    Agree Eq (r.entryField text) (r.entryField (text ++ spaces n)) := by
  have agree := splitKey_append_spaces n filled
  rw [entryField, entryField, startsWith_append_spaces n filled]
  generalize splitKey text = found, splitKey (text ++ spaces n) = found' at agree
  split
  · exact .fault _ _
  · cases agree with
    | fault => exact .fault _ _
    | result same =>
      rename_i key? key?'
      rw [same]
      cases key? with
      | none => exact .fault _ _
      | some pair =>
        cases r.current with
        | none => exact .fault _ _
        | some entry =>
          simp only [Option.map_some, withSpaces]
          split
          · exact .fault _ _
          · exact storeField_append_spaces r n entry pair.1 pair.2

/-- The column of the keys is reckoned from the lengths of two texts with the same spaces. -/
theorem startEntry_append_spaces (column : Nat) (content body : List Char) :
    Agree Eq (r.startEntry column content body)
      (r.startEntry column (content ++ spaces n) (padded n body)) := by
  cases body with
  | nil => exact agree_refl _
  | cons c body =>
    have keyColumn : column + Text.byteLength (content ++ spaces n)
          - Text.byteLength (c :: body ++ spaces n)
        = column + Text.byteLength content - Text.byteLength (c :: body) := by
      rw [Text.byteLength_append, Text.byteLength_append, byteLength_spaces]
      omega
    rw [padded_of_ne_nil n (List.cons_ne_nil c body)]
    simp only [startEntry, keyColumn]
    exact entryField_append_spaces _ n (List.cons_ne_nil c body)

/-- A mode is read the same with spaces behind it. -/
theorem modeItem_append_spaces {body : List Char} (filled : body ≠ []) :
    Agree Eq (modeItem body) (modeItem (body ++ spaces n)) := by
  have empty : (body ++ spaces n).isEmpty = body.isEmpty := by
    rw [← padded_of_ne_nil n filled, isEmpty_padded]
  have agree := splitKey_append_spaces n filled
  rw [modeItem, modeItem, startsWith_append_spaces n filled, empty,
    itemBody?_append_spaces n filled, Option.isSome_map]
  generalize splitKey body = found, splitKey (body ++ spaces n) = found' at agree
  split
  · exact .result rfl
  · cases agree with
    | fault => exact .fault _ _
    | result same =>
      rename_i key? key?'
      rw [same]
      cases key? with
      | some pair => exact .result rfl
      | none =>
        exact (scalarValue_append_spaces n body).transfer (fun _ => agree_refl _) .fault

/-- A mode behind its dash is read the same with spaces at its end, if it has any text. -/
theorem addMode_padded (body : List Char) :
    Agree Eq (r.addMode body) (r.addMode (padded n body)) := by
  have agree := agree_padded n (fun _ filled => modeItem_append_spaces n filled) body
  rw [addMode, addMode]
  exact agree.transfer (fun _ => agree_refl _) .fault

variable (column : Nat) {content : List Char} (filled : content ≠ [])
include filled

/-- A line at the key column is read the same with spaces behind it. -/
theorem keyLine_append_spaces :
    Agree Eq (r.keyLine column content) (r.keyLine column (content ++ spaces n)) := by
  rw [keyLine, keyLine, itemBody?_append_spaces n filled, Option.isSome_map]
  cases r.current with
  | none => exact .fault _ _
  | some entry =>
    dsimp only
    split
    · exact .fault _ _
    · split
      · exact .fault _ _
      · exact entryField_append_spaces _ n filled

/-- A line deeper than the dashes is read the same with spaces behind it. -/
theorem deepLine_append_spaces :
    Agree Eq (r.deepLine column content) (r.deepLine column (content ++ spaces n)) := by
  have key := fun r : Reader => keyLine_append_spaces r n column filled
  rw [deepLine, deepLine, itemBody?_append_spaces n filled]
  cases r.block with
  | none => exact key _
  | skip deeperThan => exact key _
  | modes keyColumn itemColumn =>
    cases itemBody? content with
    | none => exact key _
    | some body =>
      simp only [Option.map_some]
      split
      · exact addMode_padded _ n body
      · exact .fault _ _

/-- A line of the entry list is read the same with spaces behind it. -/
theorem listLine_append_spaces :
    Agree Eq (r.listLine column content) (r.listLine column (content ++ spaces n)) := by
  have deep := deepLine_append_spaces r n column filled
  rw [listLine, listLine, itemBody?_append_spaces n filled]
  cases r.entryColumn with
  | none =>
    cases itemBody? content with
    | none => exact .fault _ _
    | some body => exact startEntry_append_spaces _ n column content body
  | some entryColumn =>
    simp only
    split
    · exact .fault _ _
    · split
      · cases itemBody? content with
        | none => exact .fault _ _
        | some body => exact startEntry_append_spaces _ n column content body
      · exact deep

/-- A line of the list's section is read the same with spaces behind it. -/
theorem entriesLine_append_spaces :
    Agree Eq (r.entriesLine column content) (r.entriesLine column (content ++ spaces n)) := by
  have list := fun r : Reader => listLine_append_spaces r n column filled
  rw [entriesLine, entriesLine]
  cases r.block with
  | none => exact list _
  | modes keyColumn itemColumn => exact list _
  | skip deeperThan =>
    simp only
    split
    · exact .result rfl
    · exact list _

/-- Every line with content is read the same with spaces behind it. -/
theorem contentLine_append_spaces :
    Agree Eq (r.contentLine column content) (r.contentLine column (content ++ spaces n)) := by
  rw [contentLine, contentLine, itemBody?_append_spaces n filled, Option.isNone_map]
  dsimp only
  split
  · exact topLevel_append_spaces _ n filled
  · cases r.place with
    | start => exact .fault _ _
    | other => exact .result rfl
    | inline => exact .fault _ _
    | entries => exact entriesLine_append_spaces _ n column filled

end Step

/-- A line with more spaces at its end leads to the same state, or it is refused as before. -/
theorem line_append_spaces (r : Reader) (n : Nat) (text : List Char) :
    Agree Eq (r.line text) (r.line (text ++ spaces n)) := by
  have content : contentOf (text ++ spaces n) = padded n (contentOf text) :=
    dropWhile_append_spaces n rfl text
  have noise : isNoise (text ++ spaces n) = isNoise text := by
    rw [isNoise, isNoise, content, startsWith_padded, isBlankText_padded]
  have tabbed : isTabbed (text ++ spaces n) = isTabbed text := by
    rw [isTabbed, content, startsWith_padded, isTabbed]
  rw [line_eq, line_eq, noise, tabbed]
  split
  · exact .result rfl
  · rename_i loud
    have filled : contentOf text ≠ [] := by
      intro empty
      exact loud (by rw [isNoise, empty]; rfl)
    have column : columnOf (text ++ spaces n) = columnOf text := by
      rw [columnOf, columnOf, content, padded_of_ne_nil n filled, List.length_append,
        List.length_append]
      omega
    rw [column, content, padded_of_ne_nil n filled, isDocumentStart_append_spaces]
    split
    · exact .fault _ _
    · split
      · split
        · exact .fault _ _
        · exact .result rfl
      · exact contentLine_append_spaces r n _ filled

/-- Lines with more spaces at their ends, among which lines that say nothing were put. -/
inductive Respaced : List (List Char) → List (List Char) → Prop
  /-- No lines are left. -/
  | nil : Respaced [] []
  /-- The next line has `n` more spaces at its end. -/
  | line (text : List Char) (n : Nat) {lines lines' : List (List Char)}
      (rest : Respaced lines lines') : Respaced (text :: lines) ((text ++ spaces n) :: lines')
  /-- A line that is blank or a comment comes before the next one. -/
  | noise {text : List Char} (noise : isNoise text = true) (oneLine : Text.OneLine text)
      {lines lines' : List (List Char)} (rest : Respaced lines lines') :
      Respaced lines (text :: lines')

/-- The edits put no line end into a line. -/
theorem Respaced.oneLine {lines lines' : List (List Char)} (edited : Respaced lines lines')
    (oneLine : ∀ line ∈ lines, Text.OneLine line) : ∀ line ∈ lines', Text.OneLine line := by
  induction edited with
  | nil => exact oneLine
  | line text n rest ih =>
    rw [List.forall_mem_cons] at oneLine ⊢
    exact ⟨Text.oneLine_append.mpr ⟨oneLine.1, oneLine_spaces n⟩, ih oneLine.2⟩
  | noise noise textOneLine rest ih =>
    rw [List.forall_mem_cons]
    exact ⟨textOneLine, ih oneLine⟩

/-- Edited lines lead where the lines lead, or both runs end in a fault. -/
theorem lines_respaced {lines lines' : List (List Char)} (edited : Respaced lines lines')
    (r : Reader) (number number' : Nat) :
    (r.lines number' lines').toOption = (r.lines number lines).toOption := by
  induction edited generalizing r number number' with
  | nil => rfl
  | line text n rest ih =>
    rw [Reader.lines, Reader.lines]
    refine (line_append_spaces r n text).transfer (fun read => ?_) fun f f' => rfl
    cases read with
    | error fault => rfl
    | ok next => exact ih next (number + 1) (number' + 1)
  | noise noise oneLine rest ih =>
    rw [Reader.lines, line_of_isNoise r noise]
    exact ih r number (number' + 1)

end Reader

/-- Layout does not count. A text is what its lines are when each ends in a line feed, the last one
perhaps in nothing. When spaces are put at the ends of these lines, when blank lines and comments
are put among them and when they are written with line ends of another kind, the entries that are
read stay the same, and a text that is refused stays refused. -/
theorem parse_respaced {text : List Char} (noReturn : '\r' ∉ text) :
    (∃ closed, text = Text.written (fun _ => .feed) closed (Text.lines text)) ∧
      ∀ {lines' : List (List Char)}, Reader.Respaced (Text.lines text) lines' →
        ∀ (ends : Nat → Text.LineEnd) (closed : Bool),
          (parse (Text.written ends closed lines')).toOption = (parse text).toOption := by
  obtain ⟨closed, same, oneLine⟩ := Text.exists_written_lines noReturn
  refine ⟨⟨closed, same⟩, ?_⟩
  intro lines' edited ends closed'
  have read : ({} : Reader).lines 1 (Text.lines (Text.written ends closed' lines'))
      = ({} : Reader).lines 1 lines' := by
    rw [Text.lines_written ends closed' (edited.oneLine oneLine)]
    split
    · rfl
    · exact Reader.lines_withoutEmptyEnd _ _ _
  have run := Reader.lines_respaced edited {} 1 1
  rw [parse, parse, read]
  generalize ({} : Reader).lines 1 lines' = end', ({} : Reader).lines 1 (Text.lines text) = end_
    at run
  cases end' with
  | error fault =>
    cases end_ with
    | error fault => rfl
    | ok r => cases run
  | ok r' =>
    cases end_ with
    | error fault => cases run
    | ok r =>
      rw [Option.some.inj run]

/-- Spaces behind a key, a comment at the end and other line ends leave one entry as it is. -/
theorem parse_respaced_sample :
    '\r' ∉ "entries:\n- token: a\n".toList ∧
      Reader.Respaced (Text.lines "entries:\n- token: a\n".toList)
        ["entries:  ".toList, "- token: a".toList, " # end".toList] ∧
      (parse "entries:  \r\n- token: a\r\n # end".toList).toOption
        = (parse "entries:\n- token: a\n".toList).toOption := by
  have noReturn : '\r' ∉ "entries:\n- token: a\n".toList := by decide
  have edited : Reader.Respaced ["entries:".toList, "- token: a".toList]
      ["entries:  ".toList, "- token: a".toList, " # end".toList] := by
    apply Reader.Respaced.line _ 2
    apply Reader.Respaced.line _ 0
    apply Reader.Respaced.noise (by decide) (by decide)
    exact Reader.Respaced.nil
  exact ⟨noReturn, edited, (parse_respaced noReturn).2 edited (fun _ => .returnFeed) false⟩

end CatalogAudit.Manifest.Line
