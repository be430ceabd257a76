import CatalogAudit.Proofs.Manifest.Runs.Invariant
import CatalogAudit.Proofs.Manifest.Runs.Trailing

/-!
# Where a line goes wrong

A value, a key or a list in brackets is read from its text alone, so what is wrong with it never
depends on the lines before. The faults that do are those of a line where nothing is open for it:
one is an indentation that no open entry has, the other an item for which there is no list. Between
two lines the reader knows the entry that a deeper line belongs to, so the first of them means that
the line stands in front of the dashes, and the second that no list of modes is open.
-/

namespace CatalogAudit.Manifest.Line

/-- Whether the fault says that nothing is open for a line. -/
def Fault.isStray : Fault → Bool
  | indentation | listItem => true
  | _ => false

section Textual

variable {text : List Char} {fault : Fault}

/-- What is wrong with an escape is wrong with its text. -/
theorem isStray_of_readEscape (refused : readEscape text = .error fault) :
    fault.isStray = false := by
  unfold readEscape readHex at refused
  grind [Fault.isStray]

/-- What is wrong with a string in single quotes is wrong with its text. -/
theorem isStray_of_readSingle {value : List Char}
    (refused : readSingle value text = .error fault) : fault.isStray = false := by
  fun_induction readSingle value text with
  | case1 => cases refused; rfl
  | case2 value rest ih => exact ih refused
  | case3 => cases refused
  | case4 value c rest _ _ ih => exact ih refused

/-- What is wrong with a string in double quotes is wrong with its text. -/
theorem isStray_of_readDouble {value : List Char}
    (refused : readDouble value text = .error fault) : fault.isStray = false := by
  fun_induction readDouble value text with
  | case1 => cases refused; rfl
  | case2 => cases refused
  | case3 value rest fault' read =>
    cases refused
    exact isStray_of_readEscape read
  | case4 value rest decoded after read _ ih => exact ih refused
  | case5 value c rest _ _ ih => exact ih refused

/-- What is wrong with a string in quotes is wrong with its text. -/
theorem isStray_of_readQuoted (refused : readQuoted text = .error fault) :
    fault.isStray = false := by
  unfold readQuoted at refused
  split at refused
  · exact isStray_of_readSingle refused
  · exact isStray_of_readDouble refused
  · cases refused
    rfl

/-- What is wrong with the beginning of a plain scalar is wrong with its text. -/
theorem isStray_of_checkPlainStart (refused : checkPlainStart text = .error fault) :
    fault.isStray = false := by
  unfold checkPlainStart at refused
  grind [Fault.isStray]

/-- What is wrong with a key is wrong with its text. -/
theorem isStray_of_splitKey (refused : splitKey text = .error fault) :
    fault.isStray = false := by
  unfold splitKey at refused
  grind [isStray_of_readQuoted, isStray_of_checkPlainStart]

/-- What is wrong with a plain value is wrong with its text. -/
theorem isStray_of_plainValue (refused : plainValue text = .error fault) :
    fault.isStray = false := by
  unfold plainValue closedCollection at refused
  grind [isStray_of_checkPlainStart, Fault.isStray]

/-- What is wrong with a scalar is wrong with its text. -/
theorem isStray_of_scalarValue (refused : scalarValue text = .error fault) :
    fault.isStray = false := by
  unfold scalarValue at refused
  grind [isStray_of_readQuoted, isStray_of_plainValue, Fault.isStray]

/-- What is wrong with an item in brackets is wrong with its text. -/
theorem isStray_of_flowItem (refused : flowItem text = .error fault) :
    fault.isStray = false := by
  unfold flowItem at refused
  grind [isStray_of_readQuoted, isStray_of_plainValue, Fault.isStray]

/-- What is wrong with a list in brackets is wrong with the text of one of its items. -/
theorem isStray_of_flowItems {items : List (Option String)}
    (refused : flowItems items text = .error fault) : fault.isStray = false := by
  fun_induction flowItems items text with
  | case1 => cases refused; rfl
  | case2 => cases refused
  | case3 => cases refused; rfl
  | case4 items text c rest _ _ fault' read =>
    cases refused
    exact isStray_of_flowItem read
  | case5 items text c rest _ _ item remaining read after _ ih => exact ih refused
  | case6 items text c rest _ _ item remaining read after _ ih => exact ih refused
  | case7 => cases refused; rfl

end Textual

namespace Reader

/-- What is wrong with the value of the modes is wrong with its text. -/
theorem isStray_of_modesValue {text : List Char} {fault : Fault}
    (refused : modesValue text = .error fault) : fault.isStray = false := by
  unfold modesValue flowList at refused
  grind [isStray_of_flowItems, isStray_of_scalarValue]

/-- What is wrong with a mode behind a dash is wrong with its text. -/
theorem isStray_of_modeItem {text : List Char} {fault : Fault}
    (refused : modeItem text = .error fault) : fault.isStray = false := by
  unfold modeItem at refused
  grind [isStray_of_splitKey, isStray_of_scalarValue]

variable {r : Reader} {column : Nat} {content text : List Char} {fault : Fault}

/-- What is wrong with the value of the entry list is wrong with its text. -/
theorem isStray_of_openEntries {value : List Char}
    (refused : r.openEntries value = .error fault) : fault.isStray = false := by
  unfold openEntries flowList at refused
  grind [isStray_of_flowItems, isStray_of_scalarValue, Fault.isStray]

/-- A top-level line is never refused for want of something open. -/
theorem isStray_of_topLevel (refused : r.topLevel content = .error fault) :
    fault.isStray = false := by
  unfold topLevel at refused
  split at refused
  · rename_i read
    rw [← Except.error.inj refused]
    exact isStray_of_splitKey read
  · rw [← Except.error.inj refused]
    split <;> rfl
  · split at refused
    · rw [← Except.error.inj refused]
      rfl
    · dsimp only at refused
      split at refused
      · exact isStray_of_openEntries refused
      · cases refused

/-- A value that cannot be stored is wrong in itself. -/
theorem isStray_of_storeField {entry : OpenEntry} {key value : List Char}
    (refused : r.storeField entry key value = .error fault) : fault.isStray = false := by
  unfold storeField at refused
  dsimp only at refused
  split at refused
  · split at refused
    · rename_i read
      rw [← Except.error.inj refused]
      exact isStray_of_scalarValue read
    · cases refused
  · split at refused
    · split at refused
      · rename_i read
        rw [← Except.error.inj refused]
        exact isStray_of_scalarValue read
      · cases refused
    · split at refused
      · split at refused
        · cases refused
        · split at refused
          · rename_i read
            rw [← Except.error.inj refused]
            exact isStray_of_modesValue read
          · cases refused
      · cases refused

/-- As long as an entry is open, a field is wrong in itself or repeats a key. -/
theorem isStray_of_entryField {entry : OpenEntry} (current : r.current = some entry)
    (refused : r.entryField text = .error fault) : fault.isStray = false := by
  unfold entryField at refused
  rw [current] at refused
  split at refused
  · rw [← Except.error.inj refused]
    rfl
  · split at refused
    · rename_i read
      rw [← Except.error.inj refused]
      exact isStray_of_splitKey read
    · rw [← Except.error.inj refused]
      rfl
    · dsimp only at refused
      split at refused
      · rw [← Except.error.inj refused]
        rfl
      · exact isStray_of_storeField refused

/-- A dash that begins an entry opens what its field needs. -/
theorem isStray_of_startEntry {body : List Char}
    (refused : r.startEntry column content body = .error fault) : fault.isStray = false := by
  unfold startEntry at refused
  dsimp only at refused
  split at refused
  · cases refused
  · exact isStray_of_entryField rfl refused

/-- As long as an entry is open, a mode is wrong in itself. -/
theorem isStray_of_addMode {entry : OpenEntry} {body : List Char} (current : r.current = some entry)
    (refused : r.addMode body = .error fault) : fault.isStray = false := by
  unfold addMode at refused
  rw [current] at refused
  grind [isStray_of_modeItem]

/-- Where an entry is open, a line that belongs to no list is stray only as an item. -/
theorem isStray_of_keyLine {entry : OpenEntry} (current : r.current = some entry)
    (refused : r.keyLine column content = .error fault) (stray : fault.isStray = true) :
    fault = .listItem ∧ (itemBody? content).isSome = true := by
  unfold keyLine at refused
  rw [current] at refused
  dsimp only at refused
  split at refused
  · rename_i item
    exact ⟨(Except.error.inj refused).symm, item⟩
  · split at refused
    · rw [← Except.error.inj refused] at stray
      cases stray
    · rw [isStray_of_entryField rfl refused] at stray
      cases stray

/-- A deeper line of an open entry is stray only as an item while no list of modes is open. -/
theorem isStray_of_deepLine {entry : OpenEntry} (current : r.current = some entry)
    (refused : r.deepLine column content = .error fault) (stray : fault.isStray = true) :
    fault = .listItem ∧ ∀ keyColumn itemColumn, r.block ≠ .modes keyColumn itemColumn := by
  unfold deepLine at refused
  split at refused
  · split at refused
    · have read :=
        isStray_of_addMode (r := { r with block := .modes _ (some column) }) current refused
      rw [read] at stray
      cases stray
    · rw [← Except.error.inj refused] at stray
      cases stray
  · rename_i noItem
    have item := (isStray_of_keyLine (r := { r with block := .none }) current refused stray).2
    rw [noItem] at item
    cases item
  · rename_i noModes noModesItem
    refine ⟨(isStray_of_keyLine current refused stray).1, fun keyColumn itemColumn modes => ?_⟩
    cases item : itemBody? content with
    | none => exact noModesItem keyColumn itemColumn modes item
    | some body => exact noModes keyColumn itemColumn body modes item

/-- What a fault says that a line at the column has nothing open for it: an indentation stands in
front of the dashes, and for an item behind them no list of modes is open. -/
def StrayAt (r : Reader) (column : Nat) (fault : Fault) : Prop :=
  fault = .indentation ∧ (∃ dash ∈ r.entryColumn, column < dash) ∨
    fault = .listItem ∧ (∃ dash ∈ r.entryColumn, dash < column) ∧
      ∀ keyColumn itemColumn, r.block ≠ .modes keyColumn itemColumn

/-- A reader may have seen content. -/
theorem Sound.seen (sound : Sound r) : Sound { r with sawContent := true } :=
  ⟨sound.entered, sound.current, fun _ => rfl, sound.deeper, sound.block⟩

/-- A stray line of the list stands in front of the dashes or is an item without a list. -/
theorem Sound.strayAt_of_listLine (sound : Sound r) (place : r.place = .entries)
    (refused : r.listLine column content = .error fault) (stray : fault.isStray = true) :
    StrayAt r column fault := by
  unfold Reader.listLine at refused
  split at refused
  · rw [← Except.error.inj refused] at stray
    cases stray
  · rw [isStray_of_startEntry refused] at stray
    cases stray
  · rename_i dash known
    have open_ : r.current.isSome = true := sound.current.mpr ⟨place, by rw [known]; rfl⟩
    obtain ⟨entry, current⟩ := Option.isSome_iff_exists.mp open_
    split at refused
    · rename_i before
      exact .inl ⟨(Except.error.inj refused).symm, dash, known, before⟩
    · split at refused
      · split at refused
        · rw [isStray_of_startEntry refused] at stray
          cases stray
        · rw [← Except.error.inj refused] at stray
          cases stray
      · obtain ⟨item, noModes⟩ := isStray_of_deepLine current refused stray
        exact .inr ⟨item, ⟨dash, known, by omega⟩, noModes⟩

/-- A stray line of the list's section stands in front of the dashes or is an item without a
list. -/
theorem Sound.strayAt_of_entriesLine (sound : Sound r) (place : r.place = .entries)
    (refused : r.entriesLine column content = .error fault) (stray : fault.isStray = true) :
    StrayAt r column fault := by
  unfold Reader.entriesLine at refused
  split at refused
  · rename_i deeperThan skip
    split at refused
    · cases refused
    · obtain before | ⟨item, behind, -⟩ := sound.closeBlock.strayAt_of_listLine place refused stray
      · exact .inl before
      · refine .inr ⟨item, behind, fun keyColumn itemColumn modes => ?_⟩
        rw [skip] at modes
        cases modes
  · exact sound.strayAt_of_listLine place refused stray

/-- A line is stray for one of two reasons only. -/
theorem Sound.strayAt (sound : Sound r) (refused : r.line text = .error fault)
    (stray : fault.isStray = true) : StrayAt r (columnOf text) fault := by
  rw [line_eq] at refused
  split at refused
  · cases refused
  · split at refused
    · rw [← Except.error.inj refused] at stray
      cases stray
    · split at refused
      · split at refused
        · rw [← Except.error.inj refused] at stray
          cases stray
        · cases refused
      · unfold Reader.contentLine at refused
        dsimp only at refused
        split at refused
        · rw [isStray_of_topLevel refused] at stray
          cases stray
        · split at refused
          · rw [← Except.error.inj refused] at stray
            cases stray
          · cases refused
          · rw [← Except.error.inj refused] at stray
            cases stray
          · rename_i place
            exact sound.seen.strayAt_of_entriesLine place refused stray

end Reader

end CatalogAudit.Manifest.Line
