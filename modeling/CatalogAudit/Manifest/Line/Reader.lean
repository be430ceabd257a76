import CatalogAudit.Manifest.DocumentFault
import CatalogAudit.Manifest.Line.FlowList
import CatalogAudit.Manifest.Line.Key
import CatalogAudit.Text.Lines

/-!
# The line form of a manifest

A manifest read line by line. What a line means depends on its column and on the columns of the
lines before it, which the reader remembers: the column of the dashes that begin entries, the
column of the keys of the open entry, and the list or the ignored content that is open under one of
its keys. Blank lines and lines of comment never count.

Everything outside this form is refused with the number of the line: values over several lines,
anchors, tags, blocks, and entries in braces.
-/

namespace CatalogAudit.Manifest.Line

/-- Where at the top level the reader is. -/
inductive Place
  /-- Before the first key. -/
  | start
  /-- In the list of entries. -/
  | entries
  /-- After a list of entries that was closed on its own line. -/
  | inline
  /-- Under another key. -/
  | other
deriving DecidableEq, Repr

/-- What is open under a key of an entry. -/
inductive Block
  /-- Nothing. -/
  | none
  /-- The list of modes: the column of its key and, after the first item, that of its dashes. -/
  | modes (keyColumn : Nat) (itemColumn : Option Nat)
  /-- Ignored content: all that stands deeper than the column. -/
  | skip (deeperThan : Nat)
deriving DecidableEq, Repr

/-- An entry that is being read. -/
structure OpenEntry where
  /-- What was read of it. -/
  raw : RawEntry := {}
  /-- Its keys, ignored ones too, the last one first. -/
  keys : List (List Char) := []
  /-- Column of its keys, unknown until the first key. -/
  keyColumn : Option Nat := none
deriving DecidableEq, Repr

/-- What the reader remembers between two lines. -/
structure Reader where
  /-- Where at the top level it is. -/
  place : Place := .start
  /-- The keys of the top level, the last one first. -/
  topKeys : List (List Char) := []
  /-- Whether a line with content was read. -/
  sawContent : Bool := false
  /-- Column of the dashes that begin entries, unknown until the first. -/
  entryColumn : Option Nat := none
  /-- The entry being read. -/
  current : Option OpenEntry := none
  /-- What is open under a key of that entry. -/
  block : Block := .none
  /-- The entries read before it. -/
  entries : Array RawEntry := #[]
deriving DecidableEq, Repr

namespace Reader

/-- Puts the entry being read, if there is one, to the entries read. -/
def closeEntry (r : Reader) : Reader :=
  match r.current with
  | some entry => { r with current := none, entries := r.entries.push entry.raw }
  | none => r

/-- Number of the entry being read, from one. -/
def entryNumber (r : Reader) : Nat := r.entries.size + 1

/-- Enters the list of entries, whose key has `value` after its colon. -/
def openEntries (r : Reader) (value : List Char) : Except Fault Reader :=
  let value := Text.trimStart value
  if isSpent value then .ok { r with place := .entries }
  else if Text.startsWith (· == '[') value then
    match flowList value with
    | .error fault => .error fault
    | .ok (.list []) => .ok { r with place := .inline }
    | .ok _ => .error .inlineEntries
  else
    match scalarValue value with
    | .error fault => .error fault
    | .ok (.other .null) => .ok { r with place := .inline }
    | .ok _ => .error .entriesNotList

/-- Reads a line at the margin that is no list item. -/
def topLevel (r : Reader) (content : List Char) : Except Fault Reader :=
  match splitKey content with
  | .error fault => .error fault
  | .ok none => .error (if r.place = .start then .rootNotMapping else .topLevelNotKey)
  | .ok (some (key, value)) =>
    if r.topKeys.contains key then .error (.repeatedTopLevelKey key)
    else
      let r := { r.closeEntry with topKeys := key :: r.topKeys, block := .none }
      if key = entriesKey.toList then r.openEntries value
      else .ok { r with place := .other }

/-- Reads the value of the key `modes` that stands on the line of the key. -/
def modesValue (value : List Char) : Except Fault RawModes :=
  if Text.startsWith (· == '[') value then flowList value
  else
    match scalarValue value with
    | .error fault => .error fault
    | .ok (.other .null) => .ok .absent
    | .ok _ => .ok .invalid

/-- Stores the value of a key in the open entry, or opens what the key has below it. -/
def storeField (r : Reader) (entry : OpenEntry) (key value : List Char) : Except Fault Reader :=
  let entry := { entry with keys := key :: entry.keys }
  let column := entry.keyColumn.getD 0
  if key = "token".toList then
    match scalarValue value with
    | .error fault => .error fault
    | .ok token =>
      .ok { r with current := some { entry with raw := { entry.raw with token := some token } } }
  else if key = "kind".toList then
    match scalarValue value with
    | .error fault => .error fault
    | .ok kind =>
      .ok { r with current := some { entry with raw := { entry.raw with kind := some kind } } }
  else if key = "modes".toList then
    let value := Text.trimStart value
    if isSpent value then
      .ok { r with
        current := some { entry with raw := { entry.raw with modes := .absent } }
        block := .modes column none }
    else
      match modesValue value with
      | .error fault => .error fault
      | .ok modes =>
        .ok { r with current := some { entry with raw := { entry.raw with modes := modes } } }
  else .ok { r with current := some entry, block := .skip column }

/-- Reads a key of the open entry with its value. -/
def entryField (r : Reader) (text : List Char) : Except Fault Reader :=
  if Text.startsWith (· == '{') text then .error (.inlineMapping r.entryNumber)
  else
    match splitKey text with
    | .error fault => .error fault
    | .ok none => .error (.entryNotMapping r.entryNumber)
    | .ok (some (key, value)) =>
      match r.current with
      | none => .error .indentation
      | some entry =>
        if entry.keys.contains key then .error (.repeatedKey key r.entryNumber)
        else r.storeField entry key value

/-- Begins an entry at a dash in column `column`. `body` is what follows the dash in `content`. -/
def startEntry (r : Reader) (column : Nat) (content body : List Char) : Except Fault Reader :=
  let r := { r.closeEntry with block := .none }
  if body.isEmpty then .ok { r with current := some {} }
  else
    let keyColumn := column + Text.byteLength content - Text.byteLength body
    { r with current := some { keyColumn := some keyColumn } }.entryField body

/-- Reads what follows the dash of a mode: a string, or `none` for anything else. -/
def modeItem (body : List Char) : Except Fault (Option String) :=
  if body.isEmpty || (itemBody? body).isSome
      || Text.startsWith (fun c => c == '[' || c == '{') body then .ok none
  else
    match splitKey body with
    | .error fault => .error fault
    | .ok (some _) => .ok none
    | .ok none =>
      match scalarValue body with
      | .error fault => .error fault
      | .ok (.text mode) => .ok (some mode)
      | .ok (.other _) => .ok none

/-- Adds the mode after a dash to the open entry. -/
def addMode (r : Reader) (body : List Char) : Except Fault Reader :=
  match modeItem body with
  | .error fault => .error fault
  | .ok item =>
    match r.current with
    | none => .error .listItem
    | some entry =>
      let raw := { entry.raw with modes := entry.raw.modes.push item }
      .ok { r with current := some { entry with raw := raw } }

/-- Reads a line of the open entry that belongs to no list or ignored content. -/
def keyLine (r : Reader) (column : Nat) (content : List Char) : Except Fault Reader :=
  match r.current with
  | none => .error .indentation
  | some entry =>
    if (itemBody? content).isSome then .error .listItem
    else
      let keyColumn := entry.keyColumn.getD column
      if column ≠ keyColumn then .error .multiLineValue
      else
        { r with current := some { entry with keyColumn := some keyColumn } }.entryField content

/-- Reads a line deeper than the dashes of the entries. -/
def deepLine (r : Reader) (column : Nat) (content : List Char) : Except Fault Reader :=
  match r.block, itemBody? content with
  | .modes keyColumn itemColumn, some body =>
    if keyColumn ≤ column ∧ (itemColumn.getD column) = column then
      { r with block := .modes keyColumn (some column) }.addMode body
    else .error .modesIndentation
  | .modes _ _, none => { r with block := .none }.keyLine column content
  | _, _ => r.keyLine column content

/-- Reads a line in the list of entries that is not part of ignored content. -/
def listLine (r : Reader) (column : Nat) (content : List Char) : Except Fault Reader :=
  match r.entryColumn, itemBody? content with
  | none, none => .error .entriesNotList
  | none, some body => { r with entryColumn := some column }.startEntry column content body
  | some entryColumn, item =>
    if column < entryColumn then .error .indentation
    else if column = entryColumn then
      match item with
      | some body => r.startEntry column content body
      | none => .error .missingDash
    else r.deepLine column content

/-- Reads a line with content in the list of entries. -/
def entriesLine (r : Reader) (column : Nat) (content : List Char) : Except Fault Reader :=
  match r.block with
  | .skip deeperThan =>
    if deeperThan < column then .ok r
    else { r with block := .none }.listLine column content
  | _ => r.listLine column content

/-- Reads a line with content, which stands at the column given. -/
def contentLine (r : Reader) (column : Nat) (content : List Char) : Except Fault Reader :=
  let r := { r with sawContent := true }
  if column = 0 ∧ (itemBody? content).isNone then r.topLevel content
  else
    match r.place with
    | .start => .error .rootNotMapping
    | .other => .ok r
    | .inline => .error .contentUnderInline
    | .entries => r.entriesLine column content

/-- Reads one line. -/
def line (r : Reader) (text : List Char) : Except Fault Reader :=
  let content := text.dropWhile (· == ' ')
  let column := text.length - content.length
  if Text.isBlankText content || Text.startsWith (· == '#') content then .ok r
  else if Text.startsWith (· == '\t') content then .error .tabIndentation
  else if column = 0 ∧ isDocumentStart content then
    if r.sawContent then .error .secondDocument else .ok r
  else r.contentLine column content

/-- Reads lines, the first of which has the number given. -/
def lines (r : Reader) (number : Nat) : List (List Char) → Except DocumentFault Reader
  | [] => .ok r
  | text :: rest =>
    match r.line text with
    | .error fault => .error (.line number fault)
    | .ok r => r.lines (number + 1) rest

/-- The entries that were read, once there are no more lines. -/
def finish (r : Reader) : Except DocumentFault (List RawEntry) :=
  if r.topKeys.contains entriesKey.toList then .ok r.closeEntry.entries.toList
  else .error .missingEntries

end Reader

/-- Reads a manifest in its line form. -/
def parse (text : List Char) : Except DocumentFault (List RawEntry) :=
  match ({} : Reader).lines 1 (Text.lines text) with
  | .error fault => .error fault
  | .ok r => r.finish

end CatalogAudit.Manifest.Line
