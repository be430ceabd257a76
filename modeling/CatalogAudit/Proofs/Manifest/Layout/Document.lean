import CatalogAudit.Manifest.RawEntry
import CatalogAudit.Proofs.Manifest.Layout.Scalar

/-!
# Ways to write a manifest

A document is built up from the ways to write its values: lists of modes in brackets or below their
key, entries whose first key stands behind the dash or on a line of its own, keys in any order, and
blank lines and comments wherever lines may stand. Columns are given by how much deeper a line is
than the one it belongs to, so that no document is indented wrongly.
-/

namespace CatalogAudit.Manifest.Layout

/-- A line that says nothing. -/
inductive Noise
  /-- A blank line. -/
  | blank (gap : Gap)
  /-- A comment, indented at will. -/
  | comment (indent : Nat) (words : List Char) (oneLine : Text.OneLine words)

/-- What stands in the document. -/
def Noise.text : Noise → List Char
  | blank gap => gap.text
  | comment indent words _ => spaces indent ++ '#' :: words

/-- An item between brackets, with the blanks around it. -/
structure FlowItem where
  /-- The blanks before it. -/
  before : Gap
  /-- Its value. -/
  scalar : Scalar
  /-- The value may stand between brackets. -/
  safe : scalar.FlowSafe
  /-- The blanks after it. -/
  after : Gap

/-- What stands in the document. -/
def FlowItem.text (item : FlowItem) : List Char :=
  item.before.text ++ item.scalar.text ++ item.after.text

/-- What follows an opening bracket, or a comma between brackets. -/
inductive FlowList
  /-- The closing bracket. -/
  | close (gap : Gap)
  /-- The last item, and the closing bracket. -/
  | last (item : FlowItem)
  /-- An item with a comma, and what follows that. -/
  | more (item : FlowItem) (rest : FlowList)

namespace FlowList

/-- What stands in the document. -/
def text : FlowList → List Char
  | close gap => gap.text ++ [']']
  | last item => item.text ++ [']']
  | more item rest => item.text ++ ',' :: rest.text

/-- The values of the items. -/
def values : FlowList → List (List Char)
  | close _ => []
  | last item => [item.scalar.value]
  | more item rest => item.scalar.value :: rest.values

/-- The items. -/
def scalars : FlowList → List Scalar
  | close _ => []
  | last item => [item.scalar]
  | more item rest => item.scalar :: rest.scalars

/-- The values of a list in brackets are those of its scalars. -/
theorem values_eq (items : FlowList) : items.values = items.scalars.map Scalar.value := by
  induction items with
  | close gap => rfl
  | last item => rfl
  | more item rest ih => rw [values, scalars, ih, List.map_cons]

end FlowList

/-- A mode on a line of its own, and the lines of no meaning after it. -/
structure ModeLine where
  /-- What stands between the dash and the mode. -/
  gap : Gap
  /-- The dash is set apart. -/
  apart : gap.text ≠ []
  /-- The mode. -/
  scalar : Scalar
  /-- What follows it on its line. -/
  tail : Tail
  /-- The lines after it. -/
  after : List Noise

namespace ModeLine

/-- The line without its indentation. -/
def text (line : ModeLine) : List Char :=
  '-' :: (line.gap.text ++ line.scalar.text ++ line.tail.text)

/-- The lines, when the dash stands at a column. -/
def lines (column : Nat) (line : ModeLine) : List (List Char) :=
  (spaces column ++ line.text) :: line.after.map Noise.text

end ModeLine

/-- How the modes of an entry are written. -/
inductive Modes
  /-- In brackets, on the line of their key. -/
  | inline (gap : Gap) (apart : gap.text ≠ []) (items : FlowList) (tail : Tail)
      (after : List Noise)
  /-- One below the other, `extra` columns deeper than their key. -/
  | below (tail : Tail) (after : List Noise) (extra : Nat) (first : ModeLine)
      (others : List ModeLine)

namespace Modes

/-- What stands behind the colon of the key. -/
def text : Modes → List Char
  | inline gap _ items tail _ => gap.text ++ '[' :: items.text ++ tail.text
  | below tail _ _ _ _ => tail.text

/-- The lines below the key, which stands at a column. -/
def belowKey (column : Nat) : Modes → List (List Char)
  | inline _ _ _ _ after => after.map Noise.text
  | below _ after extra first others =>
    after.map Noise.text ++ (first :: others).flatMap (ModeLine.lines (column + extra))

/-- The modes meant. -/
def values : Modes → List (List Char)
  | inline _ _ items _ _ => items.values
  | below _ _ _ first others => (first :: others).map fun line => line.scalar.value

/-- The modes as written. -/
def scalars : Modes → List Scalar
  | inline _ _ items _ _ => items.scalars
  | below _ _ _ first others => (first :: others).map ModeLine.scalar

/-- The values of the modes are those of their scalars. -/
theorem values_eq (modes : Modes) : modes.values = modes.scalars.map Scalar.value := by
  cases modes with
  | inline gap apart items tail after => exact items.values_eq
  | below tail after extra first others => rw [values, scalars, List.map_map]; rfl

end Modes

/-- The key of a name with a value on its line, and the lines of no meaning after it. -/
structure Assignment (name : List Char) where
  /-- The key. -/
  key : Key name
  /-- What stands between the colon and the value. -/
  gap : Gap
  /-- The colon is set apart. -/
  apart : gap.text ≠ []
  /-- The value. -/
  scalar : Scalar
  /-- What follows it on its line. -/
  tail : Tail
  /-- The lines after it. -/
  after : List Noise

/-- The line without its indentation. -/
def Assignment.text {name : List Char} (a : Assignment name) : List Char :=
  a.key.text ++ a.gap.text ++ a.scalar.text ++ a.tail.text

/-- The three keys of an entry. -/
inductive Field
  /-- The key `token`. -/
  | token
  /-- The key `kind`. -/
  | kind
  /-- The key `modes`. -/
  | modes
deriving DecidableEq, Repr

/-- The name of a key. -/
def Field.name : Field → List Char
  | token => "token".toList
  | kind => "kind".toList
  | modes => "modes".toList

/-- The name of a field is a word. -/
theorem isWord_name (f : Field) : IsWord f.name := by
  cases f <;> decide

/-- Different fields have different names. -/
theorem name_inj {f g : Field} (h : f.name = g.name) : f = g := by
  cases f <;> cases g <;> first | rfl | exact absurd h (by decide)

/-- Where the first key of an entry stands. -/
inductive Opening
  /-- Behind the dash, after one more space than the number. -/
  | behindDash (more : Nat)
  /-- On another line, one column more than the number deeper than the dash. -/
  | ownLine (gap : Gap) (after : List Noise) (more : Nat)

/-- The column of the keys, when the dash stands at a column. -/
def Opening.keyColumn (column : Nat) : Opening → Nat
  | behindDash more => column + 2 + more
  | ownLine _ _ more => column + 1 + more

/-- An entry as written. -/
structure Entry where
  /-- Where its keys stand. -/
  opening : Opening
  /-- Its token. -/
  token : Assignment Field.token.name
  /-- Its kind. -/
  kind : Assignment Field.kind.name
  /-- Its modes with their key, if it lists any. -/
  modes : Option (Key Field.modes.name × Modes)
  /-- The key that comes first. -/
  first : Field
  /-- The keys after it, in their order. -/
  others : List Field
  /-- Every key comes once. -/
  complete : (first :: others).Perm
    ([.token, .kind] ++ if modes.isSome then [.modes] else [])

namespace Entry

/-- The key stands in the entry. -/
def Has (e : Entry) (field : Field) : Prop := field = .modes → e.modes.isSome

/-- All keys that are listed stand in the entry. -/
theorem has_of_mem (e : Entry) {field : Field} (mem : field ∈ e.first :: e.others) :
    e.Has field := by
  rintro rfl
  rw [e.complete.mem_iff] at mem
  cases written : e.modes with
  | none => simp [written] at mem
  | some modes => rfl

/-- No key is listed twice. -/
theorem nodup_fields (e : Entry) : (e.first :: e.others).Nodup := by
  rw [e.complete.nodup_iff]
  split <;> decide

/-- The line of a key without its indentation. -/
def fieldText (e : Entry) : Field → List Char
  | .token => e.token.text
  | .kind => e.kind.text
  | .modes => (e.modes.map fun (key, modes) => key.text ++ modes.text).getD []

/-- The lines below that of a key, which stands at a column. -/
def fieldBelow (e : Entry) (column : Nat) : Field → List (List Char)
  | .token => e.token.after.map Noise.text
  | .kind => e.kind.after.map Noise.text
  | .modes => (e.modes.map fun (_, modes) => modes.belowKey column).getD []

/-- The lines of a key that stands at a column. -/
def fieldLines (e : Entry) (column : Nat) (field : Field) : List (List Char) :=
  (spaces column ++ e.fieldText field) :: e.fieldBelow column field

/-- The lines of the entry, when its dash stands at a column. -/
def lines (column : Nat) (e : Entry) : List (List Char) :=
  let keyColumn := e.opening.keyColumn column
  match e.opening with
  | .behindDash more =>
    (spaces column ++ '-' :: (spaces (more + 1) ++ e.fieldText e.first))
      :: e.fieldBelow keyColumn e.first ++ e.others.flatMap (e.fieldLines keyColumn)
  | .ownLine gap after _ =>
    (spaces column ++ '-' :: gap.text) :: after.map Noise.text
      ++ (e.first :: e.others).flatMap (e.fieldLines keyColumn)

end Entry

/-- What a manifest says of one entry. -/
structure Declared where
  /-- Its token. -/
  token : String
  /-- Its kind. -/
  kind : String
  /-- Its modes, if it lists any. -/
  modes : Option (List String)
deriving DecidableEq, Repr

/-- The entry that a reader should find. -/
def Declared.raw (d : Declared) : RawEntry :=
  { token := some (.text d.token)
    kind := some (.text d.kind)
    modes := (d.modes.map RawModes.list).getD .absent }

/-- What an entry says. -/
def Entry.declared (e : Entry) : Declared :=
  { token := String.ofList e.token.scalar.value
    kind := String.ofList e.kind.scalar.value
    modes := e.modes.map fun (_, modes) => modes.values.map String.ofList }

/-- A manifest as written. -/
structure Document where
  /-- The lines before anything else. -/
  head : List Noise
  /-- The mark that begins a document, with the lines after it, if there is one. -/
  mark : Option (Tail × List Noise)
  /-- The key of the entries. -/
  key : Key "entries".toList
  /-- What follows that key on its line. -/
  tail : Tail
  /-- The lines after it. -/
  after : List Noise
  /-- The column of the dashes. -/
  indent : Nat
  /-- The entries. -/
  entries : List Entry
  /-- The line end of each line. -/
  ends : Nat → Text.LineEnd
  /-- Whether the last line has a line end. -/
  closed : Bool

namespace Document

/-- The lines before the key of the entries. -/
def headLines (doc : Document) : List (List Char) :=
  doc.head.map Noise.text ++
    (doc.mark.map fun (tail, after) =>
      ('-' :: '-' :: '-' :: tail.text) :: after.map Noise.text).getD []

/-- All lines. -/
def lines (doc : Document) : List (List Char) :=
  doc.headLines ++ (doc.key.text ++ doc.tail.text) :: doc.after.map Noise.text
    ++ doc.entries.flatMap (Entry.lines doc.indent)

/-- The text. -/
def text (doc : Document) : List Char := Text.written doc.ends doc.closed doc.lines

/-- What the manifest says. -/
def declared (doc : Document) : List Declared := doc.entries.map Entry.declared

end Document

end CatalogAudit.Manifest.Layout
