import Mathlib.Data.List.Forall2
import CatalogAudit.Report.Rendering
import CatalogAudit.Proofs.Json.Reading
import CatalogAudit.Proofs.Registry.Members

/-!
# The JSON report loses nothing

A program that reads the JSON text of a report gets back every finding and the verdict, so the texts
of different reports differ. The keys of every object in the text ascend, whatever has been found.
-/

namespace CatalogAudit

namespace Json

/-! ## Looking values up -/

/-- What an object holds under a key. -/
def member? (key : String) : Json → Option Json
  | .object members => members.lookup (some key)
  | _ => none

/-- The whole number that a value is. -/
def nat? : Json → Option Nat
  | .number literal =>
    if !literal.isEmpty && literal.all Number.isDigit then some (Number.readDigits 10 literal)
    else none
  | _ => none

section

variable {α : Type} (decode : Json → Option α)

/-- What the items of a list stand for. -/
def items? : Json → Option (List α)
  | .array items => items.mapM decode
  | _ => none

/-- What a member of an object stands for, with its key. -/
def row? (member : Option String × Json) : Option (String × α) := do
  return (← member.1, ← decode member.2)

/-- What the members of an object stand for, with their keys. -/
def rows? : Json → Option (List (String × α))
  | .object members => members.mapM (row? decode)
  | _ => none

/-- What an object holds under a key that has to be there. -/
def required? (key : String) (value : Json) : Option α := (value.member? key).bind decode

/-- What an object holds under a key that may be absent. -/
def optional? (key : String) (value : Json) : Option (Option α) :=
  match value.member? key with
  | none => some none
  | some value => (decode value).map some

variable {decode} {encode : α → Json} (inverse : ∀ a, decode (encode a) = some a)

include inverse

/-- A field with an encoded value is read back. -/
theorem required?_encode {key : String} {value : Json} {a : α}
    (found : value.member? key = some (encode a)) : required? decode key value = some a := by
  unfold required?
  rw [found, Option.bind_some, inverse]

/-- A field that is there exactly when there is a value is read back, absent or not. -/
theorem optional?_encode {key : String} {value : Json} {a : Option α}
    (found : value.member? key = a.map encode) : optional? decode key value = some a := by
  unfold optional?
  rw [found]
  cases a with
  | none => rfl
  | some a => exact congrArg (Option.map some) (inverse a)

/-- A list of encoded items is read back item by item. -/
theorem items?_map (items : List α) : items? decode (.array (items.map encode)) = some items :=
  mapM_map_of_inverse inverse items

/-- An object of encoded rows is read back with its keys. -/
theorem rows?_ofMembers (rows : List (String × α)) :
    rows? decode (.ofMembers (rows.map fun row => (row.1, encode row.2))) = some rows := by
  have undone : ∀ row : String × α, row? decode (some row.1, encode row.2) = some row := by
    intro row
    unfold row?
    rw [inverse]
    rfl
  have keyed : ofMembers (rows.map fun row => (row.1, encode row.2)) =
      .object (rows.map fun row => (some row.1, encode row.2)) := by
    unfold ofMembers
    rw [List.map_map]
    rfl
  rw [keyed]
  exact mapM_map_of_inverse undone rows

end

/-- An object of fields holds under a key what the last field with that key holds. -/
theorem member?_ofFields {fields : List (String × Json)} {key : String} :
    (ofFields fields).member? key = fields.reverse.lookup key := by
  rw [← NameTable.get?_ofRows]
  have keyed : ∀ rows : List (String × Json),
      (ofMembers rows).member? key = rows.lookup key := by
    intro rows
    induction rows with
    | nil => rfl
    | cons row rest ih =>
      rw [NameTable.lookup_row, ← ih]
      change ((some row.1, row.2) :: rest.map fun row => (some row.1, row.2)).lookup (some key) = _
      rw [List.lookup_cons]
      by_cases same : key = row.1
      · simp [same]
      · have differs : (some key == some row.1) = false := by simpa using same
        rw [if_neg same, differs]
        rfl
  exact keyed _

/-- A whole number is read back from its digits. -/
theorem nat?_ofNat (n : Nat) : nat? (.ofNat n) = some n := by
  have digits : (Nat.toDigits 10 n).all Number.isDigit = true :=
    List.all_eq_true.mpr fun c => Number.isDigit_of_mem_toDigits
  have filled : (Nat.toDigits 10 n).isEmpty = false :=
    List.isEmpty_eq_false_iff.mpr Nat.toDigits_ne_nil
  unfold nat? ofNat
  dsimp only
  rw [digits, filled, Number.readDigits_toDigits]
  rfl

/-- A value that a program puts together with the keys of every object in ascending order. -/
inductive IsOrdered : Json → Prop
  /-- The null value. -/
  | null : IsOrdered .null
  /-- A truth value. -/
  | boolean (value : Bool) : IsOrdered (.boolean value)
  /-- A whole number. -/
  | nat (n : Nat) : IsOrdered (.ofNat n)
  /-- A string. -/
  | string (text : String) : IsOrdered (.ofString text)
  /-- A list of such values. -/
  | array {items : List Json} (each : ∀ item ∈ items, IsOrdered item) : IsOrdered (.array items)
  /-- An object of such values, each key of which comes before the next. -/
  | object {members : List (String × Json)} (ascending : (members.map Prod.fst).Pairwise (· < ·))
    (each : ∀ member ∈ members, IsOrdered member.2) : IsOrdered (.ofMembers members)

/-- What a program puts together in order, it puts together. -/
theorem IsOrdered.isPlain {value : Json} (ordered : value.IsOrdered) : value.IsPlain := by
  induction ordered with
  | null => exact .null
  | boolean value => exact .boolean value
  | nat n => exact .nat n
  | string text => exact .string text
  | array _ ih => exact .array ih
  | object _ _ ih => exact .object ih

/-- However its fields are ordered, the keys of an object of fields ascend. -/
theorem isOrdered_ofFields {fields : List (String × Json)}
    (each : ∀ field ∈ fields, field.2.IsOrdered) : (ofFields fields).IsOrdered :=
  .object (NameTable.ascending_names _) fun member inside =>
    each member (NameTable.mem_of_mem_rows_ofRows inside)

/-- A list of encoded items is in order when each encoding is. -/
theorem isOrdered_map {α : Type} {encode : α → Json} (each : ∀ a, (encode a).IsOrdered)
    (items : List α) : (Json.array (items.map encode)).IsOrdered := by
  refine .array fun item member => ?_
  obtain ⟨a, -, rfl⟩ := List.mem_map.mp member
  exact each a

/-- In a list of strings no object is left to put in order. -/
theorem isOrdered_ofStrings (texts : List String) : (ofStrings texts).IsOrdered :=
  isOrdered_map .string texts

end Json

/-! ## Sets and tables -/

/-- The set of ascending names. -/
def NameSet.ofAscending? (names : List String) : Option NameSet :=
  if ascending : names.Pairwise (· < ·) then some ⟨names, ascending⟩ else none

/-- The table of ascending rows. -/
def NameTable.ofAscending? {α : Type} (rows : List (String × α)) : Option (NameTable α) :=
  if ascending : rows.Pairwise fun x y => x.1 < y.1 then some ⟨rows, ascending⟩ else none

/-- The names of a set give the set back. -/
theorem NameSet.ofAscending?_names (names : NameSet) : ofAscending? names.names = some names :=
  dif_pos names.ascending

/-- The rows of a table give the table back. -/
theorem NameTable.ofAscending?_rows {α : Type} (table : NameTable α) :
    ofAscending? table.rows = some table := dif_pos table.ascending

namespace Report

open Json

/-! ## What JSON says of a report -/

/-- The set of names that a value is. -/
def names? (value : Json) : Option NameSet := value.strings?.bind NameSet.ofAscending?

/-- The table of sets of names that a value is. -/
def table? (value : Json) : Option (NameTable NameSet) :=
  (rows? names? value).bind NameTable.ofAscending?

/-- What a value says of a file. -/
def entry? (value : Json) : Option Scan.Entry := do
  return {
    path := ← required? string? "path" value
    tokens := ← required? strings? "tokens" value
    symbols := ← required? strings? "symbol_names" value
    candidate := ← optional? string? "heuristic_name" value }

/-- The hint that a value is. -/
def hint? (value : Json) : Option Hint := do
  return {
    path := ← required? string? "path" value
    candidate := ← required? string? "candidate" value }

/-- What a value says of something unreadable. -/
def unreadable? (value : Json) : Option Scan.Unreadable := do
  return {
    path := ← required? string? "path" value
    reason := ← required? string? "reason" value }

/-- The numbers that a value holds. -/
def totals? (value : Json) : Option Totals := do
  return {
    manifest := ← required? nat? "manifest_count" value
    registered := ← required? nat? "registered_count" value
    scanned := ← required? nat? "files_scanned" value
    unreadable := ← required? nat? "files_unreadable" value }

/-- The verdict of a name. -/
def decision? (value : Json) : Option Decision :=
  match value.string? with
  | some "pass" => some .pass
  | some "fail" => some .fail
  | _ => none

/-- The findings that a value holds. -/
def findings? (value : Json) : Option Report := do
  return {
    missing := ← required? names? "missing_tokens" value
    extra := ← required? names? "extra_tokens" value
    duplicates := ← required? table? "duplicate_tokens" value
    totals := ← required? totals? "totals" value
    bundled := ← required? table? "monolith_registrations" value
    hints := ← required? (items? hint?) "heuristic_hints" value
    unreadable := ← required? (items? unreadable?) "unreadable_files" value
    files := ← optional? (items? entry?) "files" value }

/-- The verdict that a value holds. -/
def status? (value : Json) : Option Decision := required? decision? "status" value

/-! ## Nothing is lost -/

/-- A set of names survives being written. -/
theorem names?_namesJson (names : NameSet) : names? (namesJson names) = some names := by
  unfold names? namesJson
  rw [strings?_ofStrings, Option.bind_some, NameSet.ofAscending?_names]

/-- A table of sets of names survives being written. -/
theorem table?_tableJson (table : NameTable NameSet) : table? (tableJson table) = some table := by
  have rows := rows?_ofMembers names?_namesJson table.rows
  have same : tableJson table =
      .ofMembers (table.rows.map fun row => (row.1, namesJson row.2)) := rfl
  unfold table?
  rw [same, rows, Option.bind_some, NameTable.ofAscending?_rows]

/-- A verdict is known by its name. -/
theorem decision?_name (decision : Decision) :
    decision? (.ofString decision.name) = some decision := by
  cases decision <;> rfl

/-- A hint survives being written. -/
theorem hint?_hintJson (hint : Hint) : hint? (hintJson hint) = some hint := by
  have text : ∀ text, string? (.ofString text) = some text := fun text => rfl
  unfold hint? hintJson
  rw [required?_encode text (@member?_ofFields _ "path"),
    required?_encode text (@member?_ofFields _ "candidate")]
  rfl

/-- A file that could not be read survives being written with its reason. -/
theorem unreadable?_unreadableJson (file : Scan.Unreadable) :
    unreadable? (unreadableJson file) = some file := by
  have text : ∀ text, string? (.ofString text) = some text := fun text => rfl
  unfold unreadable? unreadableJson
  rw [required?_encode text (@member?_ofFields _ "path"),
    required?_encode text (@member?_ofFields _ "reason")]
  rfl

/-- The totals survive being written. -/
theorem totals?_totalsJson (totals : Totals) : totals? (totalsJson totals) = some totals := by
  unfold totals? totalsJson
  rw [required?_encode nat?_ofNat (@member?_ofFields _ "manifest_count"),
    required?_encode nat?_ofNat (@member?_ofFields _ "registered_count"),
    required?_encode nat?_ofNat (@member?_ofFields _ "files_scanned"),
    required?_encode nat?_ofNat (@member?_ofFields _ "files_unreadable")]
  rfl

/-- What is written of a file, key by key. -/
theorem member?_entryJson (entry : Scan.Entry) :
    (entryJson entry).member? "path" = some (.ofString entry.path) ∧
      (entryJson entry).member? "tokens" = some (.ofStrings entry.tokens) ∧
      (entryJson entry).member? "symbol_names" = some (.ofStrings entry.symbols) ∧
      (entryJson entry).member? "heuristic_name" = entry.candidate.map .ofString := by
  obtain ⟨path, tokens, symbols, candidate⟩ := entry
  unfold entryJson
  simp only [member?_ofFields]
  cases candidate with
  | none => exact ⟨rfl, rfl, rfl, rfl⟩
  | some candidate => exact ⟨rfl, rfl, rfl, rfl⟩

/-- The details of a scanned file survive being written. -/
theorem entry?_entryJson (entry : Scan.Entry) : entry? (entryJson entry) = some entry := by
  obtain ⟨path, tokens, symbols, candidate⟩ := member?_entryJson entry
  have text : ∀ text, string? (.ofString text) = some text := fun text => rfl
  unfold entry?
  rw [required?_encode text path, required?_encode strings?_ofStrings tokens,
    required?_encode strings?_ofStrings symbols, optional?_encode text candidate]
  rfl

/-- What is written of an audit, key by key. -/
theorem member?_toJson (report : Report) (decision : Decision) :
    let value := report.toJson decision
    value.member? "status" = some (.ofString decision.name) ∧
      value.member? "missing_tokens" = some (namesJson report.missing) ∧
      value.member? "extra_tokens" = some (namesJson report.extra) ∧
      value.member? "duplicate_tokens" = some (tableJson report.duplicates) ∧
      value.member? "totals" = some (totalsJson report.totals) ∧
      value.member? "monolith_registrations" = some (tableJson report.bundled) ∧
      value.member? "heuristic_hints" = some (.array (report.hints.map hintJson)) ∧
      value.member? "unreadable_files" = some (.array (report.unreadable.map unreadableJson)) ∧
      value.member? "files" = report.files.map fun files => .array (files.map entryJson) := by
  obtain ⟨missing, extra, duplicates, totals, bundled, hints, unreadable, files⟩ := report
  unfold toJson
  simp only [member?_ofFields]
  cases files with
  | none => exact ⟨rfl, rfl, rfl, rfl, rfl, rfl, rfl, rfl, rfl⟩
  | some files => exact ⟨rfl, rfl, rfl, rfl, rfl, rfl, rfl, rfl, rfl⟩

/-- The verdict is read back. -/
theorem status?_toJson (report : Report) (decision : Decision) :
    status? (report.toJson decision) = some decision :=
  required?_encode decision?_name (member?_toJson report decision).1

/-- Every finding is read back. -/
theorem findings?_toJson (report : Report) (decision : Decision) :
    findings? (report.toJson decision) = some report := by
  obtain ⟨-, missing, extra, duplicates, totals, bundled, hints, unreadable, files⟩ :=
    member?_toJson report decision
  unfold findings?
  rw [required?_encode names?_namesJson missing, required?_encode names?_namesJson extra,
    required?_encode table?_tableJson duplicates, required?_encode totals?_totalsJson totals,
    required?_encode table?_tableJson bundled,
    required?_encode (items?_map hint?_hintJson) hints,
    required?_encode (items?_map unreadable?_unreadableJson) unreadable,
    optional?_encode (items?_map entry?_entryJson) files]
  rfl

/-! ## Keys ascend -/

/-- A table is written with ascending keys. -/
theorem isOrdered_tableJson (table : NameTable NameSet) : (tableJson table).IsOrdered := by
  refine .object ?_ fun member inside => ?_
  · rw [List.map_map]
    exact table.ascending_names
  · obtain ⟨row, -, rfl⟩ := List.mem_map.mp inside
    exact isOrdered_ofStrings _

/-- The details of a scanned file are written with ascending keys. -/
theorem isOrdered_entryJson (entry : Scan.Entry) : (entryJson entry).IsOrdered := by
  obtain ⟨path, tokens, symbols, candidate⟩ := entry
  have strings := isOrdered_ofStrings
  refine isOrdered_ofFields ?_
  cases candidate with
  | none =>
    simp only [List.append_nil, List.forall_mem_cons]
    exact ⟨.string _, strings _, strings _, List.forall_mem_nil _⟩
  | some candidate =>
    simp only [List.cons_append, List.nil_append, List.forall_mem_cons]
    exact ⟨.string _, strings _, strings _, .string _, List.forall_mem_nil _⟩

/-- A hint is written with ascending keys. -/
theorem isOrdered_hintJson (hint : Hint) : (hintJson hint).IsOrdered := by
  refine isOrdered_ofFields ?_
  simp only [List.forall_mem_cons]
  exact ⟨.string _, .string _, List.forall_mem_nil _⟩

/-- A file that could not be read is written with ascending keys. -/
theorem isOrdered_unreadableJson (file : Scan.Unreadable) : (unreadableJson file).IsOrdered := by
  refine isOrdered_ofFields ?_
  simp only [List.forall_mem_cons]
  exact ⟨.string _, .string _, List.forall_mem_nil _⟩

/-- The totals are written with ascending keys. -/
theorem isOrdered_totalsJson (totals : Totals) : (totalsJson totals).IsOrdered := by
  refine isOrdered_ofFields ?_
  simp only [List.forall_mem_cons]
  exact ⟨.nat _, .nat _, .nat _, .nat _, List.forall_mem_nil _⟩

/-- Keys ascend at every level of what is written of an audit. -/
theorem isOrdered_toJson (report : Report) (decision : Decision) :
    (report.toJson decision).IsOrdered := by
  obtain ⟨missing, extra, duplicates, totals, bundled, hints, unreadable, files⟩ := report
  have hints := isOrdered_map isOrdered_hintJson hints
  have unreadable := isOrdered_map isOrdered_unreadableJson unreadable
  refine isOrdered_ofFields ?_
  cases files with
  | none =>
    simp only [List.append_nil, List.forall_mem_cons]
    exact ⟨.string _, isOrdered_ofStrings _, isOrdered_ofStrings _, isOrdered_tableJson _,
      isOrdered_totalsJson _, isOrdered_tableJson _, hints, unreadable, List.forall_mem_nil _⟩
  | some files =>
    have files := isOrdered_map isOrdered_entryJson files
    simp only [List.cons_append, List.nil_append, List.forall_mem_cons]
    exact ⟨.string _, isOrdered_ofStrings _, isOrdered_ofStrings _, isOrdered_tableJson _,
      isOrdered_totalsJson _, isOrdered_tableJson _, hints, unreadable, files,
      List.forall_mem_nil _⟩

/-! ## The text -/

/-- The text of a report is read as the value that the report is written as. -/
theorem ofText?_renderJson (report : Report) (decision : Decision) :
    Json.ofText? (report.renderJson decision).toList = some (report.toJson decision) := by
  unfold renderJson
  rw [String.toList_ofList]
  exact ofText?_print (isOrdered_toJson report decision).isPlain

/-- **The JSON report loses nothing.** The text of every report is JSON whose keys ascend, and the
findings and the verdict are read back from it. The files have a key just when they are asked for,
and a file has one for a suggested name just when there is one. Different reports or verdicts have
different texts. -/
theorem renderJson_faithful (report : Report) (decision : Decision) :
    (∃ value, Json.ofText? (report.renderJson decision).toList = some value ∧ value.IsOrdered ∧
      status? value = some decision ∧ findings? value = some report ∧
      (value.member? "files" = none ↔ report.files = none) ∧
      ∀ files, report.files = some files → ∃ items, value.member? "files" = some (.array items) ∧
        List.Forall₂ (fun item file => entry? item = some file ∧
          (item.member? "heuristic_name" = none ↔ file.candidate = none)) items files) ∧
    ∀ report' decision', report'.renderJson decision' = report.renderJson decision →
      report' = report ∧ decision' = decision := by
  have read := ofText?_renderJson report decision
  refine ⟨⟨report.toJson decision, read, isOrdered_toJson report decision,
    status?_toJson report decision, findings?_toJson report decision, ?_, ?_⟩, ?_⟩
  · obtain ⟨-, -, -, -, -, -, -, -, files⟩ := member?_toJson report decision
    rw [files, Option.map_eq_none_iff]
  · intro files asked
    obtain ⟨-, -, -, -, -, -, -, -, written⟩ := member?_toJson report decision
    rw [asked] at written
    refine ⟨files.map entryJson, written, ?_⟩
    rw [List.forall₂_map_left_iff]
    refine List.forall₂_same.mpr fun file _ => ⟨entry?_entryJson file, ?_⟩
    rw [(member?_entryJson file).2.2.2, Option.map_eq_none_iff]
  · intro report' decision' same
    have read' := ofText?_renderJson report' decision'
    rw [same, read] at read'
    have value := Option.some.inj read'
    have findings := findings?_toJson report' decision'
    have status := status?_toJson report' decision'
    rw [← value, findings?_toJson] at findings
    rw [← value, status?_toJson] at status
    exact ⟨(Option.some.inj findings).symm, (Option.some.inj status).symm⟩

end Report

end CatalogAudit
