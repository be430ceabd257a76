import CatalogAudit.Proofs.Manifest.Runs.Blocks
import Mathlib.Data.List.SplitBy

/-!
# What the keys of an entry store

The keys of an entry stand in one column of its block, the first of them perhaps behind the dash.
Whatever is open when a key comes, it is read as a key, and nothing behind it changes what it
stored, for a repeated key is refused. So the token of an entry is the value behind the key of that
name, wherever in the block it stands.
-/

namespace CatalogAudit.Manifest.Line

/-- The lines under the key of the entries in blocks, each of which begins at a dash in the column
of the first one. -/
def entryBlocks (lines : List (List Char)) : List (List (List Char)) :=
  (listLines lines).splitBy fun _ line => !isDashAt (dashColumn (listLines lines)) line

/-- What stands behind the dash of a line. -/
def bodyOf (line : List Char) : List Char := (itemBody? (contentOf line)).getD []

/-- The column of the keys of a block: that of the first one, behind the dash or below it. -/
def keyColumnOf : List (List Char) → Nat
  | [] => 0
  | dash :: below =>
    if (bodyOf dash).isEmpty then dashColumn below
    else columnOf dash + Text.byteLength (contentOf dash) - Text.byteLength (bodyOf dash)

/-- Whether the line is no list item and stands at the column. -/
def isKeyAt (column : Nat) (line : List Char) : Bool :=
  columnOf line == column && (itemBody? (contentOf line)).isNone

/-- The keys of a block with their values. -/
def keyTexts : List (List Char) → List (List Char)
  | [] => []
  | dash :: below =>
    let others := (below.filter (isKeyAt (keyColumnOf (dash :: below)))).map contentOf
    if (bodyOf dash).isEmpty then others else bodyOf dash :: others

/-- What stands behind the token keys of a block. -/
def tokenValues (block : List (List Char)) : List (List Char) :=
  (keyTexts block).filterMap fun text =>
    match splitKey text with
    | .ok (some (key, value)) => if key = "token".toList then some value else none
    | _ => none

/-- The token values of a block are what stands behind its token keys. -/
theorem mem_tokenValues {block : List (List Char)} {value : List Char} :
    value ∈ tokenValues block ↔
      ∃ text ∈ keyTexts block, splitKey text = .ok (some ("token".toList, value)) := by
  rw [tokenValues, List.mem_filterMap]
  refine exists_congr fun text => and_congr_right fun _ => ?_
  split
  · rename_i key other splits
    rw [splits]
    by_cases isToken : key = "token".toList
    · rw [if_pos isToken, isToken]
      simp
    · rw [if_neg isToken]
      simp only [reduceCtorEq, false_iff]
      intro same
      injection same with found
      injection Option.some.inj found with isToken'
      exact isToken isToken'
  · rename_i noKey
    simp only [reduceCtorEq, false_iff]
    exact noKey _ _

/-- A key stands behind the dash or in the column of the keys. -/
theorem mem_keyTexts {dash text : List Char} {below : List (List Char)} :
    text ∈ keyTexts (dash :: below) ↔
      (bodyOf dash).isEmpty = false ∧ text = bodyOf dash ∨
        ∃ line ∈ below, isKeyAt (keyColumnOf (dash :: below)) line = true ∧
          contentOf line = text := by
  have others : text ∈ (below.filter (isKeyAt (keyColumnOf (dash :: below)))).map contentOf ↔
      ∃ line ∈ below, isKeyAt (keyColumnOf (dash :: below)) line = true ∧
        contentOf line = text := by
    simp only [List.mem_map, List.mem_filter, and_assoc]
  rw [keyTexts, ← others]
  cases (bodyOf dash).isEmpty with
  | true => simp
  | false => rw [if_neg Bool.false_ne_true, List.mem_cons]; simp

/-- A line of the list says something, and no top-level key. -/
theorem of_mem_listLines {lines : List (List Char)} {line : List Char}
    (mem : line ∈ listLines lines) : topKey? line = none ∧ isNoise line = false := by
  obtain ⟨mem, loud⟩ := List.mem_filter.mp mem
  have inside := List.mem_takeWhile_imp mem
  exact ⟨Option.isNone_iff_eq_none.mp inside, by simpa using loud⟩

/-- The blocks of an accepted text are found by the dashes alone. -/
theorem eq_entryBlocks {lines : List (List Char)} {blocks : List (List (List Char))}
    {raws : List RawEntry} (flat : blocks.flatten = listLines lines)
    (areBlocks : List.Forall₂ (IsEntryBlock (dashColumn (listLines lines))) blocks raws) :
    blocks = entryBlocks lines := by
  have headed : ∀ block ∈ blocks, ∃ dash below, block = dash :: below ∧
      isDashAt (dashColumn (listLines lines)) dash = true ∧
        ∀ line ∈ below, isDashAt (dashColumn (listLines lines)) line = false := by
    intro block mem
    obtain ⟨i, rfl⟩ := List.get_of_mem mem
    exact (areBlocks.get i.2 (areBlocks.length_eq ▸ i.2)).headed
  rw [entryBlocks, ← flat, List.splitBy_flatten]
  · intro mem
    obtain ⟨dash, below, absent, -⟩ := headed [] mem
    cases absent
  · intro block mem
    obtain ⟨dash, below, rfl, -, others⟩ := headed block mem
    rw [flat]
    have inside : ∀ line ∈ below, (!isDashAt (dashColumn (listLines lines)) line) = true :=
      fun line mem => by rw [others line mem]; rfl
    refine List.Pairwise.isChain (List.pairwise_cons.mpr ⟨inside, ?_⟩)
    exact List.pairwise_of_forall_mem_list fun _ _ line mem => inside line mem
  · refine List.Pairwise.isChain (List.pairwise_of_forall_mem_list fun block mem next mem' => ?_)
    obtain ⟨dash, below, rfl, -⟩ := headed block mem
    obtain ⟨dash', below', rfl, isDash, -⟩ := headed next mem'
    refine ⟨List.cons_ne_nil _ _, List.cons_ne_nil _ _, ?_⟩
    rw [flat, List.head_cons, isDash]
    rfl

namespace Reader

variable {r next r' : Reader} {text : List Char} {column : Nat} {content : List Char}
  {entry : OpenEntry}

/-- Behind the dash a line that belongs to no block is read as a key, unless it is an item of a list
that is open. -/
theorem exists_keyLine_of_listLine (known : r.entryColumn = some column)
    (noDash : isDashAt column text = false)
    (noItem : (∃ keyColumn itemColumn, r.block = .modes keyColumn itemColumn) →
      itemBody? (contentOf text) = none)
    (step : r.listLine (columnOf text) (contentOf text) = .ok next) :
    ∃ block, { r with block }.keyLine (columnOf text) (contentOf text) = .ok next := by
  obtain ⟨body, item, here, -⟩ | ⟨dash, -, -, read⟩ := listLine_cases step
  · rw [known, Option.getD_some] at here
    rw [isDashAt, here, item, beq_self_eq_true] at noDash
    cases noDash
  · obtain ⟨keyColumn, itemColumn, body, open_, item, -⟩ | ⟨block, -, read⟩ := deepLine_cases read
    · rw [noItem ⟨keyColumn, itemColumn, open_⟩] at item
      cases item
    · exact ⟨block, read⟩

/-- Where nothing is open, only a key can come. -/
theorem InEntry.noItem (inEntry : InEntry column r) (closed : r.block = .none)
    (noKey : topKey? text = none) (loud : isNoise text = false)
    (noDash : isDashAt column text = false) (step : r.line text = .ok next) :
    itemBody? (contentOf text) = none := by
  have read := (inEntry.entriesLine noKey loud step).2
  obtain ⟨_, skip, -⟩ | ⟨block, -, none_, read⟩ := entriesLine_cases read
  · cases closed.symm.trans skip
  · have none_ : block = .none := none_.elim id fun same => same.trans closed
    obtain ⟨block', read⟩ := exists_keyLine_of_listLine
      (r := { r with sawContent := true, block }) inEntry.dashes noDash (by simp [none_]) read
    obtain ⟨-, -, noItem, -⟩ := keyLine_cases read
    exact noItem

/-- A line in the column of the keys is read as a key, whatever is open. -/
theorem InEntry.exists_of_key (inEntry : InEntry column r) (current : r.current = some entry)
    (noKey : topKey? text = none) (loud : isNoise text = false)
    (here : entry.keyColumn.getD (columnOf text) = columnOf text)
    (noItem : itemBody? (contentOf text) = none) (step : r.line text = .ok next) :
    ∃ entry', next.current = some entry' ∧ entry.Le entry' ∧
      entry'.keyColumn = some (columnOf text) ∧ entry'.HasTokenOf (contentOf text) := by
  have noDash : isDashAt column text = false := by rw [isDashAt, noItem]; simp
  have read := (inEntry.entriesLine noKey loud step).2
  obtain ⟨deeperThan, skip, deeper, -⟩ | ⟨block, -, -, read⟩ := entriesLine_cases read
  · -- Ignored content stands deeper than the keys, so it has ended here.
    obtain ⟨same, current', keys⟩ := inEntry.sound.block deeperThan (by rw [skip]; rfl)
    obtain rfl := Option.some.inj (current.symm.trans current')
    rw [keys, Option.getD_some] at here
    omega
  · obtain ⟨block', read⟩ := exists_keyLine_of_listLine
      (r := { r with sawContent := true, block }) inEntry.dashes noDash (fun _ => noItem) read
    exact exists_le_keyLine (r := { r with sawContent := true, block := block' }) current read

/-- Among the lines of an entry each key is read and its value kept to the last of them. -/
theorem InEntry.lines (inEntry : InEntry column r) (current : r.current = some entry) {keys : Nat}
    (placed : entry.keyColumn = some keys) {lines : List (List Char)}
    (inList : ∀ line ∈ lines, topKey? line = none ∧ isNoise line = false)
    (noDash : ∀ line ∈ lines, isDashAt column line = false) {number : Nat}
    (run : r.lines number lines = .ok r') :
    ∃ entry', r'.current = some entry' ∧ entry.Le entry' ∧
      ∀ line ∈ lines, isKeyAt keys line = true → entry'.HasTokenOf (contentOf line) := by
  induction lines generalizing r entry number with
  | nil =>
    rw [Reader.lines] at run
    rw [← Except.ok.inj run]
    exact ⟨entry, current, .refl entry, by simp⟩
  | cons text rest ih =>
    obtain ⟨next, step, onward⟩ := exists_line_of_cons run
    obtain ⟨⟨noKey, loud⟩, inRest⟩ := List.forall_mem_cons.mp inList
    obtain ⟨noDash, noDashes⟩ := List.forall_mem_cons.mp noDash
    obtain ⟨inEntry', stays⟩ := inEntry.line noKey noDash step
    obtain ⟨entry₁, current₁, le₁, first⟩ : ∃ entry', next.current = some entry' ∧
        entry.Le entry' ∧ (isKeyAt keys text = true → entry'.HasTokenOf (contentOf text)) := by
      cases isKey : isKeyAt keys text with
      | true =>
        rw [isKeyAt, Bool.and_eq_true, beq_iff_eq, Option.isNone_iff_eq_none] at isKey
        have here : entry.keyColumn.getD (columnOf text) = columnOf text := by
          rw [placed, Option.getD_some, isKey.1]
        obtain ⟨entry', after, le, -, token⟩ :=
          inEntry.exists_of_key current noKey loud here isKey.2 step
        exact ⟨entry', after, le, fun _ => token⟩
      | false =>
        obtain ⟨entry', after, le⟩ := stays.current entry current
        exact ⟨entry', after, le, fun absent => absurd absent Bool.false_ne_true⟩
    obtain ⟨entry', after, le, others⟩ :=
      ih inEntry' current₁ (le₁.placed keys placed) inRest noDashes onward
    refine ⟨entry', after, le₁.trans le, List.forall_mem_cons.mpr ⟨?_, others⟩⟩
    exact fun isKey => (first isKey).mono le

/-- Below a dash alone the first line is a key, and its column becomes that of the keys. -/
theorem InEntry.lines_of_bare (inEntry : InEntry column r) (current : r.current = some {})
    (closed : r.block = .none) {lines : List (List Char)}
    (inList : ∀ line ∈ lines, topKey? line = none ∧ isNoise line = false)
    (noDash : ∀ line ∈ lines, isDashAt column line = false) {number : Nat}
    (run : r.lines number lines = .ok r') :
    ∃ entry', r'.current = some entry' ∧
      ∀ line ∈ lines, isKeyAt (dashColumn lines) line = true →
        entry'.HasTokenOf (contentOf line) := by
  cases lines with
  | nil =>
    rw [Reader.lines] at run
    rw [← Except.ok.inj run]
    exact ⟨_, current, by simp⟩
  | cons first rest =>
    obtain ⟨next, step, onward⟩ := exists_line_of_cons run
    obtain ⟨⟨noKey, loud⟩, inRest⟩ := List.forall_mem_cons.mp inList
    obtain ⟨noDash, noDashes⟩ := List.forall_mem_cons.mp noDash
    have noItem := inEntry.noItem closed noKey loud noDash step
    obtain ⟨entry, current, -, placed, token⟩ :=
      inEntry.exists_of_key current noKey loud rfl noItem step
    obtain ⟨entry', last, le, others⟩ :=
      (inEntry.line noKey noDash step).1.lines current placed inRest noDashes onward
    exact ⟨entry', last, List.forall_mem_cons.mpr ⟨fun _ => token.mono le, others⟩⟩

/-- A dash opens an entry, the first key of which may stand behind it. -/
theorem exists_of_startEntry {body : List Char}
    (step : r.startEntry column content body = .ok next) :
    ∃ entry, next.current = some entry ∧
      if body.isEmpty then entry = {} ∧ next.block = .none
      else entry.keyColumn =
          some (column + Text.byteLength content - Text.byteLength body) ∧
        entry.HasTokenOf body := by
  obtain ⟨bare, after⟩ | ⟨filled, read⟩ := startEntry_cases step
  · rw [after]
    exact ⟨{}, rfl, by rw [if_pos bare]; exact ⟨rfl, rfl⟩⟩
  · obtain ⟨entry, current, le, token⟩ := exists_le_entryField rfl read
    exact ⟨entry, current, by rw [filled]; exact ⟨le.placed _ rfl, token⟩⟩

/-- Once its block is read an entry has the token of each token key. -/
theorem exists_of_block {dash : List Char} {below : List (List Char)}
    (isDash : isDashAt column dash = true) (noDash : ∀ line ∈ below, isDashAt column line = false)
    (inList : ∀ line ∈ below, topKey? line = none ∧ isNoise line = false) {number : Nat}
    (run : inEntries.lines number (dash :: below) = .ok r') :
    ∃ entry, r'.current = some entry ∧
      ∀ text ∈ keyTexts (dash :: below), entry.HasTokenOf text := by
  obtain ⟨next, step, onward⟩ := exists_line_of_cons run
  rw [isDashAt, Bool.and_eq_true, beq_iff_eq] at isDash
  obtain ⟨here, isItem⟩ := isDash
  obtain ⟨body, item⟩ := Option.isSome_iff_exists.mp isItem
  obtain rfl : bodyOf dash = body := by rw [bodyOf, item, Option.getD_some]
  have sound := sound_inEntries.line step
  rw [sound_inEntries.line_of_dash rfl item rfl] at step
  obtain ⟨place, dashes, -, -⟩ := frame_startEntry step
  have inEntry : InEntry column next := ⟨sound, place, by rw [dashes, here]⟩
  obtain ⟨entry, current, opened⟩ := exists_of_startEntry step
  obtain ⟨entry', after, first, others⟩ : ∃ entry', r'.current = some entry' ∧
      ((bodyOf dash).isEmpty = false → entry'.HasTokenOf (bodyOf dash)) ∧
      ∀ line ∈ below, isKeyAt (keyColumnOf (dash :: below)) line = true →
        entry'.HasTokenOf (contentOf line) := by
    rw [keyColumnOf]
    cases bare : (bodyOf dash).isEmpty with
    | false =>
      rw [bare, if_neg Bool.false_ne_true] at opened
      obtain ⟨entry', after, le, others⟩ := inEntry.lines current opened.1 inList noDash onward
      exact ⟨entry', after, fun _ => opened.2.mono le, others⟩
    | true =>
      rw [bare, if_pos rfl] at opened
      obtain ⟨rfl, closed⟩ := opened
      obtain ⟨entry', after, others⟩ := inEntry.lines_of_bare current closed inList noDash onward
      exact ⟨entry', after, fun absent => absurd absent (by decide), others⟩
  refine ⟨entry', after, fun text isText => ?_⟩
  obtain ⟨filled, rfl⟩ | ⟨line, mem, isKey, rfl⟩ := mem_keyTexts.mp isText
  · exact first filled
  · exact others line mem isKey

/-- The only entry is the one that is open at the end. -/
theorem eq_of_finish {raw : RawEntry} (current : r.current = some entry)
    (finished : r.finish = .ok [raw]) : entry.raw = raw := by
  rw [finish] at finished
  split at finished
  · have entries := Except.ok.inj finished
    simp only [closeEntry, current, Array.toList_push] at entries
    have last : some entry.raw = some raw := by
      simpa using congrArg List.getLast? entries
    exact Option.some.inj last
  · cases finished

end Reader

/-- An accepted text has the token of each token key, in the entry that its block makes. -/
theorem exists_token_of_parse {text : List Char} {raws : List RawEntry}
    (parsed : parse text = .ok raws) {i : Nat} {block : List (List Char)}
    (isBlock : (entryBlocks (Text.lines text))[i]? = some block) {value : List Char}
    (mem : value ∈ tokenValues block) :
    ∃ raw token, raws[i]? = some raw ∧ scalarValue value = .ok token ∧
      raw.token = some token := by
  obtain ⟨blocks, flat, areBlocks⟩ := exists_blocks_of_parse parsed
  rw [← eq_entryBlocks flat areBlocks] at isBlock
  obtain ⟨inside, rfl⟩ := List.getElem?_eq_some_iff.mp isBlock
  have inside' : i < raws.length := areBlocks.length_eq ▸ inside
  obtain ⟨⟨dash, below, split, isDash, noDash⟩, r, run, finished⟩ := areBlocks.get inside inside'
  rw [List.get_eq_getElem] at split run finished
  rw [split] at mem run
  have inList : ∀ line ∈ dash :: below, topKey? line = none ∧ isNoise line = false := by
    intro line mem
    rw [← split] at mem
    exact of_mem_listLines (flat ▸ List.mem_flatten_of_mem (List.getElem_mem inside) mem)
  obtain ⟨start, first, run⟩ := Reader.exists_line_of_cons run
  rw [Reader.line_entriesKey_alone] at first
  rw [← Except.ok.inj first] at run
  obtain ⟨entry, current, tokens⟩ :=
    Reader.exists_of_block isDash noDash (List.forall_mem_cons.mp inList).2 run
  obtain ⟨key, isKey, splits⟩ := mem_tokenValues.mp mem
  obtain ⟨-, token, scalar, stored⟩ := tokens key isKey value splits
  refine ⟨raws[i], token, List.getElem?_eq_getElem inside', scalar, ?_⟩
  rw [← Reader.eq_of_finish current finished]
  exact stored

end CatalogAudit.Manifest.Line
