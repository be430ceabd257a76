import CatalogAudit.Manifest.Form
import CatalogAudit.Proofs.Manifest.Markup.Numerals
import CatalogAudit.Proofs.Manifest.Runs.Stored
import CatalogAudit.Proofs.Yaml.Parts

/-!
# Plain tokens in the two forms

A token without quotes is a string, or the null value, a truth value or a number, by its spelling
alone. Where both forms accept a text and find the same plain token in an entry, they take it for
the same thing, but for whole numbers behind the mark of a radix that have more than 128 bits: the
line form sees that they are numbers, and markup falls back to a string.
-/

namespace CatalogAudit.Manifest

/-- Letters and digits of ASCII, signs, the point and the underscore. -/
def plainChars : List Char :=
  "ABCDEFGHIJKLMNOPQRSTUVWXYZabcdefghijklmnopqrstuvwxyz0123456789+-._".toList

/-- A text of such characters. -/
def IsPlainWord (text : List Char) : Prop := text ≠ [] ∧ ∀ c ∈ text, c ∈ plainChars

instance (text : List Char) : Decidable (IsPlainWord text) :=
  decidable_of_iff (text ≠ [] ∧ text.all (fun c => plainChars.contains c) = true)
    (by simp [IsPlainWord])

/-- None of the characters separates, quotes or marks anything. -/
theorem of_mem_plainChars {c : Char} (mem : c ∈ plainChars) :
    Text.isBlank c = false ∧ Text.isLineEnd c = false ∧ Layout.isReserved c = false ∧
      c ≠ ':' ∧ c ≠ '?' ∧ Line.isQuote c = false := by
  have all : plainChars.all (fun c => !Text.isBlank c && !Text.isLineEnd c &&
      !Layout.isReserved c && c != ':' && c != '?' && !Line.isQuote c) = true := by decide +kernel
  simpa [and_assoc] using List.all_eq_true.mp all c mem

section Words

variable {word : List Char}

/-- A word other than a hyphen stands without quotes as it is. -/
def Layout.Bare.ofWord (plain : IsPlainWord word) (noHyphen : word ≠ ['-']) : Layout.Bare where
  before := []
  text := word
  after := []
  padding := by simp
  beforeSolid := by simp
  afterSolid := by simp
  filled := plain.1
  oneLine c mem := by
    rw [List.nil_append, List.append_nil] at mem
    exact (of_mem_plainChars (plain.2 c mem)).2.1
  begins c first := (of_mem_plainChars (plain.2 c (List.mem_of_mem_head? first))).1
  ends c last := (of_mem_plainChars (plain.2 c (List.mem_of_mem_getLast? last))).1
  unreserved c first := (of_mem_plainChars (plain.2 c (List.mem_of_mem_head? first))).2.2.1
  unmarked c rest split marks := by
    have isChar : ∀ d ∈ c :: rest, d ∈ plainChars := split ▸ plain.2
    obtain ⟨first, others⟩ := List.forall_mem_cons.mp isChar
    obtain rfl := marks.resolve_right (of_mem_plainChars first).2.2.2.2.1
    refine ⟨?_, fun d next => (of_mem_plainChars (others d (List.mem_of_mem_head? next))).1⟩
    rintro rfl
    exact noHyphen split
  noKey c _ inside :=
    (of_mem_plainChars (plain.2 ':' (inside.subset List.mem_cons_self))).2.2.2.1 rfl
  noColon last :=
    (of_mem_plainChars (plain.2 ':' (List.mem_of_mem_getLast? last))).2.2.2.1 rfl
  noComment c _ inside := by
    have mark := of_mem_plainChars (plain.2 '#' (inside.subset (by simp)))
    exact absurd mark.2.2.1 (by decide)

end Words

namespace Line

/-- What is written behind a key: the value without the blanks around it and without a comment. -/
def writtenValue (value : List Char) : List Char :=
  Text.trimEnd (stripComment (Text.trimStart value))

/-- What is written begins where the value does. -/
theorem head?_of_writtenValue {value word : List Char} (written : writtenValue value = word)
    (filled : word ≠ []) : (Text.trimStart value).head? = word.head? := by
  have inside : word <+: stripComment (Text.trimStart value) := by
    rw [← written, writtenValue, Text.trimEnd, ← List.reverse_suffix, List.reverse_reverse]
    exact List.dropWhile_suffix _
  cases start : Text.trimStart value with
  | nil =>
    rw [start] at inside
    exact absurd (List.prefix_nil.mp inside) filled
  | cons c rest =>
    rw [start, stripComment, stripCommentFrom] at inside
    split at inside
    · exact absurd (List.prefix_nil.mp inside) filled
    · obtain ⟨kept, same⟩ := exists_stripCommentFrom_eq (Text.isBlank c) [c] rest
      rw [same] at inside
      cases word with
      | nil => exact absurd rfl filled
      | cons d others => rw [List.head?_cons, List.head?_cons, (List.cons_prefix_cons.mp inside).1]

/-- A word is read by its spelling; only a hyphen alone is refused. -/
theorem eq_spelledValue {value word : List Char} (plain : IsPlainWord word)
    (written : writtenValue value = word) {v : RawValue} (read : scalarValue value = .ok v) :
    v = spelledValue word := by
  have unquoted : Text.startsWith isQuote (Text.trimStart value) = false := by
    have first := head?_of_writtenValue written plain.1
    cases start : Text.trimStart value with
    | nil => rfl
    | cons c rest =>
      rw [start, List.head?_cons] at first
      exact (of_mem_plainChars (plain.2 c (List.mem_of_mem_head? first.symm))).2.2.2.2.2
  rw [scalarValue, unquoted] at read
  change plainValue (writtenValue value) = .ok v at read
  rw [written] at read
  by_cases hyphen : word = ['-']
  · rw [hyphen] at read
    cases read
  · exact Except.ok.inj (read.symm.trans (plainValue_bare (.ofWord plain hyphen)))

/-- A word is a string, null, a truth value or a number. -/
theorem spelledValue_cases (word : List Char) :
    spelledValue word = .text (String.ofList word) ∨
      ∃ type ∈ [ValueType.null, .boolean, .number], spelledValue word = .other type := by
  unfold spelledValue spelledType?
  dsimp only
  split
  · rename_i type spelled
    refine .inr ⟨type, ?_, rfl⟩
    split at spelled
    · rw [← Option.some.inj spelled]; decide
    · split at spelled
      · rw [← Option.some.inj spelled]; decide
      · split at spelled
        · rw [← Option.some.inj spelled]; decide
        · split at spelled
          · rw [← Option.some.inj spelled]; decide
          · cases spelled
  · exact .inl rfl

end Line

namespace Structured

/-- Entries are read one by one. -/
theorem exists_of_rawEntries {items : List Yaml.Value} {before raws : List RawEntry}
    {number : Nat} (read : rawEntries before number items = .ok raws) :
    ∃ more, raws = before.reverse ++ more ∧
      List.Forall₂ (fun item raw => ∃ fields, item = .mapping fields ∧ raw = rawEntry fields)
        items more := by
  induction items generalizing before number with
  | nil =>
    rw [← Except.ok.inj read]
    exact ⟨[], (List.append_nil _).symm, .nil⟩
  | cons item items ih =>
    cases item with
    | mapping fields =>
      rw [rawEntries] at read
      obtain ⟨more, rfl, rest⟩ := ih read
      refine ⟨rawEntry fields :: more, ?_, .cons ⟨fields, rfl, rfl⟩ rest⟩
      rw [List.reverse_cons, List.append_assoc]
      rfl
    | null | boolean _ | number _ | text _ | sequence _ | tagged _ _ => cases read

/-- The plain token in an entry of a text of markup, the entries counted from zero. -/
def plainToken? (text : List Char) (i : Nat) : Option (List Char) := do
  let tokens ← Yaml.Token.ofText? text
  let root ← Yaml.Node.ofTokens? tokens
  let list ← root.field? entriesKey
  let items ← list.items?
  let item ← items[i]?
  let token ← item.field? "token"
  token.plain?

/-- An accepted text has the token that a plain token spells, in the entry where it stands. -/
theorem exists_token_of_parse {text word : List Char} {raws : List RawEntry}
    (parsed : parse text = .ok raws) {i : Nat} (has : plainToken? text i = some word) :
    ∃ raw v, raws[i]? = some raw ∧ Yaml.Plain.value? word = some v ∧
      raw.token = some (rawValue v) := by
  simp only [plainToken?, Option.bind_eq_bind, Option.bind_eq_some_iff] at has
  obtain ⟨tokens, isTokens, root, isRoot, list, hasList, items, isList, item, isItem, token,
    hasToken, isPlain⟩ := has
  unfold parse at parsed
  split at parsed
  · cases parsed
  · rename_i fields means
    simp only [Yaml.Value.ofText?, isTokens, isRoot, Option.bind_eq_bind, Option.bind_some,
      Option.bind_eq_some_iff] at means
    obtain ⟨⟨value, later⟩, means, same⟩ := means
    obtain rfl := Option.some.inj same
    obtain ⟨depth₁, fields', w, same, found, listMeans⟩ :=
      Yaml.Node.exists_of_field? (Layout.value?_eq_text (by decide) (by decide)) hasList
        ⟨0, later, means⟩
    obtain rfl := Yaml.Value.mapping.inj same
    rw [found] at parsed
    obtain ⟨depth₂, values, rfl, parts⟩ := Yaml.Node.exists_of_items? isList listMeans
    obtain ⟨_, rfl, entries⟩ := exists_of_rawEntries parsed
    obtain ⟨inside, rfl⟩ := List.getElem?_eq_some_iff.mp isItem
    have inValues : i < values.length := parts.length_eq ▸ inside
    have inRaws : i < raws.length := entries.length_eq ▸ inValues
    have itemMeans := parts.get inside inValues
    obtain ⟨fields, isMapping, isRaw⟩ := entries.get inValues inRaws
    rw [isMapping] at itemMeans
    obtain ⟨depth₃, fields', w, same, found, tokenMeans⟩ :=
      Yaml.Node.exists_of_field? (Layout.value?_eq_text (by decide) (by decide)) hasToken itemMeans
    obtain rfl := Yaml.Value.mapping.inj same
    refine ⟨raws[i], w, List.getElem?_eq_getElem inRaws,
      Yaml.Node.value?_of_plain? isPlain tokenMeans, ?_⟩
    rw [List.get_eq_getElem] at isRaw
    rw [isRaw, rawEntry, found]
    rfl
  · cases parsed

end Structured

/-- In both forms the entry with that index, counted from zero, has the plain token. -/
structure HasPlainToken (text : List Char) (i : Nat) (word : List Char) : Prop where
  /-- Behind a key of its block it is written without quotes. -/
  line : ∃ block value, (Line.entryBlocks (Text.lines text))[i]? = some block ∧
    value ∈ Line.tokenValues block ∧ Line.writtenValue value = word
  /-- In its mapping it is a plain scalar. -/
  markup : Structured.plainToken? text i = some word

/-- What the two forms have in the entries where the plain token stands. -/
structure Resolved (word : List Char) (x y : RawEntry) : Prop where
  /-- It is the same string in both, or null, a truth value or a number in both. -/
  alike : ¬Layout.IsLarge word → x.token = y.token ∧
    (x.token = some (.text (String.ofList word)) ∨
      ∃ type ∈ [ValueType.null, .boolean, .number], x.token = some (.other type))
  /-- A whole number behind the mark of a radix that has more than 128 bits is a number in the first
  form and a string in the second. -/
  large : Layout.IsLarge word → x.token = some (.other .number) ∧
    y.token = some (.text (String.ofList word))

/-- Both forms take a plain token for the same thing, unless it is too large a number behind the
mark of a radix. -/
theorem plain_tokens_agree {text word : List Char} (plain : IsPlainWord word)
    {xs ys : List RawEntry} (line : Form.parse .line text = .ok xs)
    (markup : Form.parse .structured text = .ok ys) {i : Nat} (has : HasPlainToken text i word) :
    ∃ x y, xs[i]? = some x ∧ ys[i]? = some y ∧ Resolved word x y := by
  obtain ⟨block, value, isBlock, mem, written⟩ := has.line
  obtain ⟨x, v, isX, read, xToken⟩ := Line.exists_token_of_parse line isBlock mem
  obtain ⟨y, w, isY, means, yToken⟩ := Structured.exists_token_of_parse markup has.markup
  rw [Line.eq_spelledValue plain written read] at xToken
  refine ⟨x, y, isX, isY, fun small => ?_, fun large => ?_⟩
  · obtain ⟨large, -⟩ | ⟨-, same⟩ := Layout.value?_agrees plain.1 means
    · exact absurd large small
    · refine ⟨by rw [xToken, yToken, same], ?_⟩
      obtain string | ⟨type, known, typed⟩ := Line.spelledValue_cases word
      · exact .inl (by rw [xToken, string])
      · exact .inr ⟨type, known, by rw [xToken, typed]⟩
  · obtain ⟨-, number, isText⟩ | ⟨small, -⟩ := Layout.value?_agrees plain.1 means
    · rw [xToken, yToken, number, isText]
      exact ⟨rfl, rfl⟩
    · exact absurd large small

/-- A hexadecimal number with a comment behind it is a number in both forms. -/
theorem plain_tokens_agree_hexadecimal :
    Form.parse .line "entries:\n- token: 0x1F # hue\n".toList =
        .ok [{ token := some (.other .number) }] ∧
      Form.parse .structured "entries:\n- token: 0x1F # hue\n".toList =
        .ok [{ token := some (.other .number) }] ∧
      ∃ x y, [({ token := some (.other .number) } : RawEntry)][0]? = some x ∧
        [({ token := some (.other .number) } : RawEntry)][0]? = some y ∧
        Resolved "0x1F".toList x y := by
  have line : Form.parse .line "entries:\n- token: 0x1F # hue\n".toList =
      .ok [{ token := some (.other .number) }] := by decide +kernel
  have markup : Form.parse .structured "entries:\n- token: 0x1F # hue\n".toList =
      .ok [{ token := some (.other .number) }] := by decide +kernel
  have has : HasPlainToken "entries:\n- token: 0x1F # hue\n".toList 0 "0x1F".toList :=
    ⟨⟨["- token: 0x1F # hue".toList], " 0x1F # hue".toList, by decide +kernel, by decide +kernel,
      by decide +kernel⟩, by decide +kernel⟩
  exact ⟨line, markup, plain_tokens_agree (by decide +kernel) line markup has⟩

/-- A hexadecimal number of 132 bits is a number in the line form and a string in markup. -/
theorem plain_tokens_differ :
    ∃ text word, IsPlainWord word ∧ HasPlainToken text 0 word ∧
      Form.parse .line text = .ok [{ token := some (.other .number) }] ∧
      Form.parse .structured text = .ok [{ token := some (.text (String.ofList word)) }] :=
  ⟨"entries:\n- token: 0xFFFFFFFFFFFFFFFFFFFFFFFFFFFFFFFFF\n".toList,
    "0xFFFFFFFFFFFFFFFFFFFFFFFFFFFFFFFFF".toList, by decide +kernel,
    ⟨⟨["- token: 0xFFFFFFFFFFFFFFFFFFFFFFFFFFFFFFFFF".toList],
      " 0xFFFFFFFFFFFFFFFFFFFFFFFFFFFFFFFFF".toList, by decide +kernel, by decide +kernel,
      by decide +kernel⟩, by decide +kernel⟩,
    by decide +kernel, by decide +kernel⟩

end CatalogAudit.Manifest
