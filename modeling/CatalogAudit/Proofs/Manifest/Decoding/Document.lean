import CatalogAudit.Proofs.Manifest.Decoding.Entry
import CatalogAudit.Proofs.Manifest.Layout.Canonical
import CatalogAudit.Proofs.Manifest.Layout.OneLine

/-!
# Manifests read as they were written

The line form reads every layout of a manifest as the entries that it says, in their order. From the
top level the reader comes to the list of entries, and there every entry leads from one dash to the
next.
-/

namespace CatalogAudit.Manifest.Line.Reader

open Layout

/-- The reader in the list of entries, before the first. -/
def inEntries : Reader :=
  { place := .entries, topKeys := [entriesKey.toList], sawContent := true }

/-- Right behind the key of the entry list the reader is ready for the first entry. -/
theorem ready_inEntries (column : Nat) : Ready column #[] inEntries :=
  ⟨rfl, rfl, rfl, rfl, by simp [inEntries]⟩

/-- A mark that begins a document is passed over when nothing came before it. -/
theorem line_mark (tail : Tail) :
    ({} : Reader).line ('-' :: '-' :: '-' :: tail.text) = .ok {} := by
  have mark : isDocumentStart ('-' :: '-' :: '-' :: tail.text) = true := isSpent_tail tail
  simp [Reader.line, mark, Text.isBlankText, Text.startsWith_cons]

/-- The key of the entries leads to their list. -/
theorem line_entriesKey (key : Key entriesKey.toList) (tail : Tail) :
    ({} : Reader).line (key.text ++ tail.text) = .ok inEntries := by
  have word : IsWord entriesKey.toList := by decide
  have split := splitKey_text word key (endsKey_tail tail)
  obtain ⟨c, others, text, solid, noComment, noDash, -⟩ := exists_text_key word key tail.text
  rw [text] at split
  have noItem := itemBody?_cons noDash others
  have noMark : isDocumentStart (c :: others) = false := by
    unfold isDocumentStart
    split
    · rename_i mark
      exact absurd (List.cons.inj mark).1 noDash
    · rfl
  have content : ({} : Reader).line (c :: others) = ({} : Reader).contentLine 0 (c :: others) :=
    line_spaces {} 0 solid noComment fun _ => noMark
  have top : ({} : Reader).contentLine 0 (c :: others)
      = ({ sawContent := true } : Reader).topLevel (c :: others) := by
    simp [contentLine, noItem]
  have spent := isSpent_trimStart_tail tail
  rw [text, content, top, topLevel, split]
  simp [closeEntry, openEntries, spent, inEntries]

/-- Before the entries the reader comes to their list. -/
theorem reads_head (doc : Document) :
    Reads {} (doc.headLines ++ (doc.key.text ++ doc.tail.text) :: doc.after.map Noise.text)
      inEntries := by
  have head : Reads {} doc.headLines {} := by
    rw [Document.headLines]
    apply reads_append (reads_noise _ doc.head)
    cases doc.mark with
    | none => exact reads_nil _
    | some marked => exact reads_cons (line_mark marked.1) (reads_noise _ marked.2)
  exact reads_append head (reads_cons (line_entriesKey doc.key doc.tail) (reads_noise _ doc.after))

/-- Entries are read one after the other. -/
theorem exists_reads_entries (entries : List Layout.Entry) {column : Nat} {done : Array RawEntry}
    {r : Reader} (ready : Ready column done r) :
    ∃ r', Reads r (entries.flatMap (Layout.Entry.lines column)) r' ∧
      Ready column (done ++ (entries.map fun e => e.declared.raw).toArray) r' := by
  induction entries generalizing done r with
  | nil => exact ⟨r, reads_nil r, by simpa using ready⟩
  | cons e entries ih =>
    obtain ⟨between, first, readyBetween⟩ := exists_reads_entry e ready
    obtain ⟨r', others, readyAfter⟩ := ih readyBetween
    refine ⟨r', ?_, ?_⟩
    · rw [List.flatMap_cons]
      exact reads_append first others
    · simpa [← Array.toList_inj] using readyAfter

/-- An empty line at the end leads nowhere. -/
theorem lines_concat_nil (r : Reader) (number : Nat) (lines : List (List Char)) :
    r.lines number (lines ++ [[]]) = r.lines number lines := by
  induction lines generalizing r number with
  | nil =>
    have blank : Reads r [[]] r := reads_noise r [.blank Gap.none]
    rw [List.nil_append, blank number, Reader.lines]
  | cons text lines ih =>
    rw [List.cons_append, Reader.lines, Reader.lines]
    cases r.line text with
    | error fault => rfl
    | ok next => exact ih next (number + 1)

/-- An empty line at the end makes no difference. -/
theorem lines_withoutEmptyEnd (r : Reader) (number : Nat) (lines : List (List Char)) :
    r.lines number (Text.withoutEmptyEnd lines) = r.lines number lines := by
  rw [Text.withoutEmptyEnd]
  split
  · rename_i last
    obtain ⟨before, same⟩ := List.getLast?_eq_some_iff.mp last
    rw [same, List.dropLast_concat, lines_concat_nil]
  · rfl

/-- A run makes no difference between a text and one without an empty line at its end. -/
theorem reads_withoutEmptyEnd {r r' : Reader} {lines : List (List Char)}
    (reads : Reads r lines r') : Reads r (Text.withoutEmptyEnd lines) r' := by
  intro number
  rw [lines_withoutEmptyEnd]
  exact reads number

/-- A reader that has come through all entries hands them out. -/
theorem finish_of_ready {column : Nat} {done : Array RawEntry} {r : Reader}
    (ready : Ready column done r) : r.finish = .ok done.toList := by
  rw [finish, ready.topKeys, ready.entries]
  rfl

end CatalogAudit.Manifest.Line.Reader

namespace CatalogAudit.Manifest.Line

open Layout

/-- The line form reads every layout of a manifest as what the manifest says. -/
theorem parse_text (doc : Document) : parse doc.text = .ok (doc.declared.map Declared.raw) := by
  obtain ⟨r, reads, ready⟩ := Reader.exists_reads_entries doc.entries
    (Reader.ready_inEntries doc.indent)
  have all : Reader.Reads {} doc.lines r := Reader.reads_append (Reader.reads_head doc) reads
  have read : ({} : Reader).lines 1 (Text.lines doc.text) = .ok r := by
    rw [Document.text, Text.lines_written]
    · split
      · exact all 1
      · exact Reader.reads_withoutEmptyEnd all 1
    · intro line mem
      exact oneLine_of_mem_lines mem
  rw [parse, read]
  simp only [Reader.finish_of_ready ready]
  simp [Document.declared]

/-- The line form reads every layout of every manifest as what the manifest says, and there is no
manifest without a layout: any strings may be its tokens, kinds and modes. -/
theorem parse_every_layout :
    (∀ doc : Document, parse doc.text = .ok (doc.declared.map Declared.raw)) ∧
      ∀ entries : List Declared, ∃ doc : Document, doc.declared = entries := by
  constructor
  · exact parse_text
  · intro entries
    exact ⟨Document.ofDeclared entries, Document.declared_ofDeclared entries⟩

/-- A plain token before white space of another kind, a kind in single quotes, and a mode with an
escape of a letter and one of a number are read as what they say; a token may be spelled like the
null value. -/
theorem parse_every_layout_mixed :
    String.ofList mixedDocument.text =
        "entries:\n-\n #first\n    kind: 'effect'\n    token: blur\u00a0\n" ++
          "    modes:\n    - \"a\\t\\x41\"\n" ∧
      parse mixedDocument.text =
        .ok [(⟨"blur", "effect", some ["a\tA"]⟩ : Declared).raw] ∧
      ∃ doc : Document, doc.declared = [⟨"null", "effect", none⟩] := by
  obtain ⟨reads, layouts⟩ := parse_every_layout
  exact ⟨by decide, reads mixedDocument, layouts [⟨"null", "effect", none⟩]⟩

end CatalogAudit.Manifest.Line
