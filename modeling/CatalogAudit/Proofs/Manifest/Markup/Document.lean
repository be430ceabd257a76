import CatalogAudit.Proofs.Manifest.Markup.Entry

/-!
# Documents as tokens

The tokens of a whole document: a mapping with one key, and the list of the entries below it.
-/

namespace CatalogAudit.Manifest.Layout

open Yaml (Passes Solid Token)
open Yaml.Token.Reader (Comes Leads Stands openedAt openingAt)

namespace Document

variable (doc : Document)

/-- The tokens of the list of the entries; without entries there is no list. -/
def listTokens : List Token :=
  if doc.entries = [] then [] else blockList doc.indent (doc.entries.flatMap Entry.tokens)

/-- The tokens of the mark that begins a document, if there is one. -/
def markTokens : List Token := if doc.mark.isSome then [.documentStart] else []

/-- The tokens of the document. -/
def tokens : List Token :=
  doc.markTokens ++ .blockMappingStart :: (doc.key.tokens ++ doc.listTokens)
    ++ [.blockEnd, .streamEnd]

variable {doc}

/-- The end of the document, where its mapping is still open. -/
def textEnd : Place := ⟨[], 0, [1]⟩

/-- The lines of the entries are read up to the end of the text. -/
theorem carries_entries (markup : doc.IsMarkup) {text : List Char}
    (stacked : Stacked (doc.entries.flatMap (Entry.lines doc.indent)) [] text) :
    Carries doc.indent text [1] doc.listTokens textEnd := by
  have ended : Carries 0 [] [1] [] textEnd := by
    refine ⟨[], 0, Nat.le_refl 0, .textEnd rfl, fun limit r before comes => ?_⟩
    refine ⟨r, Yaml.Token.Reader.leads_refl limit r, ?_⟩
    rw [List.append_nil]
    exact comes
  rw [listTokens]
  split
  · rename_i none
    rw [none] at stacked
    obtain rfl : text = [] := stacked
    exact ended.of_le (Nat.zero_le _)
  · rename_i filled
    have each : ∀ e ∈ doc.entries, Opens .blockSequenceStart (0 + doc.indent)
        (e.lines doc.indent) e.tokens := by
      intro e mem
      rw [Nat.zero_add]
      exact e.opens (markup.entries e mem)
    have list := carries_list filled each rfl stacked ended
    rwa [Nat.zero_add, List.append_nil] at list

/-- The key of the entry list is a word. -/
theorem isWord_entriesKey : IsWord entriesKey.toList := by decide

/-- From the lines before the key of the entries on, the text is read to its end. -/
theorem carries_root (markup : doc.IsMarkup) {text : List Char}
    (stacked : Stacked ((doc.key.text ++ doc.tail.text)
      :: (doc.after.map Noise.text ++ doc.entries.flatMap (Entry.lines doc.indent))) [] text) :
    Carries 0 text [] (.blockMappingStart :: (doc.key.tokens ++ doc.listTokens)) textEnd := by
  obtain ⟨more, next, rfl, ends, below⟩ := stacked
  obtain ⟨middle, noise, entries⟩ := stacked_append.mp below
  have behind := (carries_entries markup entries).noise markup.after noise
  have apart := atSeparator_tail doc.tail ends
  rw [List.append_assoc]
  have solid : Solid 0 (doc.key.text ++ (doc.tail.text ++ more)) :=
    doc.key.solid isWord_entriesKey _
  refine Reads.carries (fun limit r before comes => ?_) solid
  obtain ⟨r₁, leads, stands⟩ := doc.key.exists_read markup.key isWord_entriesKey comes apart
    fun margin absent => nomatch absent
  obtain ⟨r₂, leads₂, there⟩ := behind.exists_read stands rfl
    (fun passes => passes_tail markup.tail ends passes _) (leads.short comes.short)
  refine ⟨r₂, leads.trans leads₂, ?_⟩
  simpa [Place.spot, openingAt] using there

/-- The whole text is read to its end. -/
theorem carries (markup : doc.IsMarkup) {text : List Char} (stacked : Stacked doc.lines [] text) :
    Carries 0 text []
      (doc.markTokens ++ .blockMappingStart :: (doc.key.tokens ++ doc.listTokens)) textEnd := by
  rw [lines, headLines, List.append_assoc, List.append_assoc] at stacked
  obtain ⟨middle, head, below⟩ := stacked_append.mp stacked
  refine Carries.noise ?_ markup.head head
  rw [markTokens]
  cases mark : doc.mark with
  | none =>
    rw [mark] at below
    exact carries_root markup below
  | some marked =>
    obtain ⟨tail, after⟩ := marked
    obtain ⟨tailMarkup, afterMarkup⟩ := markup.mark _ mark
    rw [mark, Option.map_some, Option.getD_some, List.cons_append] at below
    obtain ⟨more, next, rfl, ends, rest⟩ := below
    obtain ⟨later, noise, root⟩ := stacked_append.mp rest
    have behind := (carries_root markup root).noise afterMarkup noise
    refine Reads.carries (fun limit r before comes => ?_) (solid_dash 0 _)
    obtain ⟨r₁, leads, stands⟩ :=
      Yaml.Token.Reader.Comes.exists_documentStart comes (atSeparator_tail tail ends)
    obtain ⟨r₂, leads₂, there⟩ := behind.exists_read stands rfl
      (fun passes => passes_tail tailMarkup ends passes _) (leads.short comes.short)
    refine ⟨r₂, leads.trans leads₂, ?_⟩
    rw [List.append_assoc] at there
    exact there

/-- The tokens of the text are those of the document. -/
theorem ofText?_text (markup : doc.IsMarkup) : Token.ofText? doc.text = some doc.tokens := by
  have allowed : doc.text.all Yaml.isAllowed = true := List.all_eq_true.mpr markup.allowed
  have carries := carries markup (stacked_written doc.ends doc.closed doc.lines)
  have start : Stands { cursor := { rest := doc.text } } ⟨doc.text, 0, true, [], []⟩ :=
    { block := rfl
      text := rfl
      column := rfl
      keyAllowed := rfl
      margins := rfl
      tokens := rfl
      count := rfl
      idle := fun place absent => nomatch absent }
  have short : doc.text.length < doc.text.length + 2 := by omega
  obtain ⟨r, ⟨n, less, leads⟩, there⟩ := carries.exists_read start rfl (fun passes => passes) short
  obtain ⟨steps, enough⟩ : ∃ steps, doc.text.length + 2 = steps + 1 + n :=
    ⟨doc.text.length + 1 - n, by simp only at less; omega⟩
  have positive : ∀ margin ∈ [1], 0 < margin := by decide
  have ending := there.run? rfl positive steps
  have run := leads (steps + 1)
  rw [← enough, ending] at run
  rw [Token.ofText?, if_pos allowed, run]
  simp [tokens, textEnd, Place.spot]

end Document

end CatalogAudit.Manifest.Layout
