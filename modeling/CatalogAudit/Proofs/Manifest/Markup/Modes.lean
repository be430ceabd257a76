import CatalogAudit.Proofs.Manifest.Markup.FlowList
import CatalogAudit.Proofs.Manifest.Markup.Lines

/-!
# Modes as tokens

The modes of an entry are a list in brackets, or one dash below the other. Dashes deeper than their
key open a list that ends by itself; those at the column of the key do not.
-/

namespace CatalogAudit.Manifest.Layout

open Yaml (Solid Token)
open Yaml.Token.Reader (Comes Leads Stands openedAt openingAt)

variable {column : Nat} {text rest : List Char} {margins : List Nat} {piece : List Token}
  {goal : Place}

/-- What follows a gap is set apart from what comes before. -/
theorem atSeparator_gap {gap : Gap} (filled : gap.text ≠ []) (rest : List Char) :
    Yaml.atSeparator (gap.text ++ rest) = true := by
  obtain ⟨x, others, split⟩ := List.exists_cons_of_ne_nil filled
  have blank := gap.blank x (by rw [split]; exact List.mem_cons_self)
  rw [split, List.cons_append, Yaml.atSeparator, Yaml.isSeparator, blank]
  rfl

namespace ModeLine

/-- The tokens of a mode on a line of its own. -/
def tokens (line : ModeLine) : List Token := [.blockEntry, line.scalar.token]

/-- A mode on a line of its own is read, and opens the list if it is the first. -/
theorem opens (line : ModeLine) (markup : line.IsMarkup) :
    Opens .blockSequenceStart column (line.lines column) line.tokens := by
  intro margins rest text piece goal reached stacked behind
  obtain ⟨more, next, rfl, ends, noise⟩ := stacked
  obtain ⟨spaced, scalarMarkup, tailMarkup, noiseMarkup⟩ := markup
  obtain ⟨first, at', small, passes, reads⟩ := behind.noise noiseMarkup noise
  have split : spaces column ++ line.text ++ more
      = spaces column
        ++ '-' :: (line.gap.text ++ (line.scalar.text ++ (line.tail.text ++ more))) := by
    simp [ModeLine.text]
  have head := Yaml.Token.Reader.headD_openedAt reached
  have onLine : Reads ⟨'-' :: (line.gap.text ++ (line.scalar.text ++ (line.tail.text ++ more))),
      column, margins⟩
      (openingAt .blockSequenceStart column margins ++ .blockEntry :: line.scalar.token :: piece)
      goal := by
    refine reads_dash (atSeparator_gap line.apart _) reached fun limit r before stands short => ?_
    have inLine : 0 < column + 1 + line.gap.text.length := by omega
    have deep : (openedAt column margins).headD 0 ≤ column + 1 + line.gap.text.length := by omega
    have left : at' < (openedAt column margins).headD 0 := by omega
    have solid := line.scalar.solid scalarMarkup inLine (line.tail.text ++ more)
    have comes := stands.comes_gap rfl (fun x mem => .inl (spaced x mem)) solid short
    obtain ⟨r₁, leads, comes₁⟩ :=
      line.scalar.exists_read scalarMarkup tailMarkup comes deep inLine ends passes left
    obtain ⟨r₂, leads₂, there⟩ := reads comes₁
    refine ⟨r₂, leads.trans leads₂, ?_⟩
    rwa [List.append_assoc] at there
  rw [split]
  exact Reads.carries onLine (solid_dash column _)

end ModeLine

namespace Modes

/-- The tokens of the modes of an entry. -/
def tokens : Modes → List Token
  | inline _ _ items _ _ => .flowSequenceStart :: items.tokens
  | below _ _ extra first others => blockList extra ((first :: others).flatMap ModeLine.tokens)

/-- The lines of modes below their key are read. -/
theorem carries_below {tail : Tail} {after : List Noise} {extra : Nat} {first : ModeLine}
    {others : List ModeLine} (markup : (below tail after extra first others).IsMarkup)
    (open' : margins.headD 0 = column + 1)
    (stacked : Stacked ((below tail after extra first others).belowKey column) rest text)
    (behind : Carries column rest margins piece goal) :
    Carries (column + extra) text margins ((below tail after extra first others).tokens ++ piece)
      goal := by
  obtain ⟨-, noiseMarkup, linesMarkup⟩ := markup
  rw [belowKey, stacked_append] at stacked
  obtain ⟨middle, noise, lines⟩ := stacked
  have each : ∀ line ∈ first :: others, Opens .blockSequenceStart (column + extra)
      (line.lines (column + extra)) line.tokens := fun line mem => line.opens (linesMarkup line mem)
  have list := carries_list (List.cons_ne_nil first others) each open' lines behind
  exact list.noise noiseMarkup noise

/-- What stands behind the key of modes is set apart from it. -/
theorem apart (modes : Modes) {more next : List Char} (ends : Ends more next) :
    Yaml.atSeparator (modes.text ++ more) = true := by
  cases modes with
  | inline gap apart items tail after =>
    rw [text, List.append_assoc, List.append_assoc]
    exact atSeparator_gap apart _
  | below tail after extra first others => exact atSeparator_tail tail ends

/-- Modes are read from the colon of their key on. -/
theorem exists_read (modes : Modes) (markup : modes.IsMarkup) {limit at' : Nat}
    {r : Yaml.Token.Reader} {before : List Token} {more next : List Char}
    (stands : Stands r ⟨modes.text ++ more, at', false, margins, before⟩)
    (short : r.cursor.rest.length < limit) (open' : margins.headD 0 = column + 1)
    (deep : column < at') (ends : Ends more next)
    (stacked : Stacked (modes.belowKey column) rest next)
    (behind : Carries column rest margins piece goal) :
    ∃ r', Leads limit r r' ∧ Comes limit r' (goal.spot (before ++ (modes.tokens ++ piece))) := by
  cases modes with
  | inline gap apart items tail after =>
    obtain ⟨itemsMarkup, tailMarkup, noiseMarkup⟩ := markup
    have split : (inline gap apart items tail after).text ++ more
        = gap.text ++ ('[' :: (items.text ++ (tail.text ++ more))) := by simp [text]
    have solid : Solid (at' + gap.text.length) ('[' :: (items.text ++ (tail.text ++ more))) :=
      Yaml.solid_cons (by decide) (by decide) (fun _ => by decide) _
    have blank : ∀ x ∈ gap.text, x = ' ' ∨ false = false ∧ x = '\t' := by
      intro x mem
      have isGap := gap.blank x mem
      rw [Text.isGap, Bool.or_eq_true, beq_iff_eq, beq_iff_eq] at isGap
      exact isGap.imp_right fun tab => ⟨rfl, tab⟩
    have reached : ∀ margin ∈ margins.head?, margin ≤ at' + gap.text.length + 1 := by
      intro margin head
      rw [List.headD_eq_head?_getD, head] at open'
      simp only [Option.getD_some] at open'
      omega
    have comes := stands.comes_gap split blank solid short
    obtain ⟨r₁, leads, inside⟩ := comes.exists_openBracket rfl rfl reached
    obtain ⟨r₂, column', leads₂, stands₂⟩ :=
      items.exists_read itemsMarkup inside (leads.short short)
    have leads' := leads.trans leads₂
    have carries := behind.noise noiseMarkup stacked
    obtain ⟨r₃, leads₃, there⟩ := carries.exists_read stands₂ rfl
      (fun passes => passes_tail tailMarkup ends passes _) (leads'.short short)
    refine ⟨r₃, leads'.trans leads₃, ?_⟩
    simpa [tokens] using there
  | below tail after extra first others =>
    have carries := carries_below markup open' stacked behind
    exact carries.exists_read stands rfl (fun passes => passes_tail markup.1 ends passes _) short

end Modes

end CatalogAudit.Manifest.Layout
