import CatalogAudit.Proofs.Manifest.Markup.Scalar

/-!
# Lists in brackets as tokens

The reader of markup cuts off one item after the other, and the comma or the bracket behind each.
-/

namespace CatalogAudit.Manifest.Layout

open Yaml (Token)
open Yaml.Token.Reader (InBrackets Leads Stands)

/-- The tokens from behind an opening bracket on. -/
def FlowList.tokens : FlowList → List Token
  | close _ => [.flowSequenceEnd]
  | last item => [item.scalar.token, .flowSequenceEnd]
  | more item rest => item.scalar.token :: .flowEntry :: rest.tokens

variable {r : Yaml.Token.Reader} {limit : Nat} {margins : List Nat} {before : List Token}
  {rest : List Char}

/-- An item is read up to the comma or the bracket behind it. -/
theorem FlowItem.exists_read (item : FlowItem) (markup : item.IsMarkup) {mark : Char}
    (indicates : Yaml.Plain.isFlowIndicator mark = true)
    (inside : InBrackets r margins before (item.text ++ mark :: rest))
    (short : r.cursor.rest.length < limit) :
    ∃ r' gap, Leads limit r r' ∧ (∀ x ∈ gap, Text.isGap x = true) ∧
      InBrackets r' margins (before ++ [item.scalar.token]) (gap ++ mark :: rest) := by
  obtain ⟨gap, scalar, safe, gap'⟩ := item
  have text : FlowItem.text ⟨gap, scalar, safe, gap'⟩ ++ mark :: rest
      = gap.text ++ (scalar.text ++ (gap'.text ++ mark :: rest)) := by
    simp [FlowItem.text]
  rw [text] at inside
  obtain ⟨unbroken, marks⟩ := markup
  cases scalar with
  | quoted q =>
    have after : Text.startsWith (· == '\'') (gap'.text ++ mark :: rest) = false := by
      cases text : gap'.text with
      | nil =>
        simp only [List.nil_append, Text.startsWith, beq_eq_false_iff_ne]
        rintro rfl
        exact absurd indicates (by decide)
      | cons x others =>
        have blank := gap'.blank x (by rw [text]; exact List.mem_cons_self)
        simp only [List.cons_append, Text.startsWith, beq_eq_false_iff_ne]
        rintro rfl
        exact absurd blank (by decide)
    obtain ⟨r', leads, there⟩ := inside.exists_quoted q gap.blank unbroken after short
    exact ⟨r', gap'.text, leads, gap'.blank, there⟩
  | plain p =>
    have isPlain := p.isPlain true unbroken (fun _ => marks.2) fun _ => safe
    have begins := p.mayBegin true unbroken (fun _ => marks.1) (gap'.text ++ mark :: rest)
    obtain ⟨r', leads, there⟩ :=
      inside.exists_plain gap.blank gap'.blank isPlain begins indicates short
    exact ⟨r', [], leads, fun x absent => absurd absent List.not_mem_nil, there⟩

/-- A list is read up to its closing bracket. -/
theorem FlowList.exists_read (items : FlowList) (markup : items.IsMarkup)
    (inside : InBrackets r margins before (items.text ++ rest))
    (short : r.cursor.rest.length < limit) :
    ∃ r' column, Leads limit r r' ∧
      Stands r' ⟨rest, column, false, margins, before ++ items.tokens⟩ := by
  induction items generalizing r before with
  | close gap =>
    rw [FlowList.text, List.append_assoc] at inside
    exact inside.exists_closeBracket gap.blank short
  | last item =>
    rw [FlowList.text, List.append_assoc] at inside
    obtain ⟨r₁, gap, leads, blank, there⟩ := item.exists_read markup (by decide) inside short
    obtain ⟨r₂, column, leads₂, stands⟩ := there.exists_closeBracket blank (leads.short short)
    rw [List.append_assoc] at stands
    exact ⟨r₂, column, leads.trans leads₂, stands⟩
  | more item others ih =>
    rw [FlowList.text, List.append_assoc, List.cons_append] at inside
    obtain ⟨r₁, gap, leads, blank, there⟩ := item.exists_read markup.1 (by decide) inside short
    obtain ⟨r₂, leads₂, behind⟩ := there.exists_comma blank (leads.short short)
    have leads' := leads.trans leads₂
    obtain ⟨r₃, column, leads₃, stands⟩ := ih markup.2 behind (leads'.short short)
    rw [List.append_assoc, List.append_assoc] at stands
    exact ⟨r₃, column, leads'.trans leads₃, stands⟩

end CatalogAudit.Manifest.Layout
