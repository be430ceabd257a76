import CatalogAudit.Proofs.Manifest.Layout.Markup
import CatalogAudit.Proofs.Yaml.Token.Flow

/-!
# Lines of no meaning in markup

How the lines of a layout follow each other in the text, and that the reader of markup passes what
stands behind a value and the lines that say nothing.
-/

namespace CatalogAudit.Manifest.Layout

open Yaml (Passes Solid)

/-- A line ends, with a line end or with the text. -/
inductive Ends : List Char → List Char → Prop
  /-- A line end. -/
  | lineEnd (lineEnd : Text.LineEnd) (next : List Char) : Ends (lineEnd.text ++ next) next
  /-- The end of the text. -/
  | textEnd : Ends [] []

/-- A text begins with lines, and `rest` follows them. -/
def Stacked : (lines : List (List Char)) → (rest text : List Char) → Prop
  | [], rest, text => text = rest
  | line :: lines, rest, text =>
    ∃ more next, text = line ++ more ∧ Ends more next ∧ Stacked lines rest next

/-- Lines on top of others stand in front of their text. -/
theorem stacked_append {lines others : List (List Char)} {rest text : List Char} :
    Stacked (lines ++ others) rest text ↔
      ∃ middle, Stacked lines middle text ∧ Stacked others rest middle := by
  induction lines generalizing text with
  | nil => simp [Stacked]
  | cons line lines ih =>
    simp only [List.cons_append, Stacked, ih]
    constructor
    · rintro ⟨more, next, split, ends, middle, first, second⟩
      exact ⟨middle, ⟨more, next, split, ends, first⟩, second⟩
    · rintro ⟨middle, ⟨more, next, split, ends, first⟩, second⟩
      exact ⟨more, next, split, ends, middle, first, second⟩

/-- Written lines stand one after the other. -/
theorem stacked_written (ends : Nat → Text.LineEnd) (closed : Bool) (lines : List (List Char)) :
    Stacked lines [] (Text.written ends closed lines) := by
  induction lines generalizing ends with
  | nil => rfl
  | cons line lines ih =>
    cases lines with
    | nil =>
      cases closed with
      | true => exact ⟨(ends 0).text ++ [], [], by simp [Text.written], .lineEnd (ends 0) [], rfl⟩
      | false => exact ⟨[], [], by simp [Text.written], .textEnd, rfl⟩
    | cons next lines =>
      refine ⟨_, _, ?_, .lineEnd (ends 0) _, ih fun n => ends (n + 1)⟩
      rw [Text.written, List.append_assoc]
      simp

variable {here : List Char} {target : Nat}

/-- What ends a line is passed with it. -/
theorem passes_ends {more next : List Char} (ends : Ends more next)
    (passes : Passes here target false 0 next) (behind : Bool) (column : Nat) :
    Passes here target behind column more := by
  cases ends with
  | lineEnd lineEnd next => exact .lineEnd lineEnd passes
  | textEnd => exact .textEnd (passes.eq_nil rfl)

/-- What ends a line is a line end or the end of the text. -/
theorem atLineEnd_ends {more next : List Char} (ends : Ends more next) :
    Yaml.atLineEnd more = true := by
  cases ends with
  | lineEnd lineEnd next => cases lineEnd <;> rfl
  | textEnd => rfl

/-- Spaces are passed. -/
theorem passes_spaces {behind : Bool} {column : Nat} {rest : List Char} (n : Nat)
    (passes : Passes here target behind (column + n) rest) :
    Passes here target behind column (spaces n ++ rest) := by
  induction n generalizing column with
  | zero => exact passes
  | succ n ih =>
    have further : column + 1 + n = column + (n + 1) := by omega
    exact .space (ih (further ▸ passes))

/-- Blanks are passed, and tabs behind a token. -/
theorem passes_blanks {blanks : List Char} {behind : Bool}
    (blank : ∀ c ∈ blanks, c = ' ' ∨ behind = true ∧ c = '\t') {rest : List Char}
    (passes : ∀ column, Passes here target behind column rest) (column : Nat) :
    Passes here target behind column (blanks ++ rest) := by
  induction blanks generalizing column with
  | nil => exact passes column
  | cons c blanks ih =>
    rw [List.forall_mem_cons] at blank
    have later := ih blank.2 (column + 1)
    rcases blank.1 with rfl | ⟨rfl, rfl⟩
    · exact .space later
    · exact .tab later

/-- A gap behind a token is passed. -/
theorem passes_gap (gap : Gap) {rest : List Char}
    (passes : ∀ column, Passes here target true column rest) (column : Nat) :
    Passes here target true column (gap.text ++ rest) := by
  refine passes_blanks ?_ passes column
  intro c mem
  have isGap := gap.blank c mem
  rw [Text.isGap, Bool.or_eq_true, beq_iff_eq, beq_iff_eq] at isGap
  exact isGap.imp_right fun tab => ⟨rfl, tab⟩

/-- A gap without tabs is passed. -/
theorem passes_spaced {gap : Gap} (spaced : gap.Spaced) {behind : Bool} {rest : List Char}
    (passes : ∀ column, Passes here target behind column rest) (column : Nat) :
    Passes here target behind column (gap.text ++ rest) :=
  passes_blanks (fun c mem => .inl (spaced c mem)) passes column

/-- A comment is passed to the end of its line. -/
theorem passes_comment {words more next : List Char} (unbroken : Unbroken words)
    (ends : Ends more next) (passes : Passes here target false 0 next) (behind : Bool)
    (column : Nat) : Passes here target behind column ('#' :: (words ++ more)) :=
  .comment words unbroken (atLineEnd_ends ends) (passes_ends ends passes behind _)

/-- What follows a value on its line is passed. -/
theorem passes_tail {tail : Tail} (markup : tail.IsMarkup) {more next : List Char}
    (ends : Ends more next) (passes : Passes here target false 0 next) (column : Nat) :
    Passes here target true column (tail.text ++ more) := by
  cases tail with
  | blank gap =>
    exact passes_gap gap (passes_ends ends passes true) column
  | comment gap apart words oneLine =>
    rw [Tail.text, List.append_assoc]
    exact passes_gap gap (passes_comment markup ends passes true) column

/-- A line that says nothing is passed. -/
theorem passes_noise_line {noise : Noise} (markup : noise.IsMarkup) {more next : List Char}
    (ends : Ends more next) (passes : Passes here target false 0 next) :
    Passes here target false 0 (noise.text ++ more) := by
  cases noise with
  | blank gap => exact passes_spaced markup (passes_ends ends passes false) 0
  | comment indent words oneLine =>
    rw [Noise.text, List.append_assoc]
    exact passes_spaces indent (passes_comment markup ends passes false _)

/-- Lines that say nothing are passed. -/
theorem passes_noise {noise : List Noise} (markup : ∀ one ∈ noise, one.IsMarkup)
    {rest text : List Char} (stacked : Stacked (noise.map Noise.text) rest text)
    (passes : Passes here target false 0 rest) : Passes here target false 0 text := by
  induction noise generalizing text with
  | nil =>
    obtain rfl : text = rest := stacked
    exact passes
  | cons one noise ih =>
    rw [List.forall_mem_cons] at markup
    obtain ⟨more, next, rfl, ends, later⟩ := stacked
    exact passes_noise_line markup.1 ends (ih markup.2 later)

end CatalogAudit.Manifest.Layout
