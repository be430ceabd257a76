import CatalogAudit.Proofs.Report.Decoding
import CatalogAudit.Proofs.Report.Findings

/-!
# The verdict in a report

A report passes when nothing is missing or extra and, under the strict policy, nothing is duplicate.
Its text tells of the verdict: the JSON text by a member, the summary by its last line. The summary
closes that line, and the JSON text does not close its own.
-/

namespace CatalogAudit.Report

/-! ## Passing -/

/-- No token is missing or extra, and under the strict policy none is duplicate. -/
def Passes (report : Report) (strict : Bool) : Prop :=
  (∀ token, token ∉ report.missing.names) ∧ (∀ token, token ∉ report.extra.names) ∧
    (strict = true → ∀ token, ¬ (report.duplicates.get? token).isSome = true)

/-- The verdict of a configuration is that a report passes just when it does under its policy. -/
theorem ofReport_eq_pass_iff {report : Report} {config : Config} :
    Decision.ofReport report (.ofConfig config) = .pass ↔
      report.Passes config.strictDuplicates := by
  unfold Policy.ofConfig Passes
  rw [← and_assoc, ← hasMismatch_iff, ← hasDuplicates_iff]
  cases config.strictDuplicates with
  | false =>
    rw [if_neg Bool.false_ne_true, ofReport_lenient_eq_pass_iff]
    exact ⟨fun alike => ⟨alike, nofun⟩, And.left⟩
  | true =>
    rw [if_pos rfl, ofReport_strict_eq_pass_iff]
    exact ⟨fun passes => ⟨passes.1, fun _ => passes.2⟩, fun passes => ⟨passes.1, passes.2 rfl⟩⟩

/-! ## The JSON text -/

/-- A text is JSON whose member for the verdict says so. -/
def TellsStatus (text : String) (decision : Decision) : Prop :=
  ∃ value, Json.ofText? text.toList = some value ∧ status? value = some decision

/-- The JSON text tells one verdict, the one that it was given. -/
theorem tellsStatus_renderJson_iff {report : Report} {decision told : Decision} :
    TellsStatus (report.renderJson decision) told ↔ told = decision := by
  constructor
  · rintro ⟨value, read, status⟩
    rw [ofText?_renderJson] at read
    rw [← Option.some.inj read, status?_toJson] at status
    exact (Option.some.inj status).symm
  · rintro rfl
    exact ⟨_, ofText?_renderJson report told, status?_toJson report told⟩

/-- An object ends with its closing brace. -/
theorem getLast?_print_object (members : List (Option String × Json)) :
    (Json.object members).print.getLast? = some '\x7d' := by
  unfold Json.print
  cases members with
  | nil => rfl
  | cons member members =>
    rw [Json.printAt, ← List.cons_append, List.getLast?_concat]

/-- The JSON text ends with the brace of its object. -/
theorem getLast?_renderJson (report : Report) (decision : Decision) :
    (report.renderJson decision).toList.getLast? = some '\x7d' := by
  rw [renderJson, String.toList_ofList]
  exact getLast?_print_object _

/-! ## The summary -/

/-- The last line of a text is closed. -/
def EndsLine (text : String) : Prop := text.toList.getLast? = some '\n'

/-- A text ends with a line that is put behind it. -/
theorem EndsLine.append {text line : String} (closed : EndsLine line) :
    EndsLine (text ++ line) := by
  unfold EndsLine at closed ⊢
  rw [String.toList_append, List.getLast?_append, closed, Option.some_or]

/-- Lines one behind the other end with a line. -/
theorem endsLine_lines {items : List String} (filled : items ≠ []) :
    EndsLine (String.join (items.map fun item => item ++ "\n")) := by
  obtain ⟨front, last, rfl⟩ := (List.eq_nil_or_concat' items).resolve_left filled
  unfold EndsLine
  rw [String.toList_join, List.map_append, List.flatMap_append, List.getLast?_append]
  have closed : EndsLine (last ++ "\n") := EndsLine.append rfl
  rw [List.map_singleton, List.flatMap_singleton, closed, Option.some_or]

/-- A section is nothing or ends with a closed line. -/
theorem EndsLine.append_section {text : String} (closed : EndsLine text) (title : String)
    (items : List String) : EndsLine (text ++ renderSection title items) := by
  unfold renderSection
  split
  · rwa [String.append_empty]
  · rename_i filled
    rw [List.isEmpty_iff] at filled
    exact (endsLine_lines filled).append.append

/-- The last line of a text tells of a verdict. -/
def LastLineTells (text : String) (decision : Decision) : Prop :=
  ∃ above, EndsLine above ∧ text = above ++ verdictLine decision

/-- The line of the verdict is a line. -/
theorem endsLine_verdictLine (decision : Decision) : EndsLine (verdictLine decision) := by
  cases decision <;> rfl

/-- The last line of the text tells the verdict. -/
theorem lastLineTells_renderText (report : Report) (decision : Decision) :
    LastLineTells (report.renderText decision) decision := by
  have head : EndsLine (headLine report.totals) := EndsLine.append rfl
  refine ⟨_, ?_, rfl⟩
  exact head.append_section _ _ |>.append_section _ _ |>.append_section _ _ |>.append_section _ _
    |>.append_section _ _ |>.append_section _ _

/-- The line of the verdict is equally long for every verdict. -/
theorem length_verdictLine (decision : Decision) : (verdictLine decision).toList.length = 21 := by
  cases decision <;> rfl

/-- Different verdicts have different lines. -/
theorem verdictLine_injective {decision told : Decision}
    (same : verdictLine decision = verdictLine told) : decision = told := by
  cases decision <;> cases told
  case pass.pass | fail.fail => rfl
  case pass.fail | fail.pass => exact absurd same (by decide)

/-- The lines for the two verdicts are different and equally long, so the last line tells of one
verdict only. -/
theorem LastLineTells.unique {text : String} {decision told : Decision}
    (tells : LastLineTells text decision) (tells' : LastLineTells text told) : told = decision := by
  obtain ⟨above, -, rfl⟩ := tells
  obtain ⟨above', -, same⟩ := tells'
  have texts := congrArg String.toList same
  rw [String.toList_append, String.toList_append] at texts
  have length := (length_verdictLine decision).trans (length_verdictLine told).symm
  exact (verdictLine_injective (String.toList_inj.mp (List.append_inj' texts length).2)).symm

/-- The text tells one verdict in its last line, the one that it was given. -/
theorem lastLineTells_renderText_iff {report : Report} {decision told : Decision} :
    LastLineTells (report.renderText decision) told ↔ told = decision := by
  constructor
  · exact (lastLineTells_renderText report decision).unique
  · rintro rfl
    exact lastLineTells_renderText report told

/-- The summary closes its last line. -/
theorem endsLine_renderText (report : Report) (decision : Decision) :
    EndsLine (report.renderText decision) := (endsLine_verdictLine decision).append

end CatalogAudit.Report
