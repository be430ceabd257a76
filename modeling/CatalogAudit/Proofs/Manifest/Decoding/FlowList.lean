import CatalogAudit.Proofs.Manifest.Decoding.Passes
import CatalogAudit.Proofs.Manifest.Decoding.Scalar
import CatalogAudit.Proofs.Manifest.Layout.Document

/-!
# Lists in brackets read as they were written

Items are read one by one up to the closing bracket. A plain item ends before the comma or bracket
that follows it, and a quoted one at its quote; either way the reader goes on at that comma or
bracket.
-/

namespace CatalogAudit.Manifest.Line

open Layout

/-- Whether the character stands between two items or after the last. -/
def isStop (c : Char) : Prop := c = ',' ∨ c = ']'

/-- What stops an item ends it. -/
theorem endsItem_of_isStop {c : Char} (stop : isStop c) : endsItem c = true := by
  cases stop with
  | inl comma => rw [comma]; decide
  | inr bracket => rw [bracket]; decide

/-- What stops an item is not blank. -/
theorem isBlank_of_isStop {c : Char} (stop : isStop c) : Text.isBlank c = false := by
  cases stop with
  | inl comma => rw [comma]; decide
  | inr bracket => rw [bracket]; decide

/-- Other characters do not end an item. -/
theorem endsItem_eq_false {c : Char} (h : isFlowMark c = false) : endsItem c = false := by
  simp only [isFlowMark, List.contains_eq_mem, decide_eq_false_iff_not] at h
  simp only [endsItem]
  simp_all

/-- A blank does not end an item. -/
theorem endsItem_of_isBlank {c : Char} (blank : Text.isBlank c = true) : endsItem c = false := by
  rw [← Bool.not_eq_true]
  intro ends
  simp only [endsItem, Bool.or_eq_true, beq_iff_eq] at ends
  rcases ends with (((rfl | rfl) | rfl) | rfl) | rfl <;> exact absurd blank (by decide)

/-- Where a comment would begin, a space stands right before a hash sign. -/
theorem infix_of_hasComment {text : List Char} (h : hasComment text = true) :
    [' ', '#'] <:+: text := by
  induction text with
  | nil => simp [hasComment] at h
  | cons c text ih =>
    rw [hasComment, Bool.or_eq_true] at h
    cases h with
    | inl here =>
      rw [Bool.and_eq_true, beq_iff_eq] at here
      cases text with
      | nil => simp [Text.startsWith] at here
      | cons d text =>
        rw [Text.startsWith_cons, beq_iff_eq] at here
        refine ⟨[], text, ?_⟩
        rw [here.1, here.2]
        rfl
    | inr later => exact (ih later).trans (List.suffix_cons c text).isInfix

/-- A plain item is read as itself, up to what separates it from the next. -/
theorem flowItem_plain {p : Plain} (safe : ∀ c ∈ p.text, isFlowMark c = false) (gap : Gap)
    {stop : Char} (isStop : isStop stop) (rest : List Char) :
    flowItem (p.text ++ (p.after ++ (gap.text ++ stop :: rest)))
      = .ok (some (String.ofList p.text), stop :: rest) := by
  have unquoted := startsWith_bare p.toBare (fun _ => isReserved_of_isQuote)
    (p.after ++ (gap.text ++ stop :: rest))
  have unbracketed := startsWith_bare p.toBare (fun _ => isReserved_of_opens)
    (p.after ++ (gap.text ++ stop :: rest))
  have whole : p.text ++ (p.after ++ (gap.text ++ stop :: rest))
      = p.text ++ p.after ++ gap.text ++ stop :: rest := by simp
  have inside : ∀ c ∈ p.text ++ p.after ++ gap.text, (!endsItem c) = true := by
    intro c mem
    rw [Bool.not_eq_true']
    rw [List.mem_append, List.mem_append] at mem
    rcases mem with (inText | inAfter) | inGap
    · exact endsItem_eq_false (safe c inText)
    · exact endsItem_of_isBlank (p.isBlank_after c inAfter)
    · exact endsItem_of_isBlank (isBlank_text_gap gap c inGap)
  have outside : ∀ c ∈ (stop :: rest).head?, (!endsItem c) = false := by
    intro c first
    rw [← Option.mem_some.mp first, endsItem_of_isStop isStop]
    rfl
  have closed : Text.startsWith (fun c => c == '[' || c == '{' || c == '}') (stop :: rest)
      = false := by
    cases isStop with
    | inl comma => rw [comma]; rfl
    | inr bracket => rw [bracket]; rfl
  have trimmed : Text.trimEnd (p.text ++ p.after ++ gap.text) = p.text := by
    rw [Text.trimEnd_append (isBlank_text_gap gap), Text.trimEnd_append (p.isBlank_after),
      Text.trimEnd_eq_self p.ends]
  have noComment : hasComment p.text = false := by
    rw [← Bool.not_eq_true]
    intro comment
    exact p.noComment ' ' (by decide) (infix_of_hasComment comment)
  have noKey : hasColonBefore (· == ' ') p.text = false := by
    rw [← Bool.not_eq_true]
    intro colon
    obtain ⟨c, space, pair⟩ := exists_infix_of_hasColonBefore colon
    rw [beq_iff_eq] at space
    rw [space] at pair
    exact p.noKey ' ' (by decide) pair
  rw [flowItem, unquoted, unbracketed, whole, Text.takeWhile_run inside outside,
    Text.dropWhile_run inside outside, trimmed]
  simp [closed, p.filled, noComment, noKey, endsIn_colon_bare, plainValue_plain]

/-- An item is read as it was written, and the reader goes on at what separates it from the
next. -/
theorem exists_flowItem_eq (item : FlowItem) {stop : Char} (isStop : isStop stop)
    (rest : List Char) :
    ∃ remaining, flowItem (item.scalar.core ++ (item.after.text ++ stop :: rest))
        = .ok (some (String.ofList item.scalar.value), remaining) ∧
      Text.trimStart remaining = stop :: rest := by
  obtain ⟨before, scalar, safe, after⟩ := item
  have solid : Text.trimStart (stop :: rest) = stop :: rest :=
    Text.trimStart_cons (isBlank_of_isStop isStop) rest
  have goesOn : Text.trimStart (after.text ++ stop :: rest) = stop :: rest :=
    Text.trimStart_append_cons (isBlank_text_gap after) (isBlank_of_isStop isStop) rest
  cases scalar with
  | plain p =>
    have read := flowItem_plain safe after isStop rest
    rw [← List.append_assoc] at read
    exact ⟨stop :: rest, read, solid⟩
  | quoted q =>
    refine ⟨after.text ++ stop :: rest, ?_, goesOn⟩
    have noQuote : Text.startsWith (· == '\'') (after.text ++ stop :: rest) = false := by
      apply startsWith_quote_gap
      cases isStop with
      | inl comma => rw [comma]; rfl
      | inr bracket => rw [bracket]; rfl
    have noColon : (stop == ':') = false := by
      cases isStop with
      | inl comma => rw [comma]; rfl
      | inr bracket => rw [bracket]; rfl
    have read := readQuoted_text q noQuote
    rw [Scalar.core, flowItem, startsWith_isQuote_quoted, if_pos rfl, read]
    simp [goesOn, Text.startsWith_cons, noColon, Scalar.value]

/-- The reader stops at a closing bracket. -/
theorem flowItems_close {text : List Char} {tail : Tail}
    (start : Text.trimStart text = ']' :: tail.text) (items : List (Option String)) :
    flowItems items text = .ok items.reverse := by
  have ended : ((Text.trimStart tail.text).isEmpty ||
      Text.startsWith (· == '#') (Text.trimStart tail.text)) = true := by
    obtain empty | ⟨words, comment⟩ := trimStart_tail tail
    · rw [empty]
      rfl
    · rw [comment]
      rfl
  rw [flowItems_eq_pass, pass_close start, if_pos ended]

/-- An item is put to the items before it, and the reader goes on behind it. -/
theorem flowItems_item {text remaining : List Char} {item : Option String}
    (noClose : ∀ rest, Text.trimStart text ≠ ']' :: rest)
    (taken : flowItem (Text.trimStart text) = .ok (item, remaining))
    (items : List (Option String)) :
    flowItems items text =
      match Text.trimStart remaining with
      | ',' :: after => flowItems (item :: items) after
      | ']' :: after => flowItems (item :: items) (']' :: after)
      | _ => .error .unclosedList := by
  rw [flowItems_eq_pass, pass_item noClose taken]
  cases Text.trimStart remaining with
  | nil => rfl
  | cons c after =>
    by_cases comma : c = ','
    · rw [comma]
      rfl
    · by_cases close : c = ']'
      · rw [close]
        rfl
      · split <;> simp_all

/-- An item that was written is put to the items before it. -/
theorem flowItems_append (item : FlowItem) {stop : Char} (isStop : isStop stop)
    (rest : List Char) (items : List (Option String)) :
    flowItems items (item.text ++ stop :: rest) =
      flowItems (some (String.ofList item.scalar.value) :: items)
        (if stop = ',' then rest else stop :: rest) := by
  have start : Text.trimStart (item.text ++ stop :: rest)
      = item.scalar.core ++ (item.after.text ++ stop :: rest) := by
    rw [FlowItem.text, List.append_assoc, List.append_assoc,
      Text.trimStart_append (isBlank_text_gap item.before), trimStart_scalar]
  have noClose : ∀ after, Text.trimStart (item.text ++ stop :: rest) ≠ ']' :: after := by
    intro after
    obtain ⟨c, others, text, -, -, noBracket⟩ := exists_core item.scalar
    rw [start, text]
    intro bracket
    exact noBracket (List.cons.inj bracket).1
  obtain ⟨remaining, taken, next⟩ := exists_flowItem_eq item isStop rest
  rw [← start] at taken
  rw [flowItems_item noClose taken, next]
  cases isStop with
  | inl comma => rw [comma]; rfl
  | inr bracket => rw [bracket]; rfl

/-- Items are read up to the closing bracket, after those that were read before. -/
theorem flowItems_text (list : FlowList) (tail : Tail) (items : List (Option String)) :
    flowItems items (list.text ++ tail.text)
      = .ok (items.reverse ++ list.values.map fun value => some (String.ofList value)) := by
  have closing : Text.trimStart (']' :: tail.text) = ']' :: tail.text :=
    Text.trimStart_cons rfl tail.text
  induction list generalizing items with
  | close gap =>
    have start : Text.trimStart ((FlowList.close gap).text ++ tail.text) = ']' :: tail.text := by
      rw [FlowList.text, List.append_assoc, List.singleton_append,
        Text.trimStart_append (isBlank_text_gap gap), closing]
    rw [flowItems_close start]
    simp [FlowList.values]
  | last item =>
    rw [FlowList.text, List.append_assoc, List.singleton_append,
      flowItems_append item (.inr rfl), if_neg (by decide), flowItems_close closing]
    simp [FlowList.values]
  | more item rest ih =>
    rw [FlowList.text, List.append_assoc, List.cons_append,
      flowItems_append item (.inl rfl), if_pos rfl, ih]
    simp [FlowList.values]

/-- A list in brackets is read as its values. -/
theorem flowList_text (list : FlowList) (tail : Tail) :
    flowList ('[' :: (list.text ++ tail.text))
      = .ok (.list (list.values.map String.ofList)) := by
  have strings : (list.values.map fun value => some (String.ofList value)).mapM id
      = some (list.values.map String.ofList) := by
    induction list.values with
    | nil => rfl
    | cons value values ih => simp_all
  rw [flowList, flowItems_text]
  simp only [List.reverse_nil, List.nil_append, RawModes.ofItems, strings]

end CatalogAudit.Manifest.Line
