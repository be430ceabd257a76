import CatalogAudit.Manifest.Line.FlowList
import CatalogAudit.Proofs.Manifest.Decoding.Quoted

/-!
# Passes over a list in brackets

The reader of a list makes one pass for each item, and nothing bounds their number beforehand. The
measure is the text that is left: whatever the text is, each of the four kinds of items takes at
least one character off its front, so a pass that does not end the reading leaves a shorter text.
-/

namespace CatalogAudit.Manifest.Line

/-! ## What is left of a text -/

/-- What is left when at least one character has been taken off the front of a text. -/
def IsRest (rest text : List Char) : Prop := ∃ taken, taken ≠ [] ∧ text = taken ++ rest

/-- What is left is shorter. -/
theorem IsRest.length_lt {rest text : List Char} (isRest : IsRest rest text) :
    rest.length < text.length := by
  obtain ⟨taken, filled, rfl⟩ := isRest
  have some := List.length_pos_iff.mpr filled
  rw [List.length_append]
  omega

/-- Once a character is passed, any end of the text is a rest. -/
theorem isRest_cons (c : Char) {rest text : List Char} (suffix : rest <:+ text) :
    IsRest rest (c :: text) := by
  obtain ⟨front, rfl⟩ := suffix
  exact ⟨c :: front, List.cons_ne_nil _ _, rfl⟩

/-- Whatever else is cut off afterwards, a rest stays a rest. -/
theorem IsRest.of_suffix {rest middle text : List Char} (isRest : IsRest middle text)
    (suffix : rest <:+ middle) : IsRest rest text := by
  obtain ⟨taken, filled, rfl⟩ := isRest
  obtain ⟨more, rfl⟩ := suffix
  refine ⟨taken ++ more, List.append_ne_nil_of_left_ne_nil filled more, ?_⟩
  rw [List.append_assoc]

/-- Whatever else was cut off before, a rest is one of the whole text. -/
theorem IsRest.of_isSuffix {rest middle text : List Char} (isRest : IsRest rest middle)
    (suffix : middle <:+ text) : IsRest rest text := by
  obtain ⟨taken, filled, rfl⟩ := isRest
  obtain ⟨more, rfl⟩ := suffix
  refine ⟨more ++ taken, List.append_ne_nil_of_right_ne_nil more filled, ?_⟩
  rw [List.append_assoc]

/-- Trimming leaves an end of the text. -/
theorem trimStart_suffix (text : List Char) : Text.trimStart text <:+ text :=
  List.dropWhile_suffix _

/-! ## Items -/

/-- The four ways in which an item is taken off the front of a text. -/
inductive Takes (text : List Char) : Option String → List Char → Prop
  /-- A string between quotes. -/
  | quoted {value rest : List Char} (read : readQuoted text = .ok (value, rest)) :
      Takes text (some (String.ofList value)) rest
  /-- A key between quotes with its value, up to the next comma or closing bracket. -/
  | pair {value after : List Char} (read : readQuoted text = .ok (value, after)) :
      Takes text none (after.dropWhile fun c => !(c == ',' || c == ']'))
  /-- A list or mapping, up to the bracket that closes it. -/
  | nested {rest : List Char} (skipped : skipBrackets? 0 text = some rest) : Takes text none rest
  /-- A value without quotes, up to the next comma or bracket. -/
  | plain {item : Option String}
    (filled : Text.trimEnd (text.takeWhile fun c => !endsItem c) ≠ []) :
      Takes text item (text.dropWhile fun c => !endsItem c)

/-- An item is taken in one of the four ways. -/
theorem takes_of_flowItem {text rest : List Char} {item : Option String}
    (read : flowItem text = .ok (item, rest)) : Takes text item rest := by
  unfold flowItem at read
  split at read
  · split at read
    · cases read
    · rename_i value after quoted
      split at read
      · cases read
        exact .pair quoted
      · cases read
        exact .quoted quoted
  · split at read
    · split at read
      · rename_i skipped
        cases read
        exact .nested skipped
      · cases read
    · dsimp only at read
      split at read
      · cases read
      · split at read
        · cases read
        · rename_i filled
          have filled' := mt List.isEmpty_iff.mpr filled
          split at read
          · cases read
          · split at read
            · cases read
              exact .plain filled'
            · split at read
              · cases read
              · cases read
                exact .plain filled'
              · cases read
                exact .plain filled'

/-- What is read as a string in quotes begins with a quote. -/
theorem startsWith_isQuote_of_readQuoted {text value rest : List Char}
    (read : readQuoted text = .ok (value, rest)) : Text.startsWith isQuote text = true := by
  unfold readQuoted at read
  split at read
  · rfl
  · rfl
  · cases read

/-- A value between quotes leaves what stands behind its literal. -/
theorem isRest_of_readQuoted {text value rest : List Char}
    (read : readQuoted text = .ok (value, rest)) : IsRest rest text := by
  obtain ⟨literal, value', rest', rfl, quotes, ends⟩ | ⟨fault, broken⟩ :=
    quotes_or_broken (startsWith_isQuote_of_readQuoted read)
  · rw [readQuoted_of_quotes quotes ends] at read
    cases read
    exact ⟨literal, quotes.ne_nil, rfl⟩
  · rw [readQuoted_of_broken broken] at read
    cases read

/-- A collection is skipped up to a bracket, which is taken too. -/
theorem isRest_of_skipBrackets? {depth : Nat} {text rest : List Char}
    (skipped : skipBrackets? depth text = some rest) : IsRest rest text := by
  fun_induction skipBrackets? depth text with
  | case1 => cases skipped
  | case2 depth c text _ ih => exact (ih skipped).of_isSuffix (List.suffix_cons c text)
  | case3 depth c text _ _ _ =>
    cases skipped
    exact isRest_cons c List.suffix_rfl
  | case4 depth c text _ _ _ ih => exact (ih skipped).of_isSuffix (List.suffix_cons c text)
  | case5 depth c text _ _ ih => exact (ih skipped).of_isSuffix (List.suffix_cons c text)

/-- A value without quotes that is not empty is taken off. -/
theorem isRest_dropWhile {p : Char → Bool} {text : List Char}
    (filled : Text.trimEnd (text.takeWhile p) ≠ []) : IsRest (text.dropWhile p) text := by
  refine ⟨text.takeWhile p, ?_, List.takeWhile_append_dropWhile.symm⟩
  intro empty
  rw [empty] at filled
  exact filled rfl

/-- Every item takes at least one character and leaves the text behind it. -/
theorem Takes.isRest {text rest : List Char} {item : Option String}
    (takes : Takes text item rest) : IsRest rest text := by
  cases takes with
  | quoted read => exact isRest_of_readQuoted read
  | pair read => exact (isRest_of_readQuoted read).of_suffix (List.dropWhile_suffix _)
  | nested skipped => exact isRest_of_skipBrackets? skipped
  | plain filled => exact isRest_dropWhile filled

/-! ## Passes -/

/-- What a pass comes to. -/
inductive Pass
  /-- The reading ends. -/
  | ends (result : Except Fault (List (Option String)))
  /-- The reading goes on with the items so far, the last first, and with what is left. -/
  | goesOn (items : List (Option String)) (text : List Char)

/-- One pass: the closing bracket, or an item with the comma behind it. -/
def pass (items : List (Option String)) (text : List Char) : Pass :=
  match Text.trimStart text with
  | [] => .ends (.error .unclosedList)
  | ']' :: after =>
    let after := Text.trimStart after
    if after.isEmpty || Text.startsWith (· == '#') after then .ends (.ok items.reverse)
    else .ends (.error (.afterList after))
  | c :: rest =>
    match flowItem (c :: rest) with
    | .error fault => .ends (.error fault)
    | .ok (item, remaining) =>
      match Text.trimStart remaining with
      | ',' :: after => .goesOn (item :: items) after
      | ']' :: after => .goesOn (item :: items) (']' :: after)
      | _ => .ends (.error .unclosedList)

/-- The reader makes passes until one ends the reading. -/
theorem flowItems_eq_pass (items : List (Option String)) (text : List Char) :
    flowItems items text =
      match pass items text with
      | .ends result => result
      | .goesOn items text => flowItems items text := by
  rw [flowItems, pass]
  split
  · rename_i start
    simp only [start]
  · rename_i after start
    simp only [start]
    split <;> rfl
  · rename_i c rest _ start
    simp only [start]
    split
    · rename_i fault refused
      simp only [refused]
    · rename_i item remaining read
      simp only [read]
      split
      · rename_i after next
        simp only [next]
      · rename_i after next
        simp only [next]
      · split <;> simp_all

/-- At the closing bracket a pass looks at what follows. -/
theorem pass_close {text after : List Char} (start : Text.trimStart text = ']' :: after)
    (items : List (Option String)) :
    pass items text =
      if (Text.trimStart after).isEmpty || Text.startsWith (· == '#') (Text.trimStart after) then
        .ends (.ok items.reverse)
      else .ends (.error (.afterList (Text.trimStart after))) := by
  unfold pass
  simp only [start]

/-- Elsewhere it takes an item, and what separates it from the next. -/
theorem pass_item {text remaining : List Char} {item : Option String}
    (noClose : ∀ after, Text.trimStart text ≠ ']' :: after)
    (read : flowItem (Text.trimStart text) = .ok (item, remaining))
    (items : List (Option String)) :
    pass items text =
      match Text.trimStart remaining with
      | ',' :: after => .goesOn (item :: items) after
      | ']' :: after => .goesOn (item :: items) (']' :: after)
      | _ => .ends (.error .unclosedList) := by
  unfold pass
  split
  · rename_i empty
    have shorter := (takes_of_flowItem read).isRest.length_lt
    rw [empty] at shorter
    exact absurd shorter (Nat.not_lt_zero _)
  · rename_i after start
    exact absurd start (noClose after)
  · rename_i c rest _ start
    rw [start] at read
    simp only [read]

/-- A pass that goes on leaves a rest of its text. -/
theorem isRest_of_goesOn {items items' : List (Option String)} {text text' : List Char}
    (goesOn : pass items text = .goesOn items' text') : IsRest text' text := by
  unfold pass at goesOn
  split at goesOn
  · cases goesOn
  · dsimp only at goesOn
    split at goesOn <;> cases goesOn
  · rename_i c rest _ start
    split at goesOn
    · cases goesOn
    · rename_i item remaining read
      have taken : IsRest (Text.trimStart remaining) text := by
        have item := (takes_of_flowItem read).isRest
        rw [← start] at item
        exact (item.of_isSuffix (trimStart_suffix text)).of_suffix (trimStart_suffix remaining)
      split at goesOn
      · rename_i after next
        cases goesOn
        rw [next] at taken
        exact taken.of_suffix (List.suffix_cons _ _)
      · rename_i after next
        cases goesOn
        rwa [next] at taken
      · cases goesOn

/-- Nothing is left of a list but its closing bracket, with white space around it and a comment or
nothing behind. -/
def Closes (text : List Char) : Prop :=
  ∃ before behind comment, text = before ++ ']' :: (behind ++ comment) ∧
    (∀ c ∈ before ++ behind, Text.isBlank c = true) ∧
    (comment = [] ∨ ∃ words, comment = '#' :: words)

/-- A pass ends in success where the list closes, and only there. -/
theorem pass_eq_ok_iff {items read : List (Option String)} {text : List Char} :
    pass items text = .ends (.ok read) ↔ Closes text ∧ read = items.reverse := by
  constructor
  · intro success
    unfold pass at success
    split at success
    · cases success
    · rename_i after start
      obtain ⟨before, split, blank⟩ := Text.exists_trimStart text
      obtain ⟨behind, split', blank'⟩ := Text.exists_trimStart after
      dsimp only at success
      split at success
      · rename_i ended
        cases success
        refine ⟨⟨before, behind, Text.trimStart after, ?_, ?_, ?_⟩, rfl⟩
        · rw [← split', ← start]
          exact split
        · exact List.forall_mem_append.mpr ⟨blank, blank'⟩
        · cases comment : Text.trimStart after with
          | nil => exact .inl rfl
          | cons c words =>
            rw [comment, List.isEmpty_cons, Bool.false_or, Text.startsWith_cons, beq_iff_eq]
              at ended
            exact .inr ⟨words, by rw [ended]⟩
      · cases success
    · split at success
      · cases success
      · split at success <;> cases success
  · rintro ⟨⟨before, behind, comment, rfl, blank, ends⟩, rfl⟩
    obtain ⟨blank, blank'⟩ := List.forall_mem_append.mp blank
    have start := Text.trimStart_append_cons blank (c := ']') rfl (behind ++ comment)
    have ended : ((Text.trimStart (behind ++ comment)).isEmpty ||
        Text.startsWith (· == '#') (Text.trimStart (behind ++ comment))) = true := by
      rcases ends with rfl | ⟨words, rfl⟩
      · rw [List.append_nil, Text.trimStart_of_forall blank']
        rfl
      · rw [Text.trimStart_append_cons blank' rfl]
        rfl
    rw [pass_close start, if_pos ended]

/-- Passes that go on, one after another, and their number. -/
inductive Passes : Nat → List (Option String) → List Char → List (Option String) → List Char → Prop
  /-- No pass. -/
  | none (items : List (Option String)) (text : List Char) : Passes 0 items text items text
  /-- One more pass in front. -/
  | more {n : Nat} {items items' last : List (Option String)} {text text' rest : List Char}
      (first : pass items text = .goesOn items' text') (others : Passes n items' text' last rest) :
      Passes (n + 1) items text last rest

/-- After at most as many passes as the text has characters one ends the reading. -/
theorem exists_last_pass (items : List (Option String)) (text : List Char) :
    ∃ n last rest result, Passes n items text last rest ∧ n + rest.length ≤ text.length ∧
      pass last rest = .ends result ∧ flowItems items text = result := by
  induction size : text.length using Nat.strongRecOn generalizing items text with
  | ind k ih =>
    have read := flowItems_eq_pass items text
    cases onePass : pass items text with
    | ends result =>
      rw [onePass] at read
      refine ⟨0, items, text, result, .none items text, ?_, onePass, read⟩
      omega
    | goesOn items' text' =>
      rw [onePass] at read
      have shorter := (isRest_of_goesOn onePass).length_lt
      rw [size] at shorter
      obtain ⟨n, last, rest, result, passes, bound, ends, same⟩ := ih _ shorter items' text' rfl
      refine ⟨n + 1, last, rest, result, .more onePass passes, ?_, ends, read.trans same⟩
      omega

/-- **The reading of a list ends.** Every item is taken in one of four ways, and each leaves a rest
of the text, shorter by at least one character; so does each pass that goes on. Therefore the last
pass comes after at most as many others as the list has characters, whatever the text is, and what
it comes to is the result. That is a success exactly where the closing bracket stands and nothing
follows it but white space and a comment. -/
theorem flowList_ends :
    (∀ text item rest, flowItem text = .ok (item, rest) → Takes text item rest) ∧
    (∀ text item rest, Takes text item rest → IsRest rest text) ∧
    (∀ items text items' text', pass items text = .goesOn items' text' → IsRest text' text) ∧
    (∀ text, text.head? ≠ some '[' → flowList text = .ok .invalid) ∧
    ∀ text, ∃ n last rest result, Passes n [] text last rest ∧ n + rest.length ≤ text.length ∧
      pass last rest = .ends result ∧ flowList ('[' :: text) = result.map RawModes.ofItems ∧
      ∀ items, result = .ok items ↔ Closes rest ∧ items = last.reverse := by
  refine ⟨fun _ _ _ => takes_of_flowItem, fun _ _ _ => Takes.isRest,
    fun _ _ _ _ => isRest_of_goesOn, fun text other => ?_, fun text => ?_⟩
  · unfold flowList
    split
    · exact absurd rfl other
    · rfl
  · obtain ⟨n, last, rest, result, passes, bound, ends, read⟩ := exists_last_pass [] text
    refine ⟨n, last, rest, result, passes, bound, ends, ?_, fun items => ?_⟩
    · rw [flowList, read]
      cases result <;> rfl
    · rw [← pass_eq_ok_iff, ends, Pass.ends.injEq]

/-- A pass over a quoted item goes on behind its comma, and what begins with no bracket is no
list. -/
theorem flowList_ends_quoted :
    (pass [] "'b', c] # x".toList = .goesOn [some "b"] " c] # x".toList ∧
      IsRest " c] # x".toList "'b', c] # x".toList) ∧
    (flowItem "\x7ba: [b]\x7d, c]".toList = .ok (none, ", c]".toList) ∧
      IsRest ", c]".toList "\x7ba: [b]\x7d, c]".toList) ∧
    "b".toList.head? ≠ some '[' ∧ flowList "b".toList = .ok .invalid := by
  obtain ⟨takes, leaves, goesOn, noList, -⟩ := flowList_ends
  have quoted : pass [] "'b', c] # x".toList = .goesOn [some "b"] " c] # x".toList := rfl
  have nested : flowItem "\x7ba: [b]\x7d, c]".toList = .ok (none, ", c]".toList) := rfl
  exact ⟨⟨quoted, goesOn _ _ _ _ quoted⟩, ⟨nested, leaves _ _ _ (takes _ _ _ nested)⟩, by decide,
    noList _ (by decide)⟩

end CatalogAudit.Manifest.Line
