import CatalogAudit.Proofs.Manifest.Runs.Lines

/-!
# Spaces at the end of a line

Spaces at the end of a line change nothing that is read on the line. Most of what is read there is
handed on with its rest, and the spaces stay at the end of the rest until a value or a comment
swallows them. So each reading on the line is compared with the reading of the same text with the
spaces behind it: both end in a fault, or both succeed with the same value and the same rest, but
for the spaces.
-/

namespace CatalogAudit.Manifest.Line

open Layout

/-- Two readings agree: both end in a fault, or both give results, and these are related. -/
inductive Agree {α β : Type} (R : α → β → Prop) : Except Fault α → Except Fault β → Prop
  | fault (f f' : Fault) : Agree R (.error f) (.error f')
  | result {a : α} {b : β} (related : R a b) : Agree R (.ok a) (.ok b)

/-- Results that agree fail together. -/
theorem Agree.exists_of_error {α β : Type} {R : α → β → Prop} {x : Except Fault α}
    {y : Except Fault β} (agree : Agree R x y) {fault : Fault} (first : x = .error fault) :
    ∃ fault', y = .error fault' := by
  cases agree with
  | fault f f' => exact ⟨f', rfl⟩
  | result related => cases first

/-- Results that agree succeed together, with values that are related. -/
theorem Agree.exists_of_ok {α β : Type} {R : α → β → Prop} {x : Except Fault α}
    {y : Except Fault β} (agree : Agree R x y) {a : α} (first : x = .ok a) :
    ∃ b, y = .ok b ∧ R a b := by
  cases agree with
  | fault f f' => cases first
  | result related =>
    cases first
    exact ⟨_, rfl, related⟩

/-- Every result agrees with itself. -/
theorem agree_refl {α : Type} (x : Except Fault α) : Agree Eq x x := by
  cases x with
  | error fault => exact .fault _ _
  | ok value => exact .result rfl

/-- What holds of two faults, and of a reading and itself, holds of two readings of the same. -/
@[elab_as_elim]
theorem Agree.transfer {α : Type} {motive : Except Fault α → Except Fault α → Prop}
    {x y : Except Fault α} (agree : Agree Eq x y) (same : ∀ x, motive x x)
    (fault : ∀ f f', motive (.error f) (.error f')) : motive x y := by
  cases agree with
  | fault f f' => exact fault f f'
  | result equal =>
    rw [equal]
    exact same _

/-- The text with `n` spaces behind it, if there is anything that they could stand behind. -/
def padded (n : Nat) (text : List Char) : List Char :=
  if text.isEmpty then [] else text ++ spaces n

/-- A value with the text after it, behind which `n` spaces stand. -/
def withSpaces {α : Type} (n : Nat) (p : α × List Char) : α × List Char := (p.1, p.2 ++ spaces n)

/-- Whatever holds of a space holds of every character of a run of spaces. -/
theorem of_mem_spaces {p : Char → Bool} (space : p ' ' = true) (n : Nat) :
    ∀ c ∈ spaces n, p c = true := by
  intro c mem
  rw [List.eq_of_mem_replicate mem, space]

section Padding

variable (n : Nat)

/-- An empty text is not padded. -/
theorem padded_nil : padded n [] = [] := rfl

/-- A text that is not empty is padded with spaces behind it. -/
theorem padded_of_ne_nil {text : List Char} (filled : text ≠ []) :
    padded n text = text ++ spaces n := by
  cases text with
  | nil => exact absurd rfl filled
  | cons c text => rfl

/-- The first character stays in front of the padding. -/
theorem padded_cons (c : Char) (text : List Char) :
    padded n (c :: text) = c :: (text ++ spaces n) := rfl

/-- Padding makes no empty text full. -/
@[simp] theorem isEmpty_padded (text : List Char) : (padded n text).isEmpty = text.isEmpty := by
  cases text <;> rfl

/-- Padding does not change how a text starts. -/
@[simp] theorem startsWith_padded (p : Char → Bool) (text : List Char) :
    Text.startsWith p (padded n text) = Text.startsWith p text := by
  cases text <;> rfl

/-- Spaces behind a text that is not empty do not change how it starts. -/
theorem startsWith_append_spaces {text : List Char} (filled : text ≠ []) (p : Char → Bool) :
    Text.startsWith p (text ++ spaces n) = Text.startsWith p text := by
  rw [← padded_of_ne_nil n filled, startsWith_padded]

/-- Padding does not change whether a text is blank. -/
@[simp] theorem isBlankText_padded (text : List Char) :
    Text.isBlankText (padded n text) = Text.isBlankText text := by
  have blank : (spaces n).all Text.isBlank = true :=
    List.all_eq_true.mpr (of_mem_spaces rfl n)
  cases text with
  | nil => rfl
  | cons c text =>
    rw [padded_of_ne_nil n (List.cons_ne_nil c text), Text.isBlankText, List.all_append, blank,
      Bool.and_true, Text.isBlankText]

/-- Once the text in front of something is cut off, so are the spaces behind nothing. -/
theorem dropWhile_append_spaces {p : Char → Bool} (space : p ' ' = true) (text : List Char) :
    (text ++ spaces n).dropWhile p = padded n (text.dropWhile p) := by
  induction text with
  | nil =>
    have cut : (spaces n ++ []).dropWhile p = [] :=
      List.dropWhile_append_of_pos (of_mem_spaces space n)
    rw [List.append_nil] at cut
    rw [List.nil_append, cut]
    rfl
  | cons c text ih =>
    cases passed : p c with
    | true =>
      rw [List.cons_append, List.dropWhile_cons_of_pos passed, List.dropWhile_cons_of_pos passed,
        ih]
    | false =>
      rw [List.cons_append, List.dropWhile_cons_of_neg (by simp [passed]),
        List.dropWhile_cons_of_neg (by simp [passed]), padded_cons]

/-- What is taken off the front of a text is the same, but for spaces at its end. -/
theorem exists_takeWhile_append_spaces {p : Char → Bool} (space : p ' ' = true)
    (text : List Char) :
    ∃ m, (text ++ spaces n).takeWhile p = text.takeWhile p ++ spaces m := by
  induction text with
  | nil =>
    have taken : (spaces n ++ []).takeWhile p = spaces n ++ [] :=
      List.takeWhile_append_of_pos (of_mem_spaces space n)
    rw [List.append_nil] at taken
    exact ⟨n, taken⟩
  | cons c text ih =>
    cases passed : p c with
    | true =>
      obtain ⟨m, taken⟩ := ih
      refine ⟨m, ?_⟩
      rw [List.cons_append, List.takeWhile_cons_of_pos passed, List.takeWhile_cons_of_pos passed,
        taken, List.cons_append]
    | false =>
      refine ⟨0, ?_⟩
      rw [List.cons_append, List.takeWhile_cons_of_neg (by simp [passed]),
        List.takeWhile_cons_of_neg (by simp [passed])]
      rfl

/-- What is trimmed at its start keeps the spaces behind it, unless nothing is left of it. -/
theorem trimStart_append_spaces (text : List Char) :
    Text.trimStart (text ++ spaces n) = padded n (Text.trimStart text) :=
  dropWhile_append_spaces n rfl text

/-- Trimming at the start and padding can be exchanged. -/
theorem trimStart_padded (text : List Char) :
    Text.trimStart (padded n text) = padded n (Text.trimStart text) := by
  cases text with
  | nil => rfl
  | cons c text => exact trimStart_append_spaces n (c :: text)

/-- Spaces behind a text are trimmed away at its end. -/
theorem trimEnd_append_spaces (text : List Char) :
    Text.trimEnd (text ++ spaces n) = Text.trimEnd text :=
  Text.trimEnd_append (of_mem_spaces rfl n) text

/-- The spaces are one more end of a text, behind which a kind of character may come. -/
theorem ends_append_spaces {p : Char → Bool} (space : p ' ' = true) (text : List Char) :
    ((text ++ spaces n).isEmpty || Text.startsWith p (text ++ spaces n))
      = (text.isEmpty || Text.startsWith p text) := by
  cases text with
  | nil =>
    cases n with
    | zero => rfl
    | succ n => exact space
  | cons c text => rfl

end Padding

section Comments

variable (n : Nat)

/-- The spaces are left at the end of a text without its comment, or the comment takes them. -/
theorem exists_stripCommentFrom_spaces (free : Bool) (reversed text : List Char) :
    ∃ m, stripCommentFrom free reversed (text ++ spaces n)
      = stripCommentFrom free reversed text ++ spaces m := by
  induction text generalizing free reversed with
  | nil =>
    have passed := stripCommentFrom_gap (of_mem_spaces rfl n) free reversed []
    rw [List.append_nil] at passed
    refine ⟨n, ?_⟩
    rw [List.nil_append, passed, stripCommentFrom, stripCommentFrom, List.reverse_append,
      List.reverse_reverse]
  | cons c text ih =>
    rw [List.cons_append, stripCommentFrom, stripCommentFrom]
    split
    · exact ⟨0, (List.append_nil _).symm⟩
    · exact ih _ _

/-- Spaces behind a text are trimmed away with its comment. -/
theorem trimEnd_stripComment_append_spaces (text : List Char) :
    Text.trimEnd (stripComment (text ++ spaces n)) = Text.trimEnd (stripComment text) := by
  obtain ⟨m, kept⟩ := exists_stripCommentFrom_spaces n true [] text
  rw [stripComment, kept, trimEnd_append_spaces, stripComment]

/-- Spaces do not change whether a text has nothing to say. -/
theorem isSpent_append_spaces (text : List Char) : isSpent (text ++ spaces n) = isSpent text := by
  obtain ⟨m, kept⟩ := exists_stripCommentFrom_spaces n true [] text
  have blank : (spaces m).all Text.isBlank = true :=
    List.all_eq_true.mpr (of_mem_spaces rfl m)
  rw [isSpent, isSpent, stripComment, kept, Text.isBlankText, List.all_append, blank, Bool.and_true,
    ← stripComment, ← Text.isBlankText]

/-- Padding does not change whether a text has nothing to say. -/
theorem isSpent_padded (text : List Char) : isSpent (padded n text) = isSpent text := by
  cases text with
  | nil => rfl
  | cons c text => exact isSpent_append_spaces n (c :: text)

end Comments

section Quotes

variable (n : Nat)

/-- A single quotation that goes on with spaces only is not closed. -/
theorem readSingle_spaces (value : List Char) :
    readSingle value (spaces n) = .error .unclosedQuote := by
  induction n generalizing value with
  | zero => rfl
  | succ n ih => exact ih (' ' :: value)

/-- A single quotation is read alike when spaces follow the text; its rest has them too. -/
theorem readSingle_append_spaces (value text : List Char) :
    Agree (fun p q => q = withSpaces n p)
      (readSingle value text) (readSingle value (text ++ spaces n)) := by
  fun_induction readSingle value text with
  | case1 value =>
    rw [List.nil_append, readSingle_spaces]
    exact .fault _ _
  | case2 value rest ih => exact ih
  | case3 value rest single =>
    have alone : ∀ after, rest ++ spaces n = '\'' :: after → False := by
      intro after quote
      cases rest with
      | nil =>
        have mem : '\'' ∈ spaces n := by
          rw [List.nil_append] at quote
          rw [quote]
          exact List.mem_cons_self
        exact absurd (List.eq_of_mem_replicate mem) (by decide)
      | cons c rest => exact single rest (by rw [(List.cons.inj quote).1])
    rw [List.cons_append, readSingle.eq_3 value (rest ++ spaces n) alone]
    exact .result rfl
  | case4 value c rest noPair noQuote ih =>
    have onward : readSingle value (c :: (rest ++ spaces n))
        = readSingle (c :: value) (rest ++ spaces n) := by
      rw [readSingle.eq_4]
      · intro after quote
        exact absurd quote noQuote
      · exact noQuote
    rw [List.cons_append, onward]
    exact ih

/-- A double quotation that goes on with spaces only is not closed. -/
theorem readDouble_spaces (value : List Char) :
    readDouble value (spaces n) = .error .unclosedQuote := by
  induction n generalizing value with
  | zero => rw [spaces, List.replicate_zero, readDouble]
  | succ n ih =>
    rw [spaces, List.replicate_succ, readDouble, if_neg (by decide), if_neg (by decide), ← spaces,
      ih]

/-- Too few digits stay too few when spaces come behind them. -/
theorem isHexOf_append_spaces {width : Nat} {digits : List Char} (short : digits.length < width)
    (m : Nat) : Text.isHexOf width (digits ++ spaces m) = false := by
  cases m with
  | zero => simp [Text.isHexOf, spaces]; omega
  | succ m =>
    have space : (Number.digitIn? 16 ' ').isSome = false := by decide
    simp [Text.isHexOf, spaces, List.replicate_succ, space]

/-- What follows a backslash is the same unless nothing follows it. -/
theorem readEscape_append_spaces {text : List Char} (filled : text ≠ []) :
    Agree (fun p q => q = withSpaces n p) (readEscape text) (readEscape (text ++ spaces n)) := by
  cases text with
  | nil => exact absurd rfl filled
  | cons letter rest =>
    rw [List.cons_append, readEscape, readEscape]
    cases Text.letterEscape? letter with
    | some c => exact .result rfl
    | none =>
      cases Text.escapeWidth? letter with
      | none => exact .fault _ _
      | some width =>
        by_cases long : width ≤ rest.length
        · simp only [List.take_append_of_le_length long, List.drop_append_of_le_length long]
          cases readHex width (rest.take width) with
          | error fault => exact .fault _ _
          | ok c => exact .result rfl
        · -- The spaces make up for missing digits, but they are no digits.
          have short : rest.length < width := by omega
          have whole : rest.take width = rest := List.take_of_length_le (by omega)
          have refused : readHex width rest = .error (.invalidHex rest) := by
            have few := isHexOf_append_spaces short 0
            rw [spaces, List.replicate_zero, List.append_nil] at few
            rw [readHex, few]
            rfl
          have padding : ((rest ++ spaces n).take width)
              = rest ++ spaces (min (width - rest.length) n) := by
            rw [List.take_append, whole, spaces, List.take_replicate, spaces]
          have refusedToo : readHex width ((rest ++ spaces n).take width)
              = .error (.invalidHex ((rest ++ spaces n).take width)) := by
            rw [readHex, padding, isHexOf_append_spaces short]
            rfl
          simp only [whole, refused, refusedToo]
          exact .fault _ _

/-- An escape in a double quotation stands for its character, and reading goes on behind it. -/
theorem readDouble_escape {rest after : List Char} {decoded : Char}
    (taken : readEscape rest = .ok (decoded, after)) (value : List Char) :
    readDouble value ('\\' :: rest) = readDouble (decoded :: value) after := by
  rw [readDouble, if_neg (by decide), if_pos rfl]
  split <;> simp_all

/-- A double quotation with an escape that cannot be read fails with the fault of that escape. -/
theorem readDouble_escape_fault {rest : List Char} {fault : Fault}
    (taken : readEscape rest = .error fault) (value : List Char) :
    readDouble value ('\\' :: rest) = .error fault := by
  rw [readDouble, if_neg (by decide), if_pos rfl]
  split <;> simp_all

/-- A double quotation is read alike when spaces follow the text; its rest has them too. -/
theorem readDouble_append_spaces (value text : List Char) :
    Agree (fun p q => q = withSpaces n p)
      (readDouble value text) (readDouble value (text ++ spaces n)) := by
  fun_induction readDouble value text with
  | case1 value =>
    rw [List.nil_append, readDouble_spaces]
    exact .fault _ _
  | case2 value rest =>
    rw [List.cons_append, readDouble, if_pos rfl]
    exact .result rfl
  | case3 value rest fault taken noQuote =>
    rw [List.cons_append]
    cases rest with
    | nil =>
      -- A backslash at the end of the line escapes the first of the spaces.
      cases n with
      | zero =>
        rw [List.nil_append, spaces, List.replicate_zero, readDouble_escape_fault rfl]
        exact .fault _ _
      | succ n =>
        have space : readEscape (spaces (n + 1)) = .ok (' ', spaces n) := rfl
        rw [List.nil_append, readDouble_escape space, readDouble_spaces]
        exact .fault _ _
    | cons letter rest =>
      have agree := readEscape_append_spaces n (List.cons_ne_nil letter rest)
      obtain ⟨fault', taken'⟩ := agree.exists_of_error taken
      rw [readDouble_escape_fault taken']
      exact .fault _ _
  | case4 value rest decoded after taken noQuote ih =>
    have filled : rest ≠ [] := by
      rintro rfl
      simp [readEscape] at taken
    obtain ⟨read, taken', same⟩ := (readEscape_append_spaces n filled).exists_of_ok taken
    rw [same] at taken'
    rw [List.cons_append, readDouble_escape taken']
    exact ih
  | case5 value c rest noQuote noEscape ih =>
    rw [List.cons_append, readDouble, if_neg noQuote, if_neg noEscape]
    exact ih

/-- A quoted value is read as before, and the spaces stay at the end of what follows it. -/
theorem readQuoted_append_spaces (text : List Char) :
    Agree (fun p q => q = withSpaces n p) (readQuoted text) (readQuoted (text ++ spaces n)) := by
  cases text with
  | nil =>
    cases n with
    | zero => exact .fault _ _
    | succ n => exact .fault _ _
  | cons c rest =>
    rw [List.cons_append]
    unfold readQuoted
    split
    · rename_i quote
      rw [(List.cons.inj quote).1, (List.cons.inj quote).2]
      exact readSingle_append_spaces n [] _
    · rename_i quote
      rw [(List.cons.inj quote).1, (List.cons.inj quote).2]
      exact readDouble_append_spaces n [] _
    · split
      · simp_all
      · simp_all
      · exact .fault _ _

end Quotes

section Values

variable (n : Nat)

/-- A plain value may begin as before. -/
theorem checkPlainStart_append_spaces {text : List Char} (filled : text ≠ []) :
    Agree Eq (checkPlainStart text) (checkPlainStart (text ++ spaces n)) := by
  cases text with
  | nil => exact absurd rfl filled
  | cons c rest =>
    have ends := ends_append_spaces (p := fun c => c == ' ') n rfl rest
    rw [List.cons_append]
    simp only [checkPlainStart, ends]
    split
    · exact .fault _ _
    · split
      · exact .fault _ _
      · exact .result rfl

/-- A value is the same, or it is refused with other words. -/
theorem scalarValue_append_spaces (text : List Char) :
    Agree Eq (scalarValue text) (scalarValue (text ++ spaces n)) := by
  have value : ∀ text, Text.trimEnd (stripComment (padded n text))
      = Text.trimEnd (stripComment text) := by
    intro text
    cases text with
    | nil => rfl
    | cons c text => exact trimEnd_stripComment_append_spaces n (c :: text)
  simp only [scalarValue, trimStart_append_spaces, startsWith_padded, value]
  generalize Text.trimStart text = text
  split
  · rename_i quote
    have filled : text ≠ [] := by
      rintro rfl
      cases quote
    rw [padded_of_ne_nil n filled]
    have agree := readQuoted_append_spaces n text
    generalize readQuoted text = read, readQuoted (text ++ spaces n) = read' at agree
    cases agree with
    | fault => exact .fault _ _
    | result same =>
      simp only [same, withSpaces, trimStart_append_spaces, startsWith_padded, isEmpty_padded]
      split
      · exact .result rfl
      · exact .fault _ _
  · exact agree_refl _

end Values

section Keys

variable (n : Nat)

/-- Spaces behind a text do not change whether a key ends in front of it. -/
theorem endsKey_append_spaces (rest : List Char) : endsKey (rest ++ spaces n) = endsKey rest :=
  ends_append_spaces n rfl rest

/-- A bare key is split off alike when spaces follow the text; its rest has them too. -/
theorem splitBareKey_append_spaces (free : Bool) (reversed text : List Char) :
    splitBareKey free reversed (text ++ spaces n)
      = (splitBareKey free reversed text).map (withSpaces n) := by
  induction text generalizing free reversed with
  | nil =>
    have passed := splitBareKey_gap (of_mem_spaces rfl n) free reversed []
    rw [List.append_nil] at passed
    rw [List.nil_append, passed]
    rfl
  | cons c text ih =>
    rw [List.cons_append, splitBareKey, splitBareKey, endsKey_append_spaces, ih]
    split
    · rfl
    · split
      · dsimp only
        split <;> rfl
      · rfl

/-- A key is found with the value behind it, at whose end the spaces stay. -/
theorem splitKey_append_spaces {text : List Char} (filled : text ≠ []) :
    Agree (fun found found' => found' = found.map (withSpaces n))
      (splitKey text) (splitKey (text ++ spaces n)) := by
  have start := startsWith_append_spaces n filled
  simp only [splitKey, start]
  split
  · have agree := readQuoted_append_spaces n text
    generalize readQuoted text = read, readQuoted (text ++ spaces n) = read' at agree
    cases agree with
    | fault => exact .fault _ _
    | result same =>
      rename_i read read'
      simp only [same, withSpaces, trimStart_append_spaces]
      cases Text.trimStart read.2 with
      | nil => exact .result rfl
      | cons c value =>
        rw [padded_cons]
        by_cases colon : c = ':'
        · simp only [colon, endsKey_append_spaces]
          split <;> exact .result rfl
        · split
          · simp_all
          · split
            · simp_all
            · exact .result rfl
  · split
    · exact .result rfl
    · have agree := checkPlainStart_append_spaces n filled
      generalize checkPlainStart text = read, checkPlainStart (text ++ spaces n) = read' at agree
      cases agree with
      | fault => exact .fault _ _
      | result same => exact .result (splitBareKey_append_spaces n _ _ _)

/-- A list item has the same body, with the spaces behind it if it is not empty. -/
theorem itemBody?_append_spaces {text : List Char} (filled : text ≠ []) :
    itemBody? (text ++ spaces n) = (itemBody? text).map (padded n) := by
  cases text with
  | nil => exact absurd rfl filled
  | cons c rest =>
    rw [List.cons_append]
    by_cases dash : c = '-'
    · rw [dash]
      cases rest with
      | nil =>
        cases n with
        | zero => rfl
        | succ n =>
          have cut := trimStart_append_spaces (n + 1) []
          rw [List.nil_append] at cut
          exact congrArg some cut
      | cons d rest =>
        have body : Text.trimStart (d :: (rest ++ spaces n))
            = padded n (Text.trimStart (d :: rest)) := trimStart_append_spaces n (d :: rest)
        rw [List.cons_append, itemBody?, itemBody?, body]
        by_cases gap : Text.isGap d = true
        · simp [Text.startsWith_cons, gap]
        · simp [Text.startsWith_cons, gap]
    · rw [itemBody?_cons dash, itemBody?_cons dash]
      rfl

/-- Only what begins with three hyphens begins a document. -/
theorem isDocumentStart_eq_false {text : List Char} (other : ¬ ['-', '-', '-'] <+: text) :
    isDocumentStart text = false := by
  unfold isDocumentStart
  split
  · rename_i rest
    exact absurd (List.prefix_append _ rest) other
  · rfl

/-- No word begins only with the spaces behind a text. -/
theorem isPrefix_of_append_spaces {word text : List Char} (noSpace : ' ' ∉ word)
    (h : word <+: text ++ spaces n) : word <+: text := by
  induction n with
  | zero => simpa [spaces] using h
  | succ n ih =>
    rw [spaces, List.replicate_succ', ← List.append_assoc, List.prefix_concat_iff] at h
    cases h with
    | inl whole => exact absurd (by simp [whole]) noSpace
    | inr before => exact ih before

/-- Spaces behind a text do not change whether it begins a document. -/
theorem isDocumentStart_append_spaces (text : List Char) :
    isDocumentStart (text ++ spaces n) = isDocumentStart text := by
  by_cases mark : ['-', '-', '-'] <+: text
  · obtain ⟨rest, rfl⟩ := mark
    exact isSpent_append_spaces n rest
  · have other : ¬ ['-', '-', '-'] <+: text ++ spaces n :=
      fun h => mark (isPrefix_of_append_spaces n (by decide) h)
    rw [isDocumentStart_eq_false mark, isDocumentStart_eq_false other]

end Keys

section Lists

variable (n : Nat)

/-- Nested brackets are passed over alike when spaces follow the text; the rest has them too. -/
theorem skipBrackets?_append_spaces (depth : Nat) (text : List Char) :
    skipBrackets? depth (text ++ spaces n) = (skipBrackets? depth text).map (· ++ spaces n) := by
  induction text generalizing depth with
  | nil =>
    have open_ : ∀ n depth, skipBrackets? depth (spaces n) = none := by
      intro n
      induction n with
      | zero => exact fun depth => rfl
      | succ n ih => exact fun depth => ih depth
    rw [List.nil_append, open_]
    rfl
  | cons c text ih =>
    rw [List.cons_append, skipBrackets?, skipBrackets?]
    split
    · exact ih _
    · split
      · split
        · rfl
        · exact ih _
      · exact ih _

/-- What follows an item, once blanks are cut off, has the spaces behind it if anything follows. -/
def SameItem (p q : Option String × List Char) : Prop :=
  q.1 = p.1 ∧ Text.trimStart q.2 = padded n (Text.trimStart p.2)

/-- An item of a list is read alike when spaces follow the text. -/
theorem flowItem_append_spaces {text : List Char} (filled : text ≠ []) :
    Agree (SameItem n) (flowItem text) (flowItem (text ++ spaces n)) := by
  have start := startsWith_append_spaces n filled
  obtain ⟨m, taken⟩ := exists_takeWhile_append_spaces (p := fun c => !endsItem c) n rfl text
  have plain : Text.trimEnd ((text ++ spaces n).takeWhile fun c => !endsItem c)
      = Text.trimEnd (text.takeWhile fun c => !endsItem c) := by
    rw [taken, trimEnd_append_spaces]
  have rest := dropWhile_append_spaces (p := fun c => !endsItem c) n rfl text
  simp only [flowItem, start, plain, rest, startsWith_padded]
  split
  · have agree := readQuoted_append_spaces n text
    generalize readQuoted text = read, readQuoted (text ++ spaces n) = read' at agree
    cases agree with
    | fault => exact .fault _ _
    | result same =>
      simp only [same, withSpaces, trimStart_append_spaces, startsWith_padded]
      split
      · refine .result ⟨rfl, ?_⟩
        simp only [dropWhile_append_spaces n (p := fun c => !(c == ',' || c == ']')) rfl,
          trimStart_padded]
      · exact .result ⟨rfl, trimStart_append_spaces n _⟩
  · split
    · rw [skipBrackets?_append_spaces]
      cases skipBrackets? 0 text with
      | none => exact .fault _ _
      | some rest => exact .result ⟨rfl, trimStart_append_spaces n _⟩
    · have same : ∀ item : Option String,
          SameItem n (item, text.dropWhile fun c => !endsItem c)
            (item, padded n (text.dropWhile fun c => !endsItem c)) :=
        fun item => ⟨rfl, trimStart_padded n _⟩
      split
      · exact .fault _ _
      · split
        · exact .fault _ _
        · split
          · exact .fault _ _
          · split
            · exact .result (same none)
            · split
              · exact .fault _ _
              · exact .result (same _)
              · exact .result (same _)

/-- A list of which nothing is left but blanks is not closed. -/
theorem flowItems_of_nil {text : List Char} (start : Text.trimStart text = [])
    (items : List (Option String)) : flowItems items text = .error .unclosedList := by
  rw [flowItems]
  split <;> simp_all

/-- Behind the closing bracket only a comment may follow. -/
theorem flowItems_of_bracket {text after : List Char} (start : Text.trimStart text = ']' :: after)
    (items : List (Option String)) :
    flowItems items text =
      if (Text.trimStart after).isEmpty || Text.startsWith (· == '#') (Text.trimStart after) then
        .ok items.reverse
      else .error (.afterList (Text.trimStart after)) := by
  rw [flowItems]
  split <;> simp_all

/-- An item that cannot be read is the end of the reading. -/
theorem flowItems_of_fault {text rest : List Char} {c : Char} {fault : Fault}
    (start : Text.trimStart text = c :: rest) (noClose : c ≠ ']')
    (taken : flowItem (c :: rest) = .error fault) (items : List (Option String)) :
    flowItems items text = .error fault := by
  rw [flowItems]
  split
  · simp_all
  · rename_i bracket
    rw [start] at bracket
    exact absurd (List.cons.inj bracket).1 noClose
  · split <;> simp_all

/-- An item is followed by the same, with the spaces at its end. -/
theorem exists_flowItems_item {text text' rest remaining : List Char} {c : Char}
    {item : Option String} (start : Text.trimStart text = c :: rest) (noClose : c ≠ ']')
    (taken : flowItem (c :: rest) = .ok (item, remaining))
    (same : Text.trimStart text' = padded n (Text.trimStart text)) (items : List (Option String)) :
    ∃ remaining', flowItems items text' =
        (match Text.trimStart remaining' with
        | ',' :: after => flowItems (item :: items) after
        | ']' :: after => flowItems (item :: items) (']' :: after)
        | _ => .error .unclosedList) ∧
      Text.trimStart remaining' = padded n (Text.trimStart remaining) := by
  have agree := flowItem_append_spaces n (List.cons_ne_nil c rest)
  obtain ⟨⟨item', remaining'⟩, taken', sameItem, onward⟩ := agree.exists_of_ok taken
  have started : Text.trimStart text' = c :: rest ++ spaces n := by
    rw [same, start, padded_cons, List.cons_append]
  rw [← started] at taken'
  have noBracket : ∀ after, Text.trimStart text' ≠ ']' :: after := by
    intro after bracket
    rw [started] at bracket
    exact noClose (List.cons.inj bracket).1
  obtain rfl : item' = item := sameItem
  exact ⟨remaining', flowItems_item noBracket taken' items, onward⟩

/-- The items of a list are read alike when spaces follow the text. -/
theorem flowItems_append_spaces (items : List (Option String)) {text text' : List Char}
    (same : Text.trimStart text' = padded n (Text.trimStart text)) :
    Agree Eq (flowItems items text) (flowItems items text') := by
  -- A plain item loses the spaces behind it and a quoted one keeps them, so what remains is
  -- compared behind the blanks, which are cut off before the next item anyway.
  fun_induction flowItems items text generalizing text' with
  | case1 items text empty =>
    rw [empty, padded_nil] at same
    rw [flowItems_of_nil same]
    exact .fault _ _
  | case2 items text after start trimmed =>
    rename_i ended
    rw [start, padded_cons] at same
    rw [flowItems_of_bracket same, trimStart_append_spaces, isEmpty_padded, startsWith_padded,
      if_pos ended]
    exact .result rfl
  | case3 items text after start trimmed =>
    rename_i ended
    rw [start, padded_cons] at same
    rw [flowItems_of_bracket same, trimStart_append_spaces, isEmpty_padded, startsWith_padded,
      if_neg ended]
    exact .fault _ _
  | case4 items text c rest noClose start fault taken =>
    rw [start, padded_cons] at same
    have agree := flowItem_append_spaces n (List.cons_ne_nil c rest)
    obtain ⟨fault', taken'⟩ := agree.exists_of_error taken
    rw [flowItems_of_fault same noClose taken']
    exact .fault _ _
  | case5 items text c rest noClose start item remaining taken after next ih =>
    obtain ⟨remaining', read, next'⟩ := exists_flowItems_item n start noClose taken same items
    rw [next, padded_cons] at next'
    rw [read, next']
    exact ih (trimStart_append_spaces n after)
  | case6 items text c rest noClose start item remaining taken after next ih =>
    obtain ⟨remaining', read, next'⟩ := exists_flowItems_item n start noClose taken same items
    rw [next, padded_cons] at next'
    rw [read, next']
    exact ih (trimStart_append_spaces n (']' :: after))
  | case7 items text c rest noClose start item remaining taken noComma noBracket =>
    obtain ⟨remaining', read, next'⟩ := exists_flowItems_item n start noClose taken same items
    rw [read, next']
    cases onward : Text.trimStart remaining with
    | nil => exact .fault _ _
    | cons d after =>
      rw [padded_cons]
      split
      · rename_i comma
        exact (noComma after (by rw [onward, (List.cons.inj comma).1])).elim
      · rename_i bracket
        exact (noBracket after (by rw [onward, (List.cons.inj bracket).1])).elim
      · exact .fault _ _

/-- A list in brackets is the same, or it is refused with other words. -/
theorem flowList_append_spaces {text : List Char} (filled : text ≠ []) :
    Agree Eq (flowList text) (flowList (text ++ spaces n)) := by
  cases text with
  | nil => exact absurd rfl filled
  | cons c rest =>
    rw [List.cons_append]
    by_cases bracket : c = '['
    · have agree := flowItems_append_spaces n [] (trimStart_append_spaces n rest)
      rw [bracket, flowList, flowList]
      generalize flowItems [] rest = read, flowItems [] (rest ++ spaces n) = read' at agree
      cases agree with
      | fault => exact .fault _ _
      | result same => exact .result (congrArg RawModes.ofItems same)
    · have other : ∀ text, flowList (c :: text) = .ok .invalid := by
        intro text
        unfold flowList
        split
        · simp_all
        · rfl
      rw [other, other]
      exact agree_refl _

end Lists

end CatalogAudit.Manifest.Line
