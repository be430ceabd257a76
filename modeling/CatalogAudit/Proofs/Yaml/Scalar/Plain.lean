import CatalogAudit.Yaml.Scalar.Plain
import CatalogAudit.Proofs.Text.Blank
import CatalogAudit.Proofs.Yaml.Skipping
import Mathlib.Data.List.Chain

/-!
# Plain values on one line

A plain value on one line is read word by word, and its gaps are kept as they are. What comes behind
its last word is read on over, in the block context as far as it does not count, and between
brackets up to the next mark.
-/

namespace CatalogAudit.Yaml.Plain

/-- A plain value on one line, between brackets if `flow` holds. -/
structure IsPlain (flow : Bool) (text : List Char) : Prop where
  /-- It begins with a character that is no blank and no hash sign. -/
  begins : ∀ x ∈ text.head?, Text.isGap x = false ∧ x ≠ '#'
  /-- It is not empty. -/
  filled : text ≠ []
  /-- It ends in neither a blank nor a colon. -/
  ends : ∀ x ∈ text.getLast?, Text.isGap x = false ∧ x ≠ ':'
  /-- All of it stands on one line. -/
  noBreak : ∀ x ∈ text, isBreak x = false
  /-- No hash sign follows a blank. -/
  noComment : text.IsChain fun c d => Text.isGap c = true → d ≠ '#'
  /-- No colon is followed by a blank, and between brackets none by a question mark. -/
  noColon : text.IsChain fun c d => c = ':' → Text.isGap d = false ∧ (flow = true → d ≠ '?')
  /-- Between brackets, it holds no comma, no bracket and no brace. -/
  noIndicator : flow = true → ∀ x ∈ text, isFlowIndicator x = false

/-- A plain scalar may begin with the text, and an item does not. -/
structure MayBegin (flow : Bool) (text : List Char) : Prop where
  /-- It may begin with the text. -/
  begins : canBegin flow text = true
  /-- No hyphen stands alone. -/
  noItem : ∀ rest, text = '-' :: rest → atSeparator rest = false

/-- A word ends before the text. -/
def WordEnds (flow : Bool) (text : List Char) : Prop := ∀ n, wordLength? flow n text = some n

/-- The end of the text ends a word. -/
theorem wordEnds_nil (flow : Bool) : WordEnds flow [] := fun _ => rfl

/-- A separator ends a word. -/
theorem wordEnds_separator {flow : Bool} {x : Char} (separates : isSeparator x = true)
    (rest : List Char) : WordEnds flow (x :: rest) := by
  intro n
  rw [wordLength?, if_pos separates]

/-- Outside brackets a word ends at a colon that is set apart from what follows. -/
theorem wordEnds_colon {rest : List Char} (apart : atSeparator rest = true) :
    WordEnds false (':' :: rest) := by
  intro n
  have noSeparator : isSeparator ':' = false := by decide
  simp [wordLength?, noSeparator, apart]

/-- Between brackets a word ends at a comma, a bracket or a brace. -/
theorem wordEnds_indicator {x : Char} (indicates : isFlowIndicator x = true) (rest : List Char) :
    WordEnds true (x :: rest) := by
  intro n
  have noColon : (x == ':') = false := by
    rw [beq_eq_false_iff_ne]
    rintro rfl
    exact absurd indicates (by decide)
  simp [wordLength?, noColon, indicates]

/-- A word ends before a gap. -/
theorem wordEnds_gap {flow : Bool} {gap : List Char} (filled : gap ≠ [])
    (blank : ∀ x ∈ gap, Text.isGap x = true) (rest : List Char) : WordEnds flow (gap ++ rest) := by
  obtain ⟨x, others, rfl⟩ := List.exists_cons_of_ne_nil filled
  exact wordEnds_separator (by rw [isSeparator, blank x List.mem_cons_self, Bool.true_or])
    (others ++ rest)

/-- What is left of a word, between brackets if `flow` holds: nothing in it ends the word. -/
structure IsWordRest (flow : Bool) (word : List Char) : Prop where
  /-- No blank and no line end is in it. -/
  inWord : ∀ x ∈ word, isSeparator x = false
  /-- No colon is followed by a blank, and between brackets none by a question mark. -/
  noColon : word.IsChain fun c d => c = ':' → Text.isGap d = false ∧ (flow = true → d ≠ '?')
  /-- Between brackets, it holds no comma, no bracket and no brace. -/
  noIndicator : flow = true → ∀ x ∈ word, isFlowIndicator x = false
  /-- It does not end in a colon. -/
  ends : word.getLast? ≠ some ':'

/-- A word of a plain value, between brackets if `flow` holds. -/
structure IsWord (flow : Bool) (word : List Char) : Prop extends IsWordRest flow word where
  /-- It is not empty. -/
  filled : word ≠ []
  /-- It does not begin with a hash sign. -/
  noComment : ∀ x ∈ word.head?, x ≠ '#'

namespace IsWordRest

variable {flow : Bool} {x : Char} {word : List Char}

/-- The rest of a word goes on behind its first character. -/
theorem tail (isRest : IsWordRest flow (x :: word)) : IsWordRest flow word where
  inWord y mem := isRest.inWord y (List.mem_cons_of_mem x mem)
  noColon := isRest.noColon.tail
  noIndicator inFlow y mem := isRest.noIndicator inFlow y (List.mem_cons_of_mem x mem)
  ends last := by
    apply isRest.ends
    rw [List.getLast?_cons, last]
    rfl

/-- A character of a word is counted. -/
theorem wordLength?_cons (isRest : IsWordRest flow (x :: word)) {rest : List Char} (n : Nat) :
    wordLength? flow n (x :: (word ++ rest)) = wordLength? flow (n + 1) (word ++ rest) := by
  have noIndicatorHere : (flow && isFlowIndicator x) = false := by
    cases flow with
    | false => rfl
    | true => exact isRest.noIndicator rfl x List.mem_cons_self
  rw [wordLength?, isRest.inWord x List.mem_cons_self, noIndicatorHere]
  cases word with
  | nil =>
    have noColonHere : (x == ':') = false := by
      rw [beq_eq_false_iff_ne]
      rintro rfl
      exact isRest.ends rfl
    simp [noColonHere]
  | cons y word =>
    have inside : isSeparator y = false := isRest.inWord y (by simp)
    have noEnd : (x == ':' && atSeparator (y :: word ++ rest)) = false := by
      rw [List.cons_append, atSeparator, inside, Bool.and_false]
    have noRefusal : (x == ':' && flow && Text.startsWith isRefusedAfterColon (y :: word ++ rest))
        = false := by
      cases flow with
      | false => rw [Bool.and_false, Bool.false_and]
      | true =>
        rw [List.cons_append, Text.startsWith_cons, isRefusedAfterColon,
          isRest.noIndicator rfl y (by simp), Bool.false_or, Bool.and_true,
          Bool.and_eq_false_iff, beq_eq_false_iff_ne, beq_eq_false_iff_ne]
        exact Decidable.or_iff_not_imp_left.mpr fun colon =>
          ((List.isChain_cons_cons.mp isRest.noColon).1 (Decidable.not_not.mp colon)).2 rfl
    rw [noEnd, noRefusal]
    rfl

/-- The length of a word is found. -/
theorem wordLength?_eq (isRest : IsWordRest flow word) {rest : List Char}
    (after : WordEnds flow rest) (n : Nat) :
    wordLength? flow n (word ++ rest) = some (n + word.length) := by
  induction word generalizing n with
  | nil => exact after n
  | cons x word ih =>
    rw [List.cons_append, isRest.wordLength?_cons, ih isRest.tail, List.length_cons]
    congr 1
    omega

end IsWordRest

/-- What reading comes to behind a word, when `text` was read so far, backwards. -/
def afterWord (margin : Nat) (flow : Bool) (fuel : Nat) (text : List Char) (c : Cursor) :
    Option Outcome :=
  if c.at? isSeparator then
    match Gap.readOn margin fuel {} c with
    | none => none
    | some (gap, next) =>
      if !flow && next.column < margin then some ⟨text.reverse, gap.broken, next⟩
      else readWords margin flow fuel text gap next
  else some ⟨text.reverse, false, c⟩

/-- A word is read. -/
theorem readWords_word (margin : Nat) {flow : Bool} {word : List Char} (isWord : IsWord flow word)
    {c : Cursor} {rest : List Char} (h : c.rest = word ++ rest) (after : WordEnds flow rest)
    (noMark : c.atDocumentMark = false) (fuel : Nat) (before : List Char) (gap : Gap) :
    readWords margin flow (fuel + 1) before gap c
      = afterWord margin flow fuel (word.reverse ++ (gap.fold.reverse ++ before))
          (c.forward word.length) := by
  have noCommentHere : c.at? (· == '#') = false := by
    apply Cursor.at?_eq_false
    intro x first
    rw [h, List.head?_append_of_ne_nil _ isWord.filled] at first
    exact beq_eq_false_iff_ne.mpr (isWord.noComment x first)
  have length := isWord.wordLength?_eq after 0
  obtain ⟨n, counted⟩ : ∃ n, word.length = n + 1 :=
    ⟨word.length - 1, by have := List.length_pos_iff.mpr isWord.filled; omega⟩
  rw [Nat.zero_add, counted] at length
  have taken : c.rest.take (n + 1) = word := by rw [h, ← counted, List.take_left]
  rw [readWords, noMark, noCommentHere, h, length]
  simp only [Bool.or_self, Bool.false_eq_true, if_false]
  rw [← h, taken, List.reverseAux_eq, List.reverseAux_eq, counted]
  rfl

/-- Behind a word and a gap on its line, reading goes on at the next character. -/
theorem afterWord_gap (margin : Nat) (flow : Bool) {gap : List Char} (filled : gap ≠ [])
    (blank : ∀ x ∈ gap, Text.isGap x = true) {c : Cursor} {rest : List Char}
    (h : c.rest = gap ++ rest) (stops : ∀ x ∈ rest.head?, isSeparator x = false) {fuel : Nat}
    (enough : gap.length ≤ fuel) (text : List Char) :
    afterWord margin flow fuel text c
      = if !flow && (c.forward gap.length).column < margin then
          some ⟨text.reverse, false, c.forward gap.length⟩
        else readWords margin flow fuel text { blanks := gap.reverse } (c.forward gap.length) := by
  have separates : c.at? isSeparator = true := by
    obtain ⟨x, others, rfl⟩ := List.exists_cons_of_ne_nil filled
    rw [Cursor.at?_cons h, isSeparator, blank x List.mem_cons_self, Bool.true_or]
  rw [afterWord, if_pos separates, Gap.readOn_gap h blank stops enough]

/-- What follows the first gap of a plain value would be one by itself. -/
theorem IsPlain.behind {flow : Bool} {word gap more : List Char}
    (plain : IsPlain flow (word ++ (gap ++ more))) (blank : ∀ x ∈ gap, Text.isGap x = true)
    (filled : gap ≠ []) (first : ∀ x ∈ more.head?, Text.isGap x = false) :
    IsPlain flow more where
  begins x head := by
    obtain ⟨-, -, border⟩ := List.isChain_append.mp plain.noComment.right_of_append
    have last : gap.getLast? = some (gap.getLast filled) := List.getLast?_eq_some_getLast filled
    exact ⟨first x head, border _ last x head (blank _ (List.getLast_mem filled))⟩
  filled := by
    rintro rfl
    have last : (word ++ (gap ++ [])).getLast? = some (gap.getLast filled) := by
      rw [List.append_nil, List.getLast?_append, List.getLast?_eq_some_getLast filled,
        Option.some_or]
    have noBlank := (plain.ends _ last).1
    rw [blank _ (List.getLast_mem filled)] at noBlank
    exact absurd noBlank (by decide)
  ends x last := by
    apply plain.ends
    rw [List.getLast?_append, List.getLast?_append, last]
    rfl
  noBreak x mem := plain.noBreak x (by simp [mem])
  noComment := plain.noComment.right_of_append.right_of_append
  noColon := plain.noColon.right_of_append.right_of_append
  noIndicator inFlow x mem := plain.noIndicator inFlow x (by simp [mem])

/-- A plain value begins with a word. -/
theorem IsPlain.exists_word {flow : Bool} {text : List Char} (plain : IsPlain flow text) :
    ∃ word later, text = word ++ later ∧ IsWord flow word ∧
      ∀ x ∈ later.head?, Text.isGap x = true := by
  obtain ⟨word, later, rfl, noGap, first⟩ := Text.exists_run (fun x => !Text.isGap x) text
  have blank : ∀ x ∈ later.head?, Text.isGap x = true := by
    intro x head
    simpa using first x head
  have filled : word ≠ [] := by
    rintro rfl
    obtain ⟨x, others, same⟩ := List.exists_cons_of_ne_nil plain.filled
    have head : x ∈ later.head? := by
      rw [List.nil_append] at same
      rw [same]
      rfl
    have noBlank := (plain.begins x head).1
    rw [blank x head] at noBlank
    exact absurd noBlank (by decide)
  refine ⟨word, later, rfl, ?_, blank⟩
  refine
    { inWord := ?_
      noColon := plain.noColon.left_of_append
      noIndicator := fun inFlow x mem => plain.noIndicator inFlow x (List.mem_append_left later mem)
      ends := ?_
      filled := filled
      noComment := ?_ }
  · intro x mem
    have onLine := plain.noBreak x (List.mem_append_left later mem)
    rw [isSeparator, onLine, Bool.or_false]
    simpa using noGap x mem
  · intro colon
    cases later with
    | nil =>
      rw [List.append_nil] at plain
      exact (plain.ends ':' colon).2 rfl
    | cons y more =>
      obtain ⟨-, -, border⟩ := List.isChain_append.mp plain.noColon
      have noBlank := (border ':' colon y rfl rfl).1
      rw [blank y rfl] at noBlank
      exact absurd noBlank (by decide)
  · intro x head
    exact (plain.begins x (by rwa [List.head?_append_of_ne_nil _ filled])).2

/-- A plain value is a word, alone or before a gap and another plain value. -/
theorem IsPlain.word_cases {flow : Bool} {text : List Char} (plain : IsPlain flow text) :
    ∃ word, IsWord flow word ∧ (text = word ∨
      ∃ gap more, text = word ++ (gap ++ more) ∧ gap ≠ [] ∧ (∀ x ∈ gap, Text.isGap x = true) ∧
        IsPlain flow more) := by
  obtain ⟨word, later, rfl, isWord, blank⟩ := plain.exists_word
  refine ⟨word, isWord, ?_⟩
  cases later with
  | nil => exact .inl (List.append_nil word)
  | cons y others =>
    obtain ⟨gap, more, split, allBlank, solid⟩ := Text.exists_run Text.isGap (y :: others)
    have someBlank : gap ≠ [] := by
      rintro rfl
      rw [List.nil_append] at split
      rw [← split] at solid
      exact absurd ((solid y rfl).symm.trans (blank y rfl)) (by decide)
    rw [split] at plain ⊢
    exact .inr ⟨gap, more, rfl, someBlank, allBlank, plain.behind allBlank someBlank solid⟩

/-- A gap stops before a plain value. -/
theorem IsPlain.stops {flow : Bool} {text : List Char} (plain : IsPlain flow text)
    (rest : List Char) : ∀ x ∈ (text ++ rest).head?, isSeparator x = false := by
  intro x head
  rw [List.head?_append_of_ne_nil _ plain.filled] at head
  have onLine := plain.noBreak x (List.mem_of_mem_head? head)
  rw [isSeparator, (plain.begins x head).1, onLine, Bool.or_self]

/-- A plain value is read to the end of its last word. The induction goes from gap to gap. -/
theorem exists_readWords_text {margin : Nat} {flow : Bool} (text : List Char)
    (plain : IsPlain flow text) {c : Cursor} {rest : List Char} (h : c.rest = text ++ rest)
    (after : WordEnds flow rest) (inLine : 0 < c.column) (deep : flow = true ∨ margin ≤ c.column)
    {fuel : Nat} (enough : text.length ≤ fuel) (before : List Char) (gap : Gap) :
    ∃ fuel', fuel ≤ fuel' + text.length ∧
      readWords margin flow fuel before gap c
        = afterWord margin flow fuel' (text.reverse ++ (gap.fold.reverse ++ before))
            (c.forward text.length) := by
  have noMark := Cursor.atDocumentMark_eq_false inLine
  obtain ⟨word, isWord, rfl | ⟨blanks, more, split, someBlank, allBlank, plainMore⟩⟩ :=
    plain.word_cases
  · have long : 0 < text.length := List.length_pos_iff.mpr isWord.filled
    obtain ⟨fuel, rfl⟩ : ∃ n, fuel = n + 1 := ⟨fuel - 1, by omega⟩
    exact ⟨fuel, by omega, readWords_word margin isWord h after noMark fuel before gap⟩
  · have long : 0 < word.length := List.length_pos_iff.mpr isWord.filled
    have length : text.length = word.length + (blanks.length + more.length) := by
      rw [split, List.length_append, List.length_append]
    obtain ⟨fuel, rfl⟩ : ∃ n, fuel = n + 1 := ⟨fuel - 1, by omega⟩
    rw [split, List.append_assoc, List.append_assoc] at h
    have step := readWords_word margin isWord h (wordEnds_gap someBlank allBlank _) noMark fuel
      before gap
    have behind : (c.forward word.length).rest = blanks ++ (more ++ rest) :=
      Cursor.rest_forward_length h
    have column : ((c.forward word.length).forward blanks.length).column
        = c.column + word.length + blanks.length := rfl
    have inLineThere : 0 < ((c.forward word.length).forward blanks.length).column := by omega
    have deepThere : flow = true ∨
        margin ≤ ((c.forward word.length).forward blanks.length).column :=
      deep.imp_right fun inside => by omega
    have noEnd : (!flow && ((c.forward word.length).forward blanks.length).column < margin)
        = false := by
      rcases deepThere with inFlow | inside
      · rw [inFlow]
        rfl
      · rw [decide_eq_false (Nat.not_lt.mpr inside), Bool.and_false]
    have gapStep := afterWord_gap margin flow someBlank allBlank behind (plainMore.stops rest)
      (by omega : blanks.length ≤ fuel) (word.reverse ++ (gap.fold.reverse ++ before))
    obtain ⟨fuel', left, read⟩ := exists_readWords_text more plainMore
      (Cursor.rest_forward_length behind) after inLineThere deepThere
      (by omega : more.length ≤ fuel) (word.reverse ++ (gap.fold.reverse ++ before))
      { blanks := blanks.reverse }
    refine ⟨fuel', by omega, ?_⟩
    rw [step, gapStep, noEnd, if_neg Bool.false_ne_true, read, split, Gap.fold_blanks,
      Cursor.forward_forward, Cursor.forward_forward]
    simp
termination_by text.length

/-- Reading ends where no word begins. -/
theorem readWords_stop {margin : Nat} {flow : Bool} {c : Cursor}
    (ended : c.at? (· == '#') = true ∨ WordEnds flow c.rest) (fuel : Nat) (text : List Char)
    (gap : Gap) : readWords margin flow fuel text gap c = some ⟨text.reverse, gap.broken, c⟩ := by
  cases fuel with
  | zero => rfl
  | succ fuel =>
    rw [readWords]
    rcases ended with comment | after
    · rw [comment, Bool.or_true, if_pos rfl]
    · rw [after 0]
      exact ite_self _

/-- Behind the last word and a gap, reading ends at a mark on the same line. -/
theorem afterWord_stop (margin : Nat) {flow : Bool} {gap : List Char}
    (blank : ∀ x ∈ gap, Text.isGap x = true) {c : Cursor} {rest : List Char}
    (h : c.rest = gap ++ rest) (stops : ∀ x ∈ rest.head?, isSeparator x = false)
    (ended : WordEnds flow rest) {fuel : Nat} (enough : gap.length ≤ fuel) (text : List Char) :
    afterWord margin flow fuel text c = some ⟨text.reverse, false, c.forward gap.length⟩ := by
  cases gap with
  | nil =>
    have noSeparator : c.at? isSeparator = false := Cursor.at?_eq_false (by rw [h]; exact stops)
    rw [afterWord, noSeparator, List.length_nil, Cursor.forward_zero]
    rfl
  | cons x gap =>
    have behind : (c.forward (x :: gap).length).rest = rest := Cursor.rest_forward_length h
    rw [afterWord_gap margin flow (List.cons_ne_nil x gap) blank h stops enough,
      readWords_stop (.inr (by rwa [behind]))]
    exact ite_self _

/-- Behind the last word, reading ends before the margin, somewhere in what does not count. -/
theorem exists_afterWord_of_passes {here : List Char} {target : Nat} {c : Cursor}
    (passes : Passes here target true c.column c.rest) {margin : Nat}
    (left : here ≠ [] → target < margin) {fuel : Nat} (enough : c.rest.length < fuel)
    (text : List Char) :
    ∃ lineEnded next, afterWord margin false fuel text c = some ⟨text.reverse, lineEnded, next⟩ ∧
      next.rest.length ≤ c.rest.length ∧ Passes here target (!lineEnded) next.column next.rest := by
  cases separates : c.at? isSeparator with
  | false => exact ⟨false, c, by rw [afterWord, separates]; rfl, Nat.le_refl _, passes⟩
  | true =>
    obtain ⟨gap, next, read, less, passes', stops⟩ :=
      Gap.exists_readOn_of_passes (g := {}) passes rfl rfl enough margin rfl
    refine ⟨gap.broken, next, ?_, less, passes'⟩
    rw [afterWord, if_pos separates, read]
    simp only [Bool.not_false, Bool.true_and, decide_eq_true_eq]
    split
    · rfl
    · rename_i deep
      apply readWords_stop
      rcases stops with comment | ⟨ended, column⟩
      · exact .inl comment
      · right
        cases here with
        | nil =>
          rw [ended]
          exact wordEnds_nil false
        | cons x others =>
          rw [column (List.cons_ne_nil x others)] at deep
          exact absurd (left (List.cons_ne_nil x others)) deep

/-- A word ends before what does not count, unless that is a comment. -/
theorem wordEnds_of_passes {here : List Char} {target column : Nat} {rest : List Char}
    (passes : Passes here target true column rest) (apart : ∀ x ∈ rest.head?, x ≠ '#') :
    WordEnds false rest := by
  cases passes with
  | textEnd finished => exact wordEnds_nil false
  | space passes => exact wordEnds_separator (by decide) _
  | tab passes => exact wordEnds_separator (by decide) _
  | comment words noBreak ended passes => exact absurd rfl (apart '#' rfl)
  | lineEnd lineEnd passes => cases lineEnd <;> exact wordEnds_separator (by decide) _

/-- A plain value is read to the end of its last word. -/
theorem exists_read?_text (margin : Nat) {flow : Bool} {text rest : List Char}
    (plain : IsPlain flow text) {c : Cursor} (h : c.rest = text ++ rest)
    (after : WordEnds flow rest) (inLine : 0 < c.column) (deep : flow = true ∨ margin ≤ c.column)
    {fuel : Nat} (enough : text.length ≤ fuel) :
    ∃ fuel', fuel ≤ fuel' + text.length ∧
      read? margin flow fuel c =
        afterWord margin flow fuel' text.reverse (c.forward text.length) := by
  obtain ⟨fuel', fuelLeft, words⟩ :=
    exists_readWords_text text plain h after inLine deep enough [] {}
  refine ⟨fuel', fuelLeft, ?_⟩
  rw [read?, words]
  simp [Gap.fold]

/-- A plain value outside brackets is read, and reading ends before the margin. -/
theorem exists_read?_of_passes {text rest : List Char} (plain : IsPlain false text) {c : Cursor}
    (h : c.rest = text ++ rest) (inLine : 0 < c.column) {margin : Nat} (deep : margin ≤ c.column)
    {here : List Char} {target : Nat}
    (passes : Passes here target true (c.column + text.length) rest)
    (apart : ∀ x ∈ rest.head?, x ≠ '#') (left : here ≠ [] → target < margin) {fuel : Nat}
    (enough : c.rest.length < fuel) :
    ∃ lineEnded next, read? margin false fuel c = some ⟨text, lineEnded, next⟩ ∧
      next.rest.length ≤ rest.length ∧ Passes here target (!lineEnded) next.column next.rest := by
  have behind : (c.forward text.length).rest = rest := Cursor.rest_forward_length h
  rw [h, List.length_append] at enough
  obtain ⟨fuel', fuelLeft, read⟩ := exists_read?_text margin plain h
    (wordEnds_of_passes passes apart) inLine (.inr deep) (by omega : text.length ≤ fuel)
  have passesBehind : Passes here target true (c.forward text.length).column
      (c.forward text.length).rest := by rwa [behind]
  have enoughLeft : (c.forward text.length).rest.length < fuel' := by
    rw [behind]
    omega
  rw [read]
  have ended := exists_afterWord_of_passes passesBehind left enoughLeft text.reverse
  rwa [List.reverse_reverse, behind] at ended

/-- A plain item between brackets is read up to the next mark. -/
theorem read?_item {text gap rest : List Char} (plain : IsPlain true text)
    (blank : ∀ x ∈ gap, Text.isGap x = true) {x : Char} (indicates : isFlowIndicator x = true)
    {c : Cursor} (h : c.rest = text ++ (gap ++ x :: rest)) (inLine : 0 < c.column) (margin : Nat)
    {fuel : Nat} (enough : text.length + gap.length ≤ fuel) :
    read? margin true fuel c = some ⟨text, false, c.forward (text.length + gap.length)⟩ := by
  have stops : ∀ y ∈ (x :: rest).head?, isSeparator y = false := by
    intro y first
    obtain rfl : x = y := Option.some.inj first
    simp only [isFlowIndicator, Bool.or_eq_true, beq_iff_eq] at indicates
    rcases indicates with (((rfl | rfl) | rfl) | rfl) | rfl <;> decide
  have ended : WordEnds true (gap ++ x :: rest) := by
    cases gap with
    | nil => exact wordEnds_indicator indicates rest
    | cons y gap => exact wordEnds_gap (List.cons_ne_nil y gap) blank _
  obtain ⟨fuel', fuelLeft, read⟩ := exists_read?_text margin plain h ended inLine (.inl rfl)
    (by omega : text.length ≤ fuel)
  have behind : (c.forward text.length).rest = gap ++ x :: rest := Cursor.rest_forward_length h
  rw [read, afterWord_stop margin blank behind stops (wordEnds_indicator indicates rest) (by omega),
    Cursor.forward_forward, List.reverse_reverse]

/-- Outside brackets, what holds no colon and no hash sign is a word. -/
theorem isWord_of_forall {word : List Char} (filled : word ≠ [])
    (inWord : ∀ x ∈ word, isSeparator x = false ∧ x ≠ ':' ∧ x ≠ '#') : IsWord false word where
  inWord x mem := (inWord x mem).1
  noColon := by
    refine (List.isChain_isInfix word).imp fun c d inside colon => ?_
    exact absurd colon (inWord c (inside.subset List.mem_cons_self)).2.1
  noIndicator inFlow := absurd inFlow Bool.false_ne_true
  ends last := (inWord ':' (List.mem_of_getLast? last)).2.1 rfl
  filled := filled
  noComment x first := (inWord x (List.mem_of_mem_head? first)).2.2

/-- A key that is one word is read up to its colon. -/
theorem read?_key {word gap rest : List Char} (filled : word ≠ [])
    (inWord : ∀ x ∈ word, isSeparator x = false ∧ x ≠ ':' ∧ x ≠ '#')
    (blank : ∀ x ∈ gap, Text.isGap x = true) (apart : atSeparator rest = true) {c : Cursor}
    (h : c.rest = word ++ (gap ++ ':' :: rest)) (noMark : c.atDocumentMark = false) (margin : Nat)
    {fuel : Nat} (enough : gap.length < fuel) :
    read? margin false fuel c = some ⟨word, false, c.forward (word.length + gap.length)⟩ := by
  obtain ⟨fuel, rfl⟩ : ∃ n, fuel = n + 1 := ⟨fuel - 1, by omega⟩
  have stops : ∀ y ∈ (':' :: rest).head?, isSeparator y = false := by
    intro y first
    obtain rfl : ':' = y := Option.some.inj first
    decide
  have ended : WordEnds false (gap ++ ':' :: rest) := by
    cases gap with
    | nil => exact wordEnds_colon apart
    | cons y gap => exact wordEnds_gap (List.cons_ne_nil y gap) blank _
  have read := readWords_word margin (isWord_of_forall filled inWord) h ended noMark fuel [] {}
  have behind : (c.forward word.length).rest = gap ++ ':' :: rest := Cursor.rest_forward_length h
  rw [read?, read, afterWord_stop margin blank behind stops (wordEnds_colon apart) (by omega),
    Cursor.forward_forward]
  simp [Gap.fold]

end CatalogAudit.Yaml.Plain
