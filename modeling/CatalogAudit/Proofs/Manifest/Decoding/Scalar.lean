import CatalogAudit.Proofs.Manifest.Decoding.Quoted
import CatalogAudit.Proofs.Manifest.Layout.Bare

/-!
# Values read as they were written

Every way to write a value is read back as that value, whatever follows it on its line. The leaves
come first: text between quotes and comments; then plain values and whole lines.
-/

namespace CatalogAudit.Manifest.Line

open Layout

/-- A gap is blank. -/
theorem isBlank_text_gap (gap : Gap) : ∀ c ∈ gap.text, Text.isBlank c = true := by
  intro c mem
  exact Text.isBlank_of_isGap (gap.blank c mem)

/-- One piece of a value in double quotes stands for its character. -/
theorem stands_piece (piece : Piece) : Stands piece.text piece.char := by
  cases piece with
  | literal c inside => exact .literal ⟨inside.1, inside.2.1⟩
  | letter l c listed => exact .letter listed
  | number l digits c announced code => exact .number announced code

/-- The pieces of a string spell its characters. -/
theorem spelled_pieces (pieces : List Piece) :
    Text.Spelled Stands (pieces.flatMap Piece.text) (pieces.map Piece.char) := by
  induction pieces with
  | nil => exact .nil
  | cons piece pieces ih =>
    rw [List.flatMap_cons, List.map_cons]
    exact .cons (stands_piece piece) ih

/-- A way to put a value between quotes gives a literal of that value. -/
theorem quotes_text (q : Quoted) : Quotes q.text q.value := by
  cases q with
  | double pieces => exact .double (spelled_pieces pieces)
  | single value oneLine => exact .single value

/-- A value between quotes is read as itself, before anything but a single quote. -/
theorem readQuoted_text (q : Quoted) {rest : List Char}
    (after : Text.startsWith (· == '\'') rest = false) :
    readQuoted (q.text ++ rest) = .ok (q.value, rest) :=
  readQuoted_of_quotes (quotes_text q) fun _ => after

/-- A stretch in which no comment begins is passed character by character. -/
theorem exists_stripCommentFrom_append {stretch : List Char}
    (noComment : stretch.IsChain fun c d => Text.isBlank c = true → d ≠ '#') {free : Bool}
    (start : free = true → stretch.head? ≠ some '#') (reversed rest : List Char) :
    ∃ later, stripCommentFrom free reversed (stretch ++ rest)
      = stripCommentFrom later (stretch.reverse ++ reversed) rest := by
  induction stretch generalizing free reversed with
  | nil => exact ⟨free, rfl⟩
  | cons c stretch ih =>
    rw [List.isChain_cons] at noComment
    obtain ⟨next, noComment⟩ := noComment
    have here : (c == '#' && free) = false := by
      cases free with
      | false => simp
      | true =>
        have other := start rfl
        simp only [List.head?_cons, ne_eq, Option.some.injEq] at other
        simp [other]
    have onward : Text.isBlank c = true → stretch.head? ≠ some '#' := by
      intro blank hash
      exact next '#' hash blank rfl
    obtain ⟨later, passed⟩ := ih noComment onward (c :: reversed)
    refine ⟨later, ?_⟩
    rw [List.cons_append, stripCommentFrom, here, if_neg Bool.false_ne_true, passed]
    simp

/-- Blanks are passed, and a comment may begin behind them. -/
theorem stripCommentFrom_gap {gap : List Char} (h : ∀ c ∈ gap, Text.isGap c = true) (free : Bool)
    (reversed rest : List Char) :
    stripCommentFrom free reversed (gap ++ rest)
      = stripCommentFrom (free || !gap.isEmpty) (gap.reverse ++ reversed) rest := by
  induction gap generalizing free reversed with
  | nil => simp
  | cons c gap ih =>
    rw [List.forall_mem_cons] at h
    have noHash : (c == '#' && free) = false := by
      have gap := h.1
      rw [Text.isGap, Bool.or_eq_true, beq_iff_eq, beq_iff_eq] at gap
      cases gap with
      | inl space => simp [space]
      | inr tab => simp [tab]
    rw [List.cons_append, stripCommentFrom, noHash, if_neg Bool.false_ne_true, ih h.2,
      Text.isBlank_of_isGap h.1]
    simp

/-- What follows a value is cut down to its blanks. -/
theorem stripCommentFrom_tail (tail : Tail) (free : Bool) (reversed : List Char) :
    stripCommentFrom free reversed tail.text = reversed.reverse ++ tail.gap.text := by
  cases tail with
  | blank gap =>
    have passed := stripCommentFrom_gap gap.blank free reversed []
    rw [List.append_nil] at passed
    rw [Tail.text, passed, stripCommentFrom, Tail.gap]
    simp
  | comment gap apart words oneLine =>
    have filled : (free || !gap.text.isEmpty) = true := by
      cases text : gap.text with
      | nil => exact absurd text apart
      | cons => simp
    rw [Tail.text, stripCommentFrom_gap gap.blank, stripCommentFrom, filled, Tail.gap]
    simp

/-- What was passed already stays. -/
theorem exists_stripCommentFrom_eq (free : Bool) (reversed text : List Char) :
    ∃ kept, stripCommentFrom free reversed text = reversed.reverse ++ kept := by
  induction text generalizing free reversed with
  | nil => exact ⟨[], by simp [stripCommentFrom]⟩
  | cons c text ih =>
    rw [stripCommentFrom]
    split
    · exact ⟨[], by simp⟩
    · obtain ⟨kept, same⟩ := ih (Text.isBlank c) (c :: reversed)
      exact ⟨c :: kept, by simp [same]⟩

/-- A text that begins with something else than a blank or a comment counts. -/
theorem isSpent_cons {c : Char} (solid : Text.isBlank c = false) (noComment : c ≠ '#')
    (rest : List Char) : isSpent (c :: rest) = false := by
  obtain ⟨kept, same⟩ := exists_stripCommentFrom_eq (Text.isBlank c) [c] rest
  have here : (c == '#' && true) = false := by simp [noComment]
  rw [isSpent, stripComment, stripCommentFrom, here, if_neg Bool.false_ne_true, same]
  simp [Text.isBlankText, solid]

/-- Nothing counts in what follows a value. -/
theorem isSpent_tail (tail : Tail) : isSpent tail.text = true := by
  rw [isSpent, stripComment, stripCommentFrom_tail, List.reverse_nil, List.nil_append,
    Text.isBlankText, List.all_eq_true]
  exact isBlank_text_gap tail.gap

/-- A value without quotes that is followed by blanks and a comment is cut down to itself. -/
theorem trimEnd_stripComment_bare (b : Bare) (tail : Tail) :
    Text.trimEnd (stripComment (b.text ++ (b.after ++ tail.text))) = b.text := by
  have noHash : '#' ∉ b.after := by
    intro hash
    exact (ne_of_isBlank (b.isBlank_after _ hash)).1 rfl
  have noCommentAfter : b.after.IsChain fun c d => Text.isBlank c = true → d ≠ '#' := by
    apply (List.isChain_isInfix b.after).imp
    intro c d pair _ hash
    rw [hash] at pair
    exact noHash (pair.subset (by simp))
  obtain ⟨free, passed⟩ :=
    exists_stripCommentFrom_append b.isChain_noComment (fun _ => b.head?_ne_hash) []
      (b.after ++ tail.text)
  have startAfter : free = true → b.after.head? ≠ some '#' := by
    intro _ hash
    exact noHash (List.mem_of_mem_head? hash)
  obtain ⟨later, passedAfter⟩ :=
    exists_stripCommentFrom_append noCommentAfter startAfter (b.text.reverse ++ []) tail.text
  rw [stripComment, passed, passedAfter, stripCommentFrom_tail, List.append_nil,
    List.reverse_append, List.reverse_reverse, List.reverse_reverse,
    Text.trimEnd_append (isBlank_text_gap tail.gap), Text.trimEnd_append (b.isBlank_after),
    Text.trimEnd_eq_self b.ends]

/-- What begins markup begins no plain scalar. -/
theorem isReserved_of_isMarkup {c : Char} (h : isMarkup c = true) : isReserved c = true := by
  simp only [isMarkup, Bool.or_eq_true, beq_iff_eq] at h
  simp only [isReserved, List.contains_iff_mem]
  aesop

/-- A quote begins no plain scalar. -/
theorem isReserved_of_isQuote {c : Char} (h : isQuote c = true) : isReserved c = true := by
  simp only [isQuote, Bool.or_eq_true, beq_iff_eq] at h
  cases h with
  | inl double => rw [double]; decide
  | inr single => rw [single]; decide

/-- A bracket or a brace begins no plain scalar. -/
theorem isReserved_of_opens {c : Char} (h : (c == '[' || c == '{') = true) :
    isReserved c = true := by
  rw [Bool.or_eq_true, beq_iff_eq, beq_iff_eq] at h
  cases h with
  | inl bracket => rw [bracket]; decide
  | inr brace => rw [brace]; decide

/-- No value without quotes begins with markup of another kind, whatever follows it. -/
theorem checkPlainStart_bare (b : Bare) (rest : List Char) :
    checkPlainStart (b.text ++ rest) = .ok () := by
  have unreserved := b.unreserved
  have unmarked := b.unmarked
  cases text : b.text with
  | nil => exact absurd text b.filled
  | cons c others =>
    have noMarkup : ¬isMarkup c = true := by
      intro markup
      have reserved := isReserved_of_isMarkup markup
      rw [unreserved c (by simp [text])] at reserved
      exact Bool.false_ne_true reserved
    have noMark : ¬((c == '-' || c == '?')
        && ((others ++ rest).isEmpty || Text.startsWith (· == ' ') (others ++ rest))) = true := by
      intro mark
      rw [Bool.and_eq_true, Bool.or_eq_true, beq_iff_eq, beq_iff_eq] at mark
      obtain ⟨filled, next⟩ := unmarked c others text mark.1
      cases others with
      | nil => exact filled rfl
      | cons d others =>
        have solid := next d rfl
        have space : d = ' ' := by simpa [Text.startsWith] using mark.2
        rw [space] at solid
        exact absurd solid (by decide)
    rw [List.cons_append, checkPlainStart, if_neg noMarkup, if_neg noMark]

/-- Where a colon counts as that of a key, it stands right before a character that makes it so. -/
theorem exists_infix_of_hasColonBefore {next : Char → Bool} {text : List Char}
    (h : hasColonBefore next text = true) : ∃ c, next c = true ∧ [':', c] <:+: text := by
  induction text with
  | nil => simp [hasColonBefore] at h
  | cons c text ih =>
    rw [hasColonBefore, Bool.or_eq_true] at h
    cases h with
    | inl here =>
      rw [Bool.and_eq_true, beq_iff_eq] at here
      cases text with
      | nil => simp [Text.startsWith] at here
      | cons d text =>
        refine ⟨d, here.2, [], text, ?_⟩
        rw [here.1]
        rfl
    | inr later =>
      obtain ⟨d, counts, inside⟩ := ih later
      exact ⟨d, counts, inside.trans (List.suffix_cons c text).isInfix⟩

/-- In bare text no colon stands before a gap. -/
theorem hasColonBefore_bare (b : Bare) : hasColonBefore Text.isGap b.text = false := by
  rw [← Bool.not_eq_true]
  intro colon
  obtain ⟨c, gap, inside⟩ := exists_infix_of_hasColonBefore colon
  exact b.noKey c (Text.isGap_iff.mp gap) inside

/-- Bare text does not end in a colon. -/
theorem endsIn_colon_bare (b : Bare) : endsIn ':' b.text = false := by
  rw [endsIn, beq_eq_false_iff_ne]
  exact b.noColon

/-- The value that a text without quotes has by its spelling. -/
def spelledValue (text : List Char) : RawValue :=
  match spelledType? text with
  | some type => .other type
  | none => .text (String.ofList text)

/-- A value without quotes is read by its spelling. -/
theorem plainValue_bare (b : Bare) : plainValue b.text = .ok (spelledValue b.text) := by
  have start := checkPlainStart_bare b []
  rw [List.append_nil] at start
  have unreserved := b.unreserved
  unfold plainValue
  split
  · rename_i empty
    exact absurd empty b.filled
  · rename_i bracket
    have reserved := unreserved '[' (by simp [bracket])
    exact absurd reserved (by decide)
  · rename_i brace
    have reserved := unreserved '\x7b' (by simp [brace])
    exact absurd reserved (by decide)
  · rw [start]
    simp only [hasColonBefore_bare, endsIn_colon_bare, Bool.or_self, Bool.false_eq_true, if_false,
      spelledValue]
    cases spelledType? b.text <;> rfl

/-- A string without quotes is read as itself. -/
theorem plainValue_plain (p : Plain) : plainValue p.text = .ok (.text (String.ofList p.text)) := by
  rw [plainValue_bare, spelledValue, spelledType?_eq_none_iff.mpr p.string]

/-- A value without quotes begins with no character of a kind that is reserved. -/
theorem startsWith_bare (b : Bare) {kind : Char → Bool}
    (reserved : ∀ c, kind c = true → isReserved c = true) (rest : List Char) :
    Text.startsWith kind (b.text ++ rest) = false := by
  apply Text.startsWith_append_eq_false
  · intro c first
    rw [← Bool.not_eq_true]
    intro here
    have reserved := reserved c here
    rw [b.unreserved c first] at reserved
    exact Bool.false_ne_true reserved
  · intro empty
    exact absurd empty b.filled

/-- A string in quotes begins with a quote. -/
theorem startsWith_isQuote_quoted (q : Quoted) (rest : List Char) :
    Text.startsWith isQuote (q.text ++ rest) = true := by
  cases q <;> simp [Quoted.text, Text.startsWith, isQuote]

/-- A value begins with no blank, no hash sign and no closing bracket. -/
theorem exists_core (s : Scalar) :
    ∃ c others, s.core = c :: others ∧ Text.isBlank c = false ∧ c ≠ '#' ∧ c ≠ ']' := by
  cases s with
  | quoted q =>
    cases q with
    | double pieces => exact ⟨'"', _, rfl, by decide⟩
    | single value oneLine => exact ⟨'\'', _, rfl, by decide⟩
  | plain p =>
    have begins := p.begins
    have unreserved := p.unreserved
    cases text : p.text with
    | nil => exact absurd text p.filled
    | cons c others =>
      rw [text] at begins unreserved
      refine ⟨c, others ++ p.after, by simp [Scalar.core, text], begins c rfl, ?_⟩
      constructor <;> rintro rfl <;> exact absurd (unreserved _ rfl) (by decide)

/-- A scalar begins with no blank, so nothing is trimmed from it. -/
theorem trimStart_core (s : Scalar) (rest : List Char) :
    Text.trimStart (s.core ++ rest) = s.core ++ rest := by
  obtain ⟨c, others, text, solid, -⟩ := exists_core s
  rw [text]
  exact Text.trimStart_cons solid (others ++ rest)

/-- White space in front of a value is cut off, whatever kind it is of. -/
theorem trimStart_scalar (s : Scalar) (rest : List Char) :
    Text.trimStart (s.text ++ rest) = s.core ++ rest := by
  cases s with
  | quoted q => exact trimStart_core (.quoted q) rest
  | plain p =>
    have whole : (Scalar.plain p).text ++ rest = p.before ++ ((Scalar.plain p).core ++ rest) := by
      simp [Scalar.text, Scalar.core, Bare.whole]
    rw [whole, Text.trimStart_append (p.isBlank_before), trimStart_core]

/-- What is left of the blanks behind a value is nothing, or a comment. -/
theorem trimStart_tail (tail : Tail) :
    Text.trimStart tail.text = [] ∨ ∃ words, Text.trimStart tail.text = '#' :: words := by
  have blank := isBlank_text_gap tail.gap
  cases tail with
  | blank gap =>
    left
    exact Text.trimStart_of_forall blank
  | comment gap apart words oneLine =>
    right
    refine ⟨words, ?_⟩
    rw [Tail.gap] at blank
    rw [Tail.text]
    exact Text.trimStart_append_cons blank rfl words

/-- What follows a value has nothing more to say. -/
theorem isSpent_trimStart_tail (tail : Tail) : isSpent (Text.trimStart tail.text) = true := by
  cases trimStart_tail tail with
  | inl empty => rw [empty]; decide
  | inr comment =>
    obtain ⟨words, comment⟩ := comment
    rw [comment]
    rfl

/-- No single quote comes after blanks where none comes without them. -/
theorem startsWith_quote_gap (gap : Gap) {rest : List Char}
    (after : Text.startsWith (· == '\'') rest = false) :
    Text.startsWith (· == '\'') (gap.text ++ rest) = false := by
  apply Text.startsWith_append_eq_false
  · intro c first
    have blank := gap.blank c (List.mem_of_mem_head? first)
    rw [beq_eq_false_iff_ne]
    rintro rfl
    exact absurd blank (by decide)
  · intro _
    exact after

/-- A single quote does not follow a value. -/
theorem startsWith_quote_tail (tail : Tail) :
    Text.startsWith (· == '\'') tail.text = false := by
  cases tail with
  | blank gap =>
    have none : Text.startsWith (· == '\'') (gap.text ++ []) = false :=
      startsWith_quote_gap gap rfl
    rwa [List.append_nil] at none
  | comment gap apart words oneLine => exact startsWith_quote_gap gap rfl

/-- A value without quotes that fills the rest of its line is read by its spelling. -/
theorem scalarValue_bare {gap : List Char} (h : ∀ c ∈ gap, Text.isBlank c = true) (b : Bare)
    (tail : Tail) :
    scalarValue (gap ++ (b.whole ++ tail.text)) = .ok (spelledValue b.text) := by
  have start : Text.trimStart (gap ++ (b.whole ++ tail.text))
      = b.text ++ (b.after ++ tail.text) := by
    have whole : b.whole ++ tail.text = b.before ++ (b.text ++ (b.after ++ tail.text)) := by
      simp [Bare.whole]
    rw [Text.trimStart_append h, whole, Text.trimStart_append b.isBlank_before]
    apply Text.trimStart_eq_self
    rw [List.head?_append_of_ne_nil _ b.filled]
    exact b.begins
  have unquoted := startsWith_bare b (fun _ => isReserved_of_isQuote) (b.after ++ tail.text)
  rw [scalarValue, start]
  simp only [unquoted, Bool.false_eq_true, if_false]
  rw [trimEnd_stripComment_bare b tail, plainValue_bare]

/-- A value that fills the rest of its line is read as it was written. -/
theorem scalarValue_text {gap : List Char} (h : ∀ c ∈ gap, Text.isBlank c = true) (s : Scalar)
    (tail : Tail) :
    scalarValue (gap ++ (s.text ++ tail.text)) = .ok (.text (String.ofList s.value)) := by
  cases s with
  | quoted q =>
    have start : Text.trimStart (gap ++ ((Scalar.quoted q).text ++ tail.text))
        = (Scalar.quoted q).core ++ tail.text := by
      rw [Text.trimStart_append h, trimStart_scalar]
    have read := readQuoted_text q (startsWith_quote_tail tail)
    rw [scalarValue, start]
    simp only [Scalar.core, Scalar.value, startsWith_isQuote_quoted, if_true, read]
    cases trimStart_tail tail with
    | inl empty => simp [empty]
    | inr comment =>
      obtain ⟨words, comment⟩ := comment
      simp [comment, Text.startsWith]
  | plain p =>
    have read := scalarValue_bare h p.toBare tail
    rw [spelledValue, spelledType?_eq_none_iff.mpr p.string] at read
    exact read

end CatalogAudit.Manifest.Line
