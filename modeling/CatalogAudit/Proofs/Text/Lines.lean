import CatalogAudit.Text.Lines

/-!
# Lines written and read

Lines are written one after the other, each with a line end of its own choice, and read back as they
were. The line end of the last one may be left out; an empty last line is then not there at all. A
text that ends in a line feed has its lines, whatever comes behind it, and spaces in front of each
line are spaces in front of each line that is read.
-/

namespace CatalogAudit.Text

/-- A line end. -/
inductive LineEnd
  /-- A line feed. -/
  | feed
  /-- A carriage return and a line feed. -/
  | returnFeed
deriving DecidableEq, Repr

/-- The characters of a line end. -/
def LineEnd.text : LineEnd → List Char
  | feed => ['\n']
  | returnFeed => ['\r', '\n']

/-- Whether the character belongs to a line end. -/
def isLineEnd (c : Char) : Bool := c == '\n' || c == '\r'

/-- Only a line feed and a carriage return end a line. -/
theorem isLineEnd_eq_false {c : Char} (noFeed : c ≠ '\n') (noReturn : c ≠ '\r') :
    isLineEnd c = false := by
  rw [isLineEnd, Bool.or_eq_false_iff, beq_eq_false_iff_ne, beq_eq_false_iff_ne]
  exact ⟨noFeed, noReturn⟩

/-- The text stands on one line. -/
def OneLine (text : List Char) : Prop := ∀ c ∈ text, isLineEnd c = false

instance (text : List Char) : Decidable (OneLine text) :=
  decidable_of_iff (text.all (fun c => !isLineEnd c) = true) (by simp [OneLine])

/-- The empty text stays on one line. -/
theorem oneLine_nil : OneLine [] := by simp [OneLine]

/-- Two texts stay on one line when each does. -/
theorem oneLine_append {s t : List Char} : OneLine (s ++ t) ↔ OneLine s ∧ OneLine t :=
  List.forall_mem_append

/-- A text stays on one line when its first character and the others do. -/
theorem oneLine_cons {c : Char} {t : List Char} :
    OneLine (c :: t) ↔ isLineEnd c = false ∧ OneLine t := List.forall_mem_cons

/-- The text of lines, of which the one at each position has the line end given. The last one has
none unless the text is `closed`. -/
def written (ends : Nat → LineEnd) (closed : Bool) : List (List Char) → List Char
  | [] => []
  | [line] => if closed then line ++ (ends 0).text else line
  | line :: rest => line ++ (ends 0).text ++ written (fun n => ends (n + 1)) closed rest

/-- The lines without the last one, if that is empty. -/
def withoutEmptyEnd (lines : List (List Char)) : List (List Char) :=
  if lines.getLast? = some [] then lines.dropLast else lines

/-- A stretch of text within a line is passed character by character. -/
theorem linesFrom_append {stretch : List Char} (oneLine : OneLine stretch) (current : List Char)
    (closed : List (List Char)) (rest : List Char) :
    linesFrom current closed (stretch ++ rest)
      = linesFrom (stretch.reverse ++ current) closed rest := by
  induction stretch generalizing current with
  | nil => rfl
  | cons c stretch ih =>
    rw [oneLine_cons] at oneLine
    obtain ⟨inside, oneLine⟩ := oneLine
    have noFeed : c ≠ '\n' := by
      intro feed
      simp [isLineEnd, feed] at inside
    rw [List.cons_append, linesFrom, if_neg noFeed, ih oneLine]
    simp

/-- A line that has no carriage return at its end is closed as it is. -/
theorem closeLine_reverse {line : List Char} (oneLine : OneLine line) :
    closeLine line.reverse = line := by
  cases reversed : line.reverse with
  | nil =>
    rw [List.reverse_eq_nil_iff] at reversed
    rw [reversed]
    rfl
  | cons c before =>
    have inside : isLineEnd c = false := by
      apply oneLine
      rw [← List.mem_reverse, reversed]
      exact List.mem_cons_self
    have noReturn : c ≠ '\r' := by
      intro ret
      simp [isLineEnd, ret] at inside
    have same : line = (c :: before).reverse := by rw [← reversed, List.reverse_reverse]
    rw [same, closeLine.eq_2]
    intro reversed' first
    exact noReturn (List.cons.inj first).1

/-- A line with its line end is read as that line. -/
theorem linesFrom_line {line : List Char} (oneLine : OneLine line) (lineEnd : LineEnd)
    (closed : List (List Char)) (rest : List Char) :
    linesFrom [] closed (line ++ lineEnd.text ++ rest) = linesFrom [] (line :: closed) rest := by
  rw [List.append_assoc, linesFrom_append oneLine, List.append_nil]
  cases lineEnd with
  | feed =>
    rw [LineEnd.text, List.singleton_append, linesFrom, if_pos rfl, closeLine_reverse oneLine]
  | returnFeed =>
    rw [LineEnd.text, List.cons_append, List.singleton_append, linesFrom, if_neg (by decide),
      linesFrom, if_pos rfl, closeLine, List.reverse_reverse]

/-- Lines that were written after others are read back behind them. -/
theorem linesFrom_written (ends : Nat → LineEnd) (closed : Bool) {lines : List (List Char)}
    (oneLine : ∀ line ∈ lines, OneLine line) (before : List (List Char)) :
    linesFrom [] before (written ends closed lines)
      = before.reverse ++ if closed then lines else withoutEmptyEnd lines := by
  induction lines generalizing ends before with
  | nil => simp [written, linesFrom, withoutEmptyEnd]
  | cons line rest ih =>
    rw [List.forall_mem_cons] at oneLine
    cases rest with
    | nil =>
      cases closed with
      | true =>
        have read := linesFrom_line oneLine.1 (ends 0) before []
        rw [List.append_nil] at read
        rw [written, if_pos rfl, read]
        simp [linesFrom]
      | false =>
        have read := linesFrom_append oneLine.1 [] before []
        rw [List.append_nil, List.append_nil] at read
        rw [written, if_neg (by decide), read]
        cases line <;> simp [linesFrom, withoutEmptyEnd]
    | cons next rest =>
      rw [written, linesFrom_line oneLine.1, ih _ oneLine.2]
      · cases closed <;> simp [withoutEmptyEnd]
        split <;> simp
      · simp

/-- Lines that were written are read back as they were, but for an empty one at an open end. -/
theorem lines_written (ends : Nat → LineEnd) (closed : Bool) {lines : List (List Char)}
    (oneLine : ∀ line ∈ lines, OneLine line) :
    Text.lines (written ends closed lines) = if closed then lines else withoutEmptyEnd lines := by
  rw [Text.lines, linesFrom_written ends closed oneLine, List.reverse_nil, List.nil_append]

/-- A text without carriage returns is written as lines that end in line feeds. -/
theorem exists_written {text : List Char} (noReturn : '\r' ∉ text) :
    ∃ lines closed, text = written (fun _ => .feed) closed lines ∧
      (∀ line ∈ lines, OneLine line) ∧ (closed = true ∨ ∃ line ∈ lines.getLast?, line ≠ []) := by
  induction text with
  | nil => exact ⟨[], true, rfl, by simp, .inl rfl⟩
  | cons c text ih =>
    rw [List.mem_cons, not_or] at noReturn
    obtain ⟨lines, closed, same, oneLine, ended⟩ := ih noReturn.2
    by_cases feed : c = '\n'
    · cases lines with
      | nil =>
        have closedEnd : closed = true := by simpa using ended
        refine ⟨[[]], true, ?_, by simp [oneLine_nil], .inl rfl⟩
        rw [same, feed]
        rfl
      | cons line lines =>
        refine ⟨[] :: line :: lines, closed, by rw [same, feed]; rfl, ?_, by simpa using ended⟩
        rw [List.forall_mem_cons]
        exact ⟨oneLine_nil, oneLine⟩
    · have inside : isLineEnd c = false := isLineEnd_eq_false feed (Ne.symm noReturn.1)
      cases lines with
      | nil =>
        refine ⟨[[c]], false, by rw [same]; rfl, ?_, .inr ⟨[c], rfl, List.cons_ne_nil c []⟩⟩
        rw [List.forall_mem_singleton, oneLine_cons]
        exact ⟨inside, oneLine_nil⟩
      | cons line lines =>
        rw [List.forall_mem_cons] at oneLine
        refine ⟨(c :: line) :: lines, closed, ?_, ?_, ?_⟩
        · rw [same]
          cases lines <;> cases closed <;> rfl
        · rw [List.forall_mem_cons, oneLine_cons]
          exact ⟨⟨inside, oneLine.1⟩, oneLine.2⟩
        · cases lines with
          | nil => exact .inr ⟨c :: line, rfl, List.cons_ne_nil c line⟩
          | cons next lines => simpa using ended

/-- A text without carriage returns is its lines with line feeds behind them, the last of which may
be missing. -/
theorem exists_written_lines {text : List Char} (noReturn : '\r' ∉ text) :
    ∃ closed, text = written (fun _ => .feed) closed (lines text) ∧
      ∀ line ∈ lines text, OneLine line := by
  obtain ⟨split, closed, same, oneLine, ended⟩ := exists_written noReturn
  have read : lines text = split := by
    rw [same, lines_written _ closed oneLine]
    cases ended with
    | inl closed => rw [if_pos closed]
    | inr filled =>
      obtain ⟨line, last, filled⟩ := filled
      have kept : withoutEmptyEnd split = split := by
        rw [withoutEmptyEnd, if_neg]
        rintro empty
        rw [empty] at last
        exact filled (Option.mem_some.mp last).symm
      rw [kept, ite_self]
  rw [read]
  exact ⟨closed, same, oneLine⟩

/-- Lines that were read before stay in front of the others. -/
theorem linesFrom_closed (current : List Char) (closed : List (List Char)) (text : List Char) :
    linesFrom current closed text = closed.reverse ++ linesFrom current [] text := by
  induction text generalizing current closed with
  | nil =>
    rw [linesFrom, linesFrom]
    split <;> simp
  | cons c text ih =>
    rw [linesFrom, linesFrom]
    split
    · rw [ih [] (closeLine current :: closed), ih [] [closeLine current], List.reverse_cons,
        List.reverse_singleton, List.append_assoc]
    · exact ih _ _

/-- The lines behind a line feed are lines of their own. -/
theorem linesFrom_append_lines {text : List Char} (ended : text.getLast? = some '\n')
    (current rest : List Char) :
    linesFrom current [] (text ++ rest) = linesFrom current [] text ++ lines rest := by
  induction text generalizing current with
  | nil => cases ended
  | cons c text ih =>
    rw [List.cons_append, linesFrom, linesFrom]
    cases text with
    | nil =>
      have feed : c = '\n' := by simpa using ended
      rw [if_pos feed, if_pos feed, List.nil_append, linesFrom_closed]
      rfl
    | cons d text =>
      have onward := ih (by simpa using ended)
      split
      · rw [linesFrom_closed, linesFrom_closed [] _ (d :: text), onward, List.append_assoc]
      · exact onward _

/-- Behind a line feed other lines begin. -/
theorem lines_append {text : List Char} (ended : text.getLast? = some '\n') (rest : List Char) :
    lines (text ++ rest) = lines text ++ lines rest :=
  linesFrom_append_lines ended [] rest

/-- A text with `k` more spaces in front of each line; `fresh` tells whether a line begins here. -/
def indentFrom (k : Nat) (fresh : Bool) : List Char → List Char
  | [] => []
  | c :: rest => (if fresh then List.replicate k ' ' else []) ++ c :: indentFrom k (c == '\n') rest

/-- The text with `k` more spaces in front of each line. -/
def indent (k : Nat) (text : List Char) : List Char := indentFrom k true text

/-- A line with spaces in front of it is closed like the line. -/
theorem closeLine_append_spaces (k : Nat) (current : List Char) :
    closeLine (current ++ List.replicate k ' ') = List.replicate k ' ' ++ closeLine current := by
  have reversed : ∀ text : List Char, (text ++ List.replicate k ' ').reverse
      = List.replicate k ' ' ++ text.reverse := by simp
  cases current with
  | nil =>
    cases k with
    | zero => rfl
    | succ k => exact reversed []
  | cons c current =>
    by_cases ret : c = '\r'
    · rw [ret]
      exact reversed current
    · have other : ∀ text, closeLine (c :: text) = (c :: text).reverse := by
        intro text
        rw [closeLine.eq_2]
        intro _ first
        exact ret (List.cons.inj first).1
      rw [List.cons_append, other, other]
      exact reversed (c :: current)

/-- Indenting a text indents its lines, those it begins with and the one it goes on with. -/
theorem linesFrom_indentFrom (k : Nat) (text : List Char) :
    (linesFrom [] [] (indentFrom k true text)
        = (linesFrom [] [] text).map (List.replicate k ' ' ++ ·)) ∧
      ∀ current ≠ [], linesFrom (current ++ List.replicate k ' ') [] (indentFrom k false text)
        = (linesFrom current [] text).map (List.replicate k ' ' ++ ·) := by
  have spaces : OneLine (List.replicate k ' ') := by
    intro c mem
    rw [List.eq_of_mem_replicate mem]
    rfl
  induction text with
  | nil =>
    refine ⟨rfl, ?_⟩
    intro current filled
    simp [indentFrom, linesFrom, filled]
  | cons c text ih =>
    obtain ⟨fresh, stale⟩ := ih
    -- From here on the line that is being read holds the spaces and what was read of it before.
    have onward : ∀ current,
        linesFrom (current ++ List.replicate k ' ') [] (c :: indentFrom k (c == '\n') text)
          = (linesFrom current [] (c :: text)).map (List.replicate k ' ' ++ ·) := by
      intro current
      rw [linesFrom, linesFrom]
      by_cases feed : c = '\n'
      · rw [if_pos feed, if_pos feed, feed, linesFrom_closed,
          linesFrom_closed [] [closeLine current], closeLine_append_spaces, List.map_append]
        exact congrArg _ fresh
      · rw [if_neg feed, if_neg feed, beq_eq_false_iff_ne.mpr feed]
        exact stale (c :: current) (List.cons_ne_nil c current)
    constructor
    · have start := onward []
      rw [List.nil_append] at start
      rw [indentFrom, if_pos rfl, linesFrom_append spaces, List.append_nil, List.reverse_replicate]
      exact start
    · intro current filled
      rw [indentFrom, if_neg Bool.false_ne_true, List.nil_append]
      exact onward current

/-- The lines of an indented text are the lines of the text with the spaces in front. -/
theorem lines_indent (k : Nat) (text : List Char) :
    lines (indent k text) = (lines text).map (List.replicate k ' ' ++ ·) :=
  (linesFrom_indentFrom k text).1

end CatalogAudit.Text
