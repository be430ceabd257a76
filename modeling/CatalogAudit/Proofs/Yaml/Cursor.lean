import CatalogAudit.Yaml.Cursor
import CatalogAudit.Proofs.Text.Lines

/-!
# Going on in a text

Where a place leads when a stretch of the text is passed, character by character or at once, and
when a line end is read.
-/

namespace CatalogAudit.Yaml

namespace Cursor

/-- Going on drops characters. -/
theorem rest_forward (c : Cursor) (n : Nat) : (c.forward n).rest = c.rest.drop n := rfl

/-- Going on moves the column. -/
theorem column_forward (c : Cursor) (n : Nat) : (c.forward n).column = c.column + n := rfl

/-- Going on twice is going on. -/
theorem forward_forward (c : Cursor) (m n : Nat) :
    (c.forward m).forward n = c.forward (m + n) := by
  simp [forward, List.drop_drop, Nat.add_assoc]

/-- Going on by nothing is staying. -/
theorem forward_zero (c : Cursor) : c.forward 0 = c := by
  simp [forward]

/-- What is left behind a stretch of a text. -/
theorem rest_forward_length {c : Cursor} {stretch rest : List Char} (h : c.rest = stretch ++ rest) :
    (c.forward stretch.length).rest = rest := by
  rw [rest_forward, h, List.drop_left]

/-- One character on, the rest is ahead. -/
theorem rest_forward_one {c : Cursor} {x : Char} {rest : List Char} (h : c.rest = x :: rest) :
    (c.forward 1).rest = rest := by
  rw [rest_forward, h, List.drop_one, List.tail_cons]

/-- A character that counts is passed. -/
theorem skipWhile_cons {p : Char → Bool} {c : Cursor} {x : Char} {rest : List Char}
    (h : c.rest = x :: rest) (counts : p x = true) :
    c.skipWhile p = (c.forward 1).skipWhile p := by
  simp only [skipWhile, forward, h, List.drop_succ_cons, List.drop_zero,
    List.dropWhile_cons_of_pos counts, List.takeWhile_cons_of_pos counts, List.length_cons,
    Cursor.mk.injEq, true_and]
  omega

/-- Where the next character does not count, nothing is passed. -/
theorem skipWhile_eq_self {p : Char → Bool} {c : Cursor}
    (h : ∀ x ∈ c.rest.head?, p x = false) : c.skipWhile p = c := by
  obtain ⟨rest, index, line, column⟩ := c
  cases rest with
  | nil => rfl
  | cons x rest =>
    have none : ¬p x = true := by simp [h x rfl]
    simp only [skipWhile, List.dropWhile_cons_of_neg none, List.takeWhile_cons_of_neg none,
      List.length_nil, Nat.add_zero]

/-- A stretch that counts is passed up to what does not. -/
theorem skipWhile_append {p : Char → Bool} {c : Cursor} {stretch rest : List Char}
    (h : c.rest = stretch ++ rest) (counts : ∀ x ∈ stretch, p x = true)
    (stops : ∀ x ∈ rest.head?, p x = false) : c.skipWhile p = c.forward stretch.length := by
  induction stretch generalizing c with
  | nil =>
    rw [List.nil_append] at h
    rw [List.length_nil, forward_zero, skipWhile_eq_self]
    rwa [h]
  | cons x stretch ih =>
    rw [List.forall_mem_cons] at counts
    have next : (c.forward 1).rest = stretch ++ rest := rest_forward_one h
    rw [skipWhile_cons h counts.1, ih next counts.2, forward_forward, List.length_cons,
      Nat.add_comm]

/-- What is next is the first character of the text ahead. -/
theorem at?_cons {c : Cursor} {x : Char} {rest : List Char} (h : c.rest = x :: rest)
    (p : Char → Bool) : c.at? p = p x := by
  rw [at?, h]
  rfl

/-- Where no next character counts, none is next. -/
theorem at?_eq_false {p : Char → Bool} {c : Cursor} (h : ∀ x ∈ c.rest.head?, p x = false) :
    c.at? p = false := by
  rw [at?]
  cases rest : c.rest with
  | nil => rfl
  | cons x others => exact h x (by simp [rest])

/-- A line end is read as one line feed, and the next line begins. -/
theorem readBreak_lineEnd {c : Cursor} {lineEnd : Text.LineEnd} {rest : List Char}
    (h : c.rest = lineEnd.text ++ rest) :
    c.readBreak = (['\n'], ⟨rest, c.index + lineEnd.text.length, c.line + 1, 0⟩) := by
  cases lineEnd with
  | feed => simp [readBreak, h, Text.LineEnd.text, isBreak]
  | returnFeed => simp [readBreak, h, Text.LineEnd.text]

/-- A line end is a break. -/
theorem at?_lineEnd {c : Cursor} {lineEnd : Text.LineEnd} {rest : List Char}
    (h : c.rest = lineEnd.text ++ rest) : c.at? isBreak = true := by
  cases lineEnd <;> simp [at?, h, Text.LineEnd.text, Text.startsWith, isBreak]

/-- No mark of a document stands within a line. -/
theorem atMark_eq_false {c : Cursor} (inLine : 0 < c.column) (mark : Char) :
    c.atMark mark = false := by
  have noMargin : (c.column == 0) = false := beq_eq_false_iff_ne.mpr (Nat.ne_of_gt inLine)
  rw [atMark, noMargin, Bool.false_and]

/-- No mark of a document begins with another character. -/
theorem atMark_eq_false_of_ne {c : Cursor} {x : Char} {rest : List Char} (h : c.rest = x :: rest)
    {mark : Char} (other : x ≠ mark) : c.atMark mark = false := by
  rw [atMark, h, Bool.and_eq_false_iff]
  right
  split
  · rename_i y z v others same
    rw [beq_eq_false_iff_ne.mpr ((List.cons.inj same).1 ▸ other)]
    rfl
  · rfl

/-- No mark of a document begins with a character that is set apart from what follows. -/
theorem atMark_eq_false_of_apart {c : Cursor} {x : Char} {rest : List Char}
    (h : c.rest = x :: rest) (apart : atSeparator rest = true) {mark : Char}
    (solid : isSeparator mark = false) : c.atMark mark = false := by
  rw [atMark, h, Bool.and_eq_false_iff]
  right
  split
  · rename_i y z v others same
    have separates : isSeparator z = true := by
      rw [(List.cons.inj same).2] at apart
      exact apart
    have other : z ≠ mark := by
      rintro rfl
      rw [separates] at solid
      cases solid
    rw [beq_eq_false_iff_ne.mpr other, Bool.and_false]
    rfl
  · rfl

/-- Within a line there is no mark of a document. -/
theorem atDocumentMark_eq_false {c : Cursor} (inLine : 0 < c.column) :
    c.atDocumentMark = false := by
  rw [atDocumentMark, atMark_eq_false inLine, atMark_eq_false inLine, Bool.false_or]

end Cursor

end CatalogAudit.Yaml
