import CatalogAudit.Manifest.Line.Fault
import CatalogAudit.Text.Escape

/-!
# Quoted values on one line

A value in single quotes holds any characters, with a quote written twice. A value in double
quotes holds any characters but the double quote and the backslash, which is followed by a letter
for a control or by the number of a character in two, four or eight hexadecimal digits. Either kind
ends on the line on which it begins. What follows the closing quote is handed back.
-/

namespace CatalogAudit.Manifest.Line

/-- The character that exactly `width` hexadecimal digits name. -/
def readHex (width : Nat) (digits : List Char) : Except Fault Char :=
  if Text.isHexOf width digits then
    match Text.charOfCodePoint? (Number.readDigits 16 digits) with
    | some c => .ok c
    | none => .error (.invalidCodePoint digits)
  else .error (.invalidHex digits)

/-- Reads what follows a backslash: the character meant, and the text after it. -/
def readEscape : List Char → Except Fault (Char × List Char)
  | [] => .error .unclosedQuote
  | letter :: rest =>
    match Text.letterEscape? letter with
    | some c => .ok (c, rest)
    | none =>
      match Text.escapeWidth? letter with
      | some width =>
        match readHex width (rest.take width) with
        | .ok c => .ok (c, rest.drop width)
        | .error fault => .error fault
      | none => .error (.unknownEscape letter)

/-- Reading an escape leaves a shorter text behind. -/
theorem readEscape_length {text rest : List Char} {c : Char} (h : readEscape text = .ok (c, rest)) :
    rest.length < text.length := by
  cases text with
  | nil => simp [readEscape] at h
  | cons letter tail =>
    simp only [readEscape] at h
    split at h
    · simp_all
    · split at h
      · split at h
        · simp only [Except.ok.injEq, Prod.mk.injEq] at h
          rw [← h.2, List.length_drop, List.length_cons]
          omega
        · simp at h
      · simp at h

/-- Reads a value after its opening single quote. `value` is what was read so far, backwards. -/
def readSingle (value : List Char) : List Char → Except Fault (List Char × List Char)
  | [] => .error .unclosedQuote
  | '\'' :: '\'' :: rest => readSingle ('\'' :: value) rest
  | '\'' :: rest => .ok (value.reverse, rest)
  | c :: rest => readSingle (c :: value) rest

/-- Reads a value after its opening double quote. `value` is what was read so far, backwards. -/
def readDouble (value : List Char) (text : List Char) : Except Fault (List Char × List Char) :=
  match text with
  | [] => .error .unclosedQuote
  | c :: rest =>
    if c = '"' then .ok (value.reverse, rest)
    else if c = '\\' then
      match _taken : readEscape rest with
      | .error fault => .error fault
      | .ok (decoded, after) => readDouble (decoded :: value) after
    else readDouble (c :: value) rest
termination_by text.length
decreasing_by
  · have := readEscape_length _taken
    simp only [List.length_cons]
    omega
  · simp

/-- Whether the character opens a quoted value. -/
def isQuote (c : Char) : Bool := c == '"' || c == '\''

/-- Reads the quoted value at the beginning of a text: the value, and what follows it. -/
def readQuoted : List Char → Except Fault (List Char × List Char)
  | '\'' :: rest => readSingle [] rest
  | '"' :: rest => readDouble [] rest
  | _ => .error .unclosedQuote

/-- Reading a string in single quotes leaves a shorter text behind. -/
theorem readSingle_length {value text decoded rest : List Char}
    (h : readSingle value text = .ok (decoded, rest)) : rest.length < text.length := by
  fun_induction readSingle value text with
  | case1 => simp at h
  | case2 value rest' ih =>
    have := ih h
    simp only [List.length_cons]
    omega
  | case3 value rest' _ =>
    simp only [Except.ok.injEq, Prod.mk.injEq] at h
    simp [h.2]
  | case4 value c rest' _ _ ih =>
    have := ih h
    simp only [List.length_cons]
    omega

/-- Reading a string in double quotes leaves a shorter text behind. -/
theorem readDouble_length {value text decoded rest : List Char}
    (h : readDouble value text = .ok (decoded, rest)) : rest.length < text.length := by
  fun_induction readDouble value text with
  | case1 => simp at h
  | case2 value rest' =>
    simp only [Except.ok.injEq, Prod.mk.injEq] at h
    simp [h.2]
  | case3 => simp at h
  | case4 value rest' decoded' after taken _ ih =>
    have := ih h
    have := readEscape_length taken
    simp only [List.length_cons]
    omega
  | case5 value c rest' _ _ ih =>
    have := ih h
    simp only [List.length_cons]
    omega

/-- A quoted value takes at least one character off the text. -/
theorem readQuoted_length {text value rest : List Char} (h : readQuoted text = .ok (value, rest)) :
    rest.length < text.length := by
  unfold readQuoted at h
  split at h
  · have := readSingle_length h
    simp only [List.length_cons]
    omega
  · have := readDouble_length h
    simp only [List.length_cons]
    omega
  · simp at h

end CatalogAudit.Manifest.Line
