import CatalogAudit.Proofs.Manifest.Resolution
import CatalogAudit.Proofs.Text.Blank
import CatalogAudit.Proofs.Text.Escape
import CatalogAudit.Proofs.Text.Lines

/-!
# Ways to write a value

A manifest says the same thing in many layouts. Here are those of a single value and of a key: in
double quotes with any mix of characters and escapes, in single quotes, or plain. A way of writing
is data that carries what makes it well-formed; it has a text, which stands in the document, and a
value, which the text stands for. Nothing here reads anything.
-/

namespace CatalogAudit.Manifest.Layout

/-- Spaces and tabs. -/
structure Gap where
  /-- The characters. -/
  text : List Char
  /-- They are nothing else. -/
  each : ∀ c ∈ text, c = ' ' ∨ c = '\t'

/-- The readers take every character of a gap for one. -/
theorem Gap.blank (gap : Gap) : ∀ c ∈ gap.text, Text.isGap c = true :=
  fun c mem => Text.isGap_iff.mpr (gap.each c mem)

/-- No gap at all. -/
def Gap.none : Gap := ⟨[], by simp⟩

/-- A run of spaces. -/
def spaces (n : Nat) : List Char := List.replicate n ' '

/-- A gap of spaces. -/
def Gap.spaces (n : Nat) : Gap := ⟨Layout.spaces n, by simp [Layout.spaces]⟩

/-- One character between double quotes. -/
inductive Piece
  /-- The character itself. -/
  | literal (c : Char) (inside : c ≠ '"' ∧ c ≠ '\\' ∧ Text.isLineEnd c = false)
  /-- A backslash and the letter for the character. -/
  | letter (letter c : Char) (listed : (letter, c.toNat) ∈ Text.escapeTable)
  /-- A backslash, a letter that says how many digits follow, and the number of the character. -/
  | number (letter : Char) (digits : List Char) (c : Char)
      (announced : (letter, digits.length) ∈ Text.widthTable)
      (code : Text.HexNumber digits c.toNat)

namespace Piece

/-- What stands in the document. -/
def text : Piece → List Char
  | literal c _ => [c]
  | letter l _ _ => ['\\', l]
  | number l digits _ _ _ => '\\' :: l :: digits

/-- The character meant. -/
def char : Piece → Char
  | literal c _ => c
  | letter _ c _ => c
  | number _ _ c _ _ => c

end Piece

/-- A value between quotes. -/
inductive Quoted
  /-- Between double quotes. -/
  | double (pieces : List Piece)
  /-- Between single quotes. -/
  | single (value : List Char) (oneLine : Text.OneLine value)

namespace Quoted

/-- A character between single quotes, where the quote itself is written twice. -/
def doubled (c : Char) : List Char := if c = '\'' then ['\'', '\''] else [c]

/-- What stands in the document. -/
def text : Quoted → List Char
  | double pieces => '"' :: (pieces.flatMap Piece.text ++ ['"'])
  | single value _ => '\'' :: (value.flatMap doubled ++ ['\''])

/-- The value meant. -/
def value : Quoted → List Char
  | double pieces => pieces.map Piece.char
  | single value _ => value

end Quoted

/-- Characters with which no plain value begins: quotes, the hash sign, and those that begin other
markup. -/
def isReserved (c : Char) : Bool := "\"'#&*!|>%@\x60,[]\x7b\x7d".toList.contains c

/-- Characters that a plain item of a list in brackets does not hold. -/
def isFlowMark (c : Char) : Bool := ",[]\x7b\x7d".toList.contains c

/-- A text that may stand without quotes. -/
structure Bare where
  /-- White space before the value, apart from spaces and tabs right before it. -/
  before : List Char
  /-- The value. -/
  text : List Char
  /-- White space behind the value, apart from spaces and tabs at its end. -/
  after : List Char
  /-- What surrounds the value is white space of any kind. -/
  padding : ∀ c ∈ before ++ after, Text.isBlank c = true
  /-- What surrounds the value does not begin in a space or tab. -/
  beforeSolid : ∀ c ∈ before.head?, Text.isGap c = false
  /-- What surrounds the value does not end in a space or tab. -/
  afterSolid : ∀ c ∈ after.getLast?, Text.isGap c = false
  /-- It is not empty. -/
  filled : text ≠ []
  /-- All of it stands on one line. -/
  oneLine : Text.OneLine (before ++ text ++ after)
  /-- It does not begin with white space. -/
  begins : ∀ c ∈ text.head?, Text.isBlank c = false
  /-- It does not end in white space. -/
  ends : ∀ c ∈ text.getLast?, Text.isBlank c = false
  /-- It does not begin with a character that has another meaning there. -/
  unreserved : ∀ c ∈ text.head?, isReserved c = false
  /-- No hyphen or question mark at its beginning stands alone. -/
  unmarked : ∀ c rest, text = c :: rest → c = '-' ∨ c = '?' →
    rest ≠ [] ∧ ∀ d ∈ rest.head?, Text.isBlank d = false
  /-- No colon is followed by a space or a tab. -/
  noKey : ∀ c, c = ' ' ∨ c = '\t' → ¬[':', c] <:+: text
  /-- No colon ends it. -/
  noColon : text.getLast? ≠ some ':'
  /-- No hash sign follows white space. -/
  noComment : ∀ c, Text.isBlank c = true → ¬[c, '#'] <:+: text

/-- What stands in the document. -/
def Bare.whole (b : Bare) : List Char := b.before ++ b.text ++ b.after

/-- Nothing but spaces and tabs surrounds the value. -/
def Bare.Trim (b : Bare) : Prop := b.before = [] ∧ b.after = []

/-- A value without quotes that is a string. -/
structure Plain extends Bare where
  /-- Its spelling is not that of the null value, a truth value or a number. -/
  string : Line.IsString text
  /-- Neither is that of all that stands in the document. -/
  wholeString : Line.IsString toBare.whole

/-- A value on one line. -/
inductive Scalar
  /-- Between quotes. -/
  | quoted (q : Quoted)
  /-- Without quotes. -/
  | plain (p : Plain)

namespace Scalar

/-- What stands in the document. -/
def text : Scalar → List Char
  | quoted q => q.text
  | plain p => p.whole

/-- The value meant. -/
def value : Scalar → List Char
  | quoted q => q.value
  | plain p => p.text

/-- What stands in the document from the first character on that is not white space. -/
def core : Scalar → List Char
  | quoted q => q.text
  | plain p => p.text ++ p.after

/-- Nothing but spaces and tabs surrounds the value. -/
def Trim : Scalar → Prop
  | quoted _ => True
  | plain p => p.Trim

/-- The value may be written that way inside brackets. -/
def FlowSafe : Scalar → Prop
  | quoted _ => True
  | plain p => ∀ c ∈ p.text, isFlowMark c = false

end Scalar

/-- What may follow the last value on a line. -/
inductive Tail
  /-- Nothing, or blanks. -/
  | blank (gap : Gap)
  /-- A comment, which blanks set apart. -/
  | comment (gap : Gap) (apart : gap.text ≠ []) (words : List Char) (oneLine : Text.OneLine words)

/-- What stands in the document. -/
def Tail.text : Tail → List Char
  | blank gap => gap.text
  | comment gap _ words _ => gap.text ++ '#' :: words

/-- The blanks before any comment. -/
def Tail.gap : Tail → Gap
  | blank gap => gap
  | comment gap _ _ _ => gap

/-- A name that needs no quotes: one or more small letters. -/
def IsWord (name : List Char) : Prop := name ≠ [] ∧ ∀ c ∈ name, 'a' ≤ c ∧ c ≤ 'z'

instance (name : List Char) : Decidable (IsWord name) :=
  decidable_of_iff (name ≠ [] ∧ name.all (fun c => 'a' ≤ c && c ≤ 'z') = true) (by simp [IsWord])

/-- How the name of a key is written. -/
inductive Spelling (name : List Char)
  /-- As it is. -/
  | bare
  /-- Between quotes. -/
  | quoted (q : Quoted) (same : q.value = name)

/-- What stands in the document. -/
def Spelling.text {name : List Char} : Spelling name → List Char
  | bare => name
  | quoted q _ => q.text

/-- A key with its colon. -/
structure Key (name : List Char) where
  /-- How its name is written. -/
  spelling : Spelling name
  /-- What stands before the colon. -/
  gap : Gap

/-- What stands in the document. -/
def Key.text {name : List Char} (key : Key name) : List Char :=
  key.spelling.text ++ key.gap.text ++ [':']

end CatalogAudit.Manifest.Layout
