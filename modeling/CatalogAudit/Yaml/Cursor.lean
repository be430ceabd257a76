import CatalogAudit.Text.Blank

/-!
# Places in a markup text

A place is what is left of the text, together with its line, its column and its distance from the
beginning, all counted in characters from zero. Markup knows two blanks, the space and the tab, and
six line ends: line feed, carriage return, the pair of both, next line, and the line and paragraph
separators. All of them but the separators stand for a line feed.
-/

namespace CatalogAudit.Yaml

/-- Characters that a markup text may hold at all. -/
def isAllowed (c : Char) : Bool :=
  let n := c.toNat
  n == 0x09 || n == 0x0A || n == 0x0D || (0x20 ≤ n && n ≤ 0x7E) || n == 0x85
    || (0xA0 ≤ n && n ≤ 0xD7FF) || (0xE000 ≤ n && n ≤ 0xFFFD) || 0x10000 ≤ n

/-- Whether the character ends a line. -/
def isBreak (c : Char) : Bool :=
  c == '\n' || c == '\r' || c == '\u0085' || c == '\u2028' || c == '\u2029'

/-- Whether the character is a blank or ends a line. -/
def isSeparator (c : Char) : Bool := Text.isGap c || isBreak c

/-- Letters, digits, the low line and the hyphen, which make up names. -/
def isNameCharacter (c : Char) : Bool :=
  ('0' ≤ c && c ≤ '9') || ('A' ≤ c && c ≤ 'Z') || ('a' ≤ c && c ≤ 'z') || c == '_' || c == '-'

/-- Whether the text is at its end or begins with a blank or a line end. -/
def atSeparator : List Char → Bool
  | [] => true
  | c :: _ => isSeparator c

/-- Whether the text is at its end or begins with a line end. -/
def atLineEnd : List Char → Bool
  | [] => true
  | c :: _ => isBreak c

/-- A place in a text. -/
structure Cursor where
  /-- What is left of the text. -/
  rest : List Char
  /-- How many characters came before. -/
  index : Nat := 0
  /-- How many lines came before. -/
  line : Nat := 0
  /-- How many characters of the line came before. -/
  column : Nat := 0
deriving Repr

namespace Cursor

/-- The place `n` characters further on the same line. -/
def forward (c : Cursor) (n : Nat) : Cursor :=
  { c with rest := c.rest.drop n, index := c.index + n, column := c.column + n }

/-- The place after all characters that satisfy `p`, none of which ends a line. -/
def skipWhile (p : Char → Bool) (c : Cursor) : Cursor :=
  { c with
    rest := c.rest.dropWhile p
    index := c.index + (c.rest.takeWhile p).length
    column := c.column + (c.rest.takeWhile p).length }

/-- The place at the end of the line. -/
def toLineEnd (c : Cursor) : Cursor := c.skipWhile fun x => !isBreak x

/-- Reads a line end: the character that it stands for, and the beginning of the next line. At any
other place nothing is read. -/
def readBreak (c : Cursor) : List Char × Cursor :=
  match c.rest with
  | '\r' :: '\n' :: rest => (['\n'], ⟨rest, c.index + 2, c.line + 1, 0⟩)
  | x :: rest =>
    if x == '\u2028' || x == '\u2029' then ([x], ⟨rest, c.index + 1, c.line + 1, 0⟩)
    else if isBreak x then (['\n'], ⟨rest, c.index + 1, c.line + 1, 0⟩)
    else ([], c)
  | [] => ([], c)

/-- Whether the place is the margin of a line that begins with three of `mark` and nothing else
behind them. -/
def atMark (mark : Char) (c : Cursor) : Bool :=
  c.column == 0 &&
    match c.rest with
    | x :: y :: z :: rest => x == mark && y == mark && z == mark && atSeparator rest
    | _ => false

/-- Whether a mark that begins or ends a document stands here. -/
def atDocumentMark (c : Cursor) : Bool := c.atMark '-' || c.atMark '.'

/-- Whether the next character satisfies `p`. -/
def at? (p : Char → Bool) (c : Cursor) : Bool := Text.startsWith p c.rest

end Cursor

/-- Blanks and line ends between two pieces of a value. -/
structure Gap where
  /-- Whether a line ended, after which blanks no longer count. -/
  broken : Bool := false
  /-- The blanks before any line end, backwards. -/
  blanks : List Char := []
  /-- The first line end, if any. -/
  first : List Char := []
  /-- The line ends after it, backwards. -/
  more : List Char := []

namespace Gap

/-- What the gap contributes to the value: blanks as they are, a single line feed as a space,
several as all but the first. -/
def fold (g : Gap) : List Char :=
  if g.broken then
    if g.first = ['\n'] then
      if g.more.isEmpty then [' '] else g.more.reverse
    else g.first ++ g.more.reverse
  else g.blanks.reverse

/-- Reads on to the next character that is neither blank nor line end. A tab that stands left of
column `margin` after a line end is refused. `fuel` bounds the number of characters. -/
def readOn (margin : Nat) : (fuel : Nat) → Gap → Cursor → Option (Gap × Cursor)
  | 0, g, c => some (g, c)
  | fuel + 1, g, c =>
    match c.rest with
    | [] => some (g, c)
    | x :: _ =>
      if Text.isGap x then
        if g.broken && c.column < margin && x == '\t' then none
        else if g.broken then readOn margin fuel g (c.forward 1)
        else readOn margin fuel { g with blanks := x :: g.blanks } (c.forward 1)
      else if isBreak x then
        let (lineEnd, next) := c.readBreak
        if g.broken then readOn margin fuel { g with more := lineEnd ++ g.more } next
        else readOn margin fuel { g with broken := true, blanks := [], first := lineEnd } next
      else some (g, c)

end Gap

end CatalogAudit.Yaml
