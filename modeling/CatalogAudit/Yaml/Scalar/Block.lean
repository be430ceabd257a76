import CatalogAudit.Number.Decimal
import CatalogAudit.Yaml.Cursor

/-!
# Block scalars

A block scalar is the indented lines below its indicator. A literal one keeps its line ends. In a
folded one the end of a line that begins without a blank is a space, when the next line begins
without one too. A header after the indicator may say how far the lines are indented below their
parent, and what becomes of the line ends behind the last line.
-/

namespace CatalogAudit.Yaml.Block

/-- What becomes of line ends behind the last line. -/
inductive Chomping
  /-- All of them go. -/
  | strip
  /-- The first stays. -/
  | clip
  /-- All of them stay. -/
  | keep
deriving DecidableEq

/-- Reads the sign for the line ends, if there is one. -/
def readChomping (c : Cursor) : Chomping × Cursor :=
  match c.rest with
  | '+' :: _ => (.keep, c.forward 1)
  | '-' :: _ => (.strip, c.forward 1)
  | _ => (.clip, c)

/-- Reads the digit for the indentation, if there is one; it must not be zero. -/
def readIncrement? (c : Cursor) : Option (Nat × Cursor) :=
  match c.rest with
  | '0' :: _ => none
  | x :: _ => if Number.isDigit x then some (Number.digitValue x, c.forward 1) else some (0, c)
  | [] => some (0, c)

/-- What the header of a block scalar says. -/
structure Header where
  /-- What becomes of the last line ends. -/
  chomping : Chomping
  /-- By how much the lines are indented below their parent; zero when the lines show it. -/
  increment : Nat
  /-- The beginning of the next line. -/
  next : Cursor

/-- Reads the header: sign and digit in either order, blanks, a comment and the line end. -/
def readHeader? (c : Cursor) : Option Header :=
  let (early, c) := readChomping c
  match readIncrement? c with
  | none => none
  | some (increment, c) =>
    let (chomping, c) := if early = .clip && increment != 0 then readChomping c else (early, c)
    let c := c.skipWhile Text.isGap
    let c := if c.at? (· == '#') then c.toLineEnd else c
    if atLineEnd c.rest then some ⟨chomping, increment, c.readBreak.2⟩ else none

/-- Line ends before a line with content. -/
structure Blanks where
  /-- The line ends, backwards. -/
  breaks : List Char
  /-- The greatest column up to which blanks went. -/
  widest : Nat
  /-- The place behind them. -/
  next : Cursor

/-- Reads blank lines. Blanks count as indentation up to column `indent`, or without limit when
that is zero; a tab among them is refused. -/
def readBlanks? (indent : Nat) : (fuel : Nat) → Blanks → Option Blanks
  | 0, b => some b
  | fuel + 1, b =>
    let spaces := (b.next.rest.takeWhile (· == ' ')).length
    let indented :=
      if indent = 0 then b.next.forward spaces
      else b.next.forward (min spaces (indent - b.next.column))
    let widest := max b.widest indented.column
    if (indent = 0 || indented.column < indent) && indented.at? (· == '\t') then none
    else if indented.at? isBreak then
      let (lineEnd, next) := indented.readBreak
      readBlanks? indent fuel ⟨lineEnd ++ b.breaks, widest, next⟩
    else some ⟨b.breaks, widest, indented⟩

/-- The lines of a block scalar read so far. -/
structure Lines where
  /-- The text up to the last line, backwards. -/
  text : List Char := []
  /-- The line end of the last line. -/
  lineEnd : List Char := []
  /-- The line ends after it, backwards. -/
  breaks : List Char
  /-- Whether the last line begins with a blank. -/
  indented : Bool := false

/-- Reads the lines that begin at column `indent`. -/
def readLines? (folded : Bool) (indent : Nat) :
    (fuel : Nat) → Lines → Cursor → Option (Lines × Cursor)
  | 0, lines, c => some (lines, c)
  | fuel + 1, lines, c =>
    if c.column = indent && !c.rest.isEmpty then
      let indented := c.at? Text.isGap
      let joint :=
        if folded && lines.lineEnd = ['\n'] && !lines.indented && !indented then
          if lines.breaks.isEmpty then [' '] else []
        else lines.lineEnd
      let content := c.rest.takeWhile fun x => !isBreak x
      let text := content.reverseAux (lines.breaks ++ joint.reverseAux lines.text)
      let (lineEnd, next) := c.toLineEnd.readBreak
      match readBlanks? indent fuel ⟨[], 0, next⟩ with
      | none => none
      | some blanks =>
        readLines? folded indent fuel ⟨text, lineEnd, blanks.breaks, indented⟩ blanks.next
    else some (lines, c)

/-- The text of all lines, with the last line ends treated as the header says. -/
def Lines.finish (chomping : Chomping) (lines : Lines) : List Char :=
  match chomping with
  | .strip => lines.text.reverse
  | .clip => lines.text.reverse ++ lines.lineEnd
  | .keep => lines.text.reverse ++ lines.lineEnd ++ lines.breaks.reverse

/-- Reads the block scalar whose indicator stands here: its text and the place behind it. `margin`
is the least column at which content of the parent may stand. -/
def read? (margin fuel : Nat) (c : Cursor) : Option (List Char × Cursor) :=
  let folded := c.at? (· == '>')
  match readHeader? (c.forward 1) with
  | none => none
  | some header =>
    let stated := if header.increment = 0 then 0 else margin - 1 + header.increment
    match readBlanks? stated fuel ⟨[], 0, header.next⟩ with
    | none => none
    | some blanks =>
      let indent := if stated = 0 then max blanks.widest (max margin 1) else stated
      match readLines? folded indent fuel { breaks := blanks.breaks } blanks.next with
      | none => none
      | some (lines, next) => some (lines.finish header.chomping, next)

end CatalogAudit.Yaml.Block
