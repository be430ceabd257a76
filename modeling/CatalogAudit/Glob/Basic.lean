import CatalogAudit.Path
import CatalogAudit.Pattern.Matching

/-!
# File-name patterns

A file-name pattern describes whole names byte by byte, in UTF-8. It is turned into a text pattern
whose characters are bytes. A star stands for any bytes, slashes included; two stars that fill a
step of a path stand for any number of steps.
-/

namespace CatalogAudit

namespace Glob

/-- A byte as a character. -/
def byteCharacter (b : UInt8) : Char := Char.ofNat b.toNat

/-- The bytes of a character, each as a character of its own. -/
def bytesOf (c : Char) : List Char := (String.utf8EncodeChar c).map byteCharacter

/-- One piece of a file-name pattern. -/
inductive Piece
  /-- A character that stands for itself. -/
  | literal (c : Char)
  /-- Any byte. -/
  | any
  /-- Any bytes. -/
  | many
  /-- Any steps at the beginning. -/
  | leadingSteps
  /-- Any steps at the end, at least one. -/
  | trailingSteps
  /-- Any steps in between. -/
  | innerSteps
  /-- A byte of a set. -/
  | set (a : Pattern.CharSet)
  /-- A choice between patterns; none when all of them are empty. -/
  | choice (p : Option Pattern)
deriving DecidableEq, Repr

/-- Any bytes. -/
def anything : Pattern := .repeated 0 none true (.one .any)

/-- A slash. -/
def slash : Pattern := .one (.single '/')

/-- What a piece stands for, if it stands for anything. -/
def Piece.pattern? : Piece → Option Pattern
  | .literal c => some (.seqOf ((bytesOf c).map fun b => .one (.single b)))
  | .any => some (.one .any)
  | .many => some anything
  | .leadingSteps => some (.alt (.repeated 0 (some 1) true slash) (.seq anything slash))
  | .trailingSteps => some (.seq slash anything)
  | .innerSteps => some (.alt slash (.seq slash (.seq anything slash)))
  | .set a => some (.one a)
  | .choice p => p

/-- What pieces stand for together, if they stand for anything. -/
def patternOf? (pieces : List Piece) : Option Pattern :=
  match pieces.filterMap Piece.pattern? with
  | [] => none
  | patterns => some (.seqOf patterns)

end Glob

/-- A file-name pattern. -/
structure Glob where
  /-- Its pieces. -/
  pieces : List Glob.Piece
deriving DecidableEq, Repr

namespace Glob

/-- The pattern that a whole name must match. -/
def pattern (g : Glob) : Pattern :=
  if g.pieces = [.leadingSteps] then anything else (patternOf? g.pieces).getD .empty

/-- Whether a piece is a character that stands for itself. -/
def Piece.isLiteral : Piece → Bool
  | .literal _ => true
  | _ => false

/-- Whether a piece is a character for itself other than a slash. -/
def Piece.isNameLiteral : Piece → Bool
  | .literal c => c != '/'
  | _ => false

/-- Whether the pieces are any steps and then a name. -/
def isNameAnywhere : List Piece → Bool
  | .leadingSteps :: name => !name.isEmpty && name.all Piece.isNameLiteral
  | _ => false

/-- Whether the pieces are any bytes and then a dot and a name without dots; there may be any steps
before. -/
def isExtension (pieces : List Piece) : Bool :=
  let pieces :=
    match pieces with
    | .leadingSteps :: rest => rest
    | _ => pieces
  match pieces with
  | .many :: .literal '.' :: name =>
    name.all fun piece => piece.isNameLiteral && piece != .literal '.'
  | _ => false

/-- Whether the pieces are characters for themselves and then anything. -/
def isBeginning (pieces : List Piece) : Bool :=
  match pieces.reverse with
  | .many :: start => start.all Piece.isLiteral && !start.isEmpty
  | .trailingSteps :: start => start.all Piece.isLiteral
  | start => start.all Piece.isLiteral && !start.isEmpty

/-- Whether the pieces are anything and then characters for themselves. -/
def isEnding (pieces : List Piece) : Bool :=
  let (stepped, pieces) : Bool × List Piece :=
    match pieces with
    | .leadingSteps :: rest => (true, rest)
    | _ => (false, pieces)
  let ending : List Piece :=
    match pieces with
    | .many :: rest => rest
    | _ => pieces
  !pieces.isEmpty && ending.all Piece.isLiteral && !ending.isEmpty
    && (stepped || ending != [.literal '/'])

/-- Whether the pieces end in a dot and a name without dots. -/
def endsInExtension (pieces : List Piece) : Bool :=
  match pieces.reverse.dropWhile fun piece => piece.isNameLiteral && piece != .literal '.' with
  | .literal '.' :: _ => true
  | _ => false

/-- Whether the last step of a path decides, which must then be a name. -/
def needsName (g : Glob) : Bool :=
  if isNameAnywhere g.pieces then true
  else if g.pieces.all Piece.isLiteral then false
  else if isExtension g.pieces then true
  else if isBeginning g.pieces || isEnding g.pieces then false
  else endsInExtension g.pieces

/-- What follows the last slash. -/
def lastStep (name : Name) : Name := (name.reverse.takeWhile (· != Path.slash)).reverse

/-- Whether a whole name matches. -/
def accepts (g : Glob) (name : Name) : Bool :=
  let place : Pattern.Place := { rest := name.map byteCharacter }
  !(g.needsName && lastStep name = [Path.dot, Path.dot])
    && (g.pattern.trails { place }).any fun trail => trail.place.rest.isEmpty

end Glob

end CatalogAudit
