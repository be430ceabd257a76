import CatalogAudit.Glob.Basic

/-!
# Reading file-name patterns

A backslash makes the next character stand for itself, except within brackets, where it is an
ordinary character. Braces hold a choice and may be nested; empty branches do not count.
-/

namespace CatalogAudit.Glob

/-- The bytes of the characters from `first` to `last`. When one of them takes several bytes, only
the last of the first and the first of the last make a range. -/
def byteRange (first last : Char) : Pattern.CharSet :=
  let singles (bytes : List Char) : List (Char × Char) := bytes.map fun b => (b, b)
  if first = last then .ofRanges (singles (bytesOf first))
  else
    let before := bytesOf first
    let behind := bytesOf last
    match before.getLast?, behind.head? with
    | some low, some high =>
      .ofRanges (singles before.dropLast ++ [(low, high)] ++ singles behind.tail)
    | _, _ => .none

/-- The bytes of all ranges of a list. -/
def byteSet (ranges : List (Char × Char)) : Pattern.CharSet :=
  ranges.foldl (fun a r => .union a (byteRange r.1 r.2)) .none

/-- Reads on in a set after `ranges`, which are backwards. The first character always stands for
itself; `open` says that a hyphen has opened the last range again. -/
def readRanges? (first inRange : Bool) (ranges : List (Char × Char)) :
    List Char → Option (List (Char × Char) × List Char)
  | [] => none
  | c :: rest =>
    if c = ']' && !first then
      some (if inRange then ('-', '-') :: ranges else ranges, rest)
    else if c = '-' && !first && !inRange then readRanges? false true ranges rest
    else
      match inRange, ranges with
      | true, (low, _) :: others =>
        if low ≤ c then readRanges? false false ((low, c) :: others) rest else none
      | _, _ => readRanges? false false ((c, c) :: ranges) rest

/-- Reads a set behind its opening bracket. -/
def readSet? (text : List Char) : Option (Pattern.CharSet × List Char) :=
  let (negated, text) : Bool × List Char :=
    match text with
    | '!' :: rest => (true, rest)
    | '^' :: rest => (true, rest)
    | _ => (false, text)
  (readRanges? true false [] text).map fun (ranges, rest) =>
    (.withSign negated (byteSet ranges), rest)

/-- A choice that has been opened. -/
structure OpenChoice where
  /-- The pieces before it, backwards. -/
  before : List Piece
  /-- The branches that are complete, backwards. -/
  branches : List (List Piece)

/-- What has been read. -/
structure Reader where
  /-- The pieces of the innermost branch, backwards. -/
  pieces : List Piece := []
  /-- The open choices, innermost first. -/
  choices : List OpenChoice := []
  /-- The last character read. -/
  last : Option Char := none

namespace Reader

/-- Adds a piece. -/
def push (piece : Piece) (c : Char) (r : Reader) : Reader :=
  { r with pieces := piece :: r.pieces, last := some c }

/-- Opens a choice. -/
def openChoice (r : Reader) : Reader :=
  { pieces := [], choices := { before := r.pieces, branches := [] } :: r.choices, last := some '{' }

/-- Reads a comma: a new branch in a choice, and an ordinary character elsewhere. -/
def comma (r : Reader) : Reader :=
  match r.choices with
  | [] => r.push (.literal ',') ','
  | choice :: outer =>
    { pieces := []
      choices := { choice with branches := r.pieces :: choice.branches } :: outer
      last := some ',' }

/-- Closes the innermost choice. -/
def closeChoice? (r : Reader) : Option Reader :=
  match r.choices with
  | [] => none
  | choice :: outer =>
    let branches := (r.pieces :: choice.branches).reverse
    let patterns := branches.filterMap fun pieces => patternOf? pieces.reverse
    let p : Option Pattern := if patterns.isEmpty then none else some (.altOf patterns)
    some { pieces := .choice p :: choice.before, choices := outer, last := some '}' }

/-- Reads two stars that stand for no more than one does. -/
def plainStars (r : Reader) : Reader := (r.push .many '*').push .many '*'

/-- Reads two stars, behind which `rest` is left, and a slash behind them that belongs to them. They
stand for steps of a path when slashes, the ends of the pattern or those of a branch surround them,
and for any bytes otherwise. -/
def stars (r : Reader) (rest : List Char) : Reader × List Char :=
  let inChoice := !r.choices.isEmpty
  if r.pieces.isEmpty then
    match rest with
    | [] => (r.push .leadingSteps '*', [])
    | '/' :: rest => (r.push .leadingSteps '/', rest)
    | _ => (r.plainStars, rest)
  else if !(r.last = some '/' || (inChoice && (r.last = some ',' || r.last = some '{'))) then
    (r.plainStars, rest)
  else
    let steps (piece : Piece) (last : Char) : Reader :=
      match r.pieces with
      | .leadingSteps :: _ => { r with last := some last }
      | .trailingSteps :: _ => { r with last := some last }
      | _ :: before => { r with pieces := before }.push piece last
      | [] => r.push piece last
    match rest with
    | [] => (steps .trailingSteps '*', [])
    | '/' :: after => (steps .innerSteps '/', after)
    | c :: _ =>
      if inChoice && (c = ',' || c = '}') then (steps .trailingSteps '*', rest)
      else (r.plainStars, rest)

/-- Reads the rest of a pattern. Every step takes a character at least. -/
def run? : (fuel : Nat) → Reader → List Char → Option Reader
  | 0, _, _ => none
  | _, r, [] => some r
  | fuel + 1, r, c :: rest =>
    match c with
    | '?' => run? fuel (r.push .any c) rest
    | '*' =>
      match rest with
      | '*' :: rest =>
        let (r, rest) := r.stars rest
        run? fuel r rest
      | _ => run? fuel (r.push .many c) rest
    | '[' =>
      match readSet? rest with
      | none => none
      | some (a, rest) => run? fuel (r.push (.set a) ']') rest
    | '{' => run? fuel r.openChoice rest
    | '}' =>
      match r.closeChoice? with
      | none => none
      | some r => run? fuel r rest
    | ',' => run? fuel r.comma rest
    | '\\' =>
      match rest with
      | [] => none
      | c :: rest => run? fuel (r.push (.literal c) c) rest
    | c => run? fuel (r.push (.literal c) c) rest

end Reader

/-- The file-name pattern that a text writes. -/
def ofText? (text : List Char) : Option Glob :=
  match Reader.run? (text.length + 1) {} text with
  | some { pieces, choices := [], .. } => some ⟨pieces.reverse⟩
  | _ => none

/-- Whether a name matches one of several patterns. -/
def acceptsAny (globs : List Glob) (name : Name) : Bool := globs.any (·.accepts name)

end CatalogAudit.Glob
