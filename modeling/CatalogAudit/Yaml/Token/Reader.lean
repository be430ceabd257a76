import CatalogAudit.Yaml.Directive
import CatalogAudit.Yaml.Scalar.Block
import CatalogAudit.Yaml.Scalar.Plain
import CatalogAudit.Yaml.Scalar.Quoted

/-!
# Cutting markup into tokens

The reader goes through a text once. Two things make it more than a lexer. Indentation opens and
closes block collections; the reader keeps the margins of the open ones, where a margin is the least
column at which content may stand, one more than the column of the collection itself. And a key is
known as such only at its colon; so the reader remembers, for the block context and for every open
flow collection, the last place where a key may have begun, and when a colon comes it puts the key
mark in there, and before it the beginning of a mapping where the key opens one. A remembered key
lapses at the end of its line or after 1024 characters.
-/

namespace CatalogAudit.Yaml

/-- A place where a key may have begun. -/
structure PendingKey where
  /-- Whether the place can hold nothing but a key. -/
  required : Bool
  /-- How many tokens came before. -/
  position : Nat
  /-- How many characters came before. -/
  index : Nat
  /-- The line of the place. -/
  line : Nat
  /-- The column of the place. -/
  column : Nat

namespace Token

/-- What a reader of tokens knows while it goes through a text. -/
structure Reader where
  /-- The place reached. -/
  cursor : Cursor
  /-- The margins of the open block collections, innermost first. -/
  margins : List Nat := []
  /-- The pending key of the innermost collection, if any. -/
  pending : Option PendingKey := none
  /-- The pending keys of the collections around it; flow collections only have others around
  them. -/
  outer : List (Option PendingKey) := []
  /-- Whether a key may begin at the next token. -/
  keyAllowed : Bool := true
  /-- The tokens read, backwards. -/
  tokens : List Token := []
  /-- Number of the tokens read. -/
  count : Nat := 0

namespace Reader

/-- Whether the place is inside a flow collection. -/
def inFlow (r : Reader) : Bool := !r.outer.isEmpty

/-- The least column at which content may stand. -/
def margin (r : Reader) : Nat := r.margins.headD 0

/-- Adds a token. -/
def emit (token : Token) (r : Reader) : Reader :=
  { r with tokens := token :: r.tokens, count := r.count + 1 }

/-- Inserts tokens, given in their order, so that `position` tokens come before them. -/
def insertAt (position : Nat) (inserted : List Token) (r : Reader) : Reader :=
  let (later, earlier) := r.tokens.splitAt (r.count - position)
  { r with tokens := later ++ inserted.reverseAux earlier, count := r.count + inserted.length }

/-- Moves to a later place. -/
def goTo (cursor : Cursor) (r : Reader) : Reader := { r with cursor }

/-- Says whether a key may come next. -/
def allowKey (keyAllowed : Bool) (r : Reader) : Reader := { r with keyAllowed }

/-- Forgets the pending key, which must not be one that is required. -/
def dropKey? (r : Reader) : Option Reader :=
  match r.pending with
  | some place => if place.required then none else some { r with pending := none }
  | none => some r

/-- Remembers the place as one where a key may begin, if keys are allowed here. -/
def saveKey? (r : Reader) : Option Reader :=
  if r.keyAllowed then
    r.dropKey?.map fun r =>
      { r with
        pending := some
          { required := !r.inFlow && r.margin == r.cursor.column + 1
            position := r.count
            index := r.cursor.index
            line := r.cursor.line
            column := r.cursor.column } }
  else some r

/-- Whether a key can no longer have begun at the place when `c` is reached. -/
def hasLapsed (c : Cursor) (place : PendingKey) : Bool :=
  place.line < c.line || place.index + 1024 < c.index

/-- Forgets the pending key if it has lapsed; a required one must not lapse. The keys of outer
collections are looked at when the collections around the place have ended. -/
def refreshKey? (r : Reader) : Option Reader :=
  match r.pending with
  | some place => if hasLapsed r.cursor place then r.dropKey? else some r
  | none => some r

/-- Opens a block collection at a column that no open one has reached. -/
def openBlock (start : Token) (r : Reader) : Reader :=
  if !r.inFlow && r.margin ≤ r.cursor.column then
    { r with margins := (r.cursor.column + 1) :: r.margins }.emit start
  else r

/-- Closes the block collections whose margin is beyond `limit`. -/
def closeBlocks (limit : Nat) (r : Reader) : Reader :=
  if r.inFlow then r
  else
    let closed := (r.margins.takeWhile fun margin => limit < margin).length
    { r with
      margins := r.margins.drop closed
      tokens := (List.replicate closed .blockEnd) ++ r.tokens
      count := r.count + closed }

/-- Reads over blanks, comments and line ends. In the block context a key may follow a line end.
A tab is no blank where a key may begin in the block context, and a byte order mark is one at the
beginning of a line. -/
def skipIgnored (flow : Bool) : (fuel : Nat) → (keyAllowed : Bool) → Cursor → Bool × Cursor
  | 0, keyAllowed, c => (keyAllowed, c)
  | fuel + 1, keyAllowed, c =>
    let c := if c.column == 0 && c.at? (· == '\uFEFF') then c.forward 1 else c
    let c := c.skipWhile fun x => x == ' ' || ((flow || !keyAllowed) && x == '\t')
    let c := if c.at? (· == '#') then c.toLineEnd else c
    if c.at? isBreak then skipIgnored flow fuel (!flow || keyAllowed) c.readBreak.2
    else (keyAllowed, c)

/-- Reads a directive or a mark that begins or ends a document: both end all block collections. -/
def atMargin? (r : Reader) (read : Cursor → Option (Token × Cursor)) : Option Reader := do
  let r ← (r.closeBlocks 0).dropKey?
  let (token, next) ← read r.cursor
  return ((r.allowKey false).emit token).goTo next

/-- Reads the beginning of a flow collection. -/
def openFlow? (token : Token) (r : Reader) : Option Reader := do
  let r ← r.saveKey?
  let r := { r with pending := none, outer := r.pending :: r.outer, keyAllowed := true }
  return (r.emit token).goTo (r.cursor.forward 1)

/-- Reads the end of a flow collection. -/
def closeFlow? (token : Token) (r : Reader) : Option Reader := do
  let r ← r.dropKey?
  let r :=
    match r.outer with
    | pending :: outer => { r with pending, outer }
    | [] => r
  return ((r.allowKey false).emit token).goTo (r.cursor.forward 1)

/-- Reads a comma. -/
def flowEntry? (r : Reader) : Option Reader := do
  let r ← r.dropKey?
  return ((r.allowKey true).emit .flowEntry).goTo (r.cursor.forward 1)

/-- Reads the hyphen of an item. -/
def blockEntry? (r : Reader) : Option Reader := do
  if !r.inFlow && !r.keyAllowed then none
  let r ← (r.openBlock .blockSequenceStart).dropKey?
  return ((r.allowKey true).emit .blockEntry).goTo (r.cursor.forward 1)

/-- Reads the question mark of a key. -/
def key? (r : Reader) : Option Reader := do
  if !r.inFlow && !r.keyAllowed then none
  let r ← (r.openBlock .blockMappingStart).dropKey?
  return ((r.allowKey (!r.inFlow)).emit .key).goTo (r.cursor.forward 1)

/-- Puts the key mark in at the place where a key is now known to have begun. -/
def completeKey (place : PendingKey) (r : Reader) : Reader :=
  let r := { r with pending := none, keyAllowed := false }
  if !r.inFlow && r.margin ≤ place.column then
    { r with margins := (place.column + 1) :: r.margins }.insertAt place.position
      [.blockMappingStart, .key]
  else r.insertAt place.position [.key]

/-- Reads the colon of a value. -/
def value? (r : Reader) : Option Reader := do
  match r.pending with
  | some place => return ((r.completeKey place).emit .value).goTo (r.cursor.forward 1)
  | none =>
    if !r.inFlow && !r.keyAllowed then none
    let r := r.openBlock .blockMappingStart
    return ((r.allowKey (!r.inFlow)).emit .value).goTo (r.cursor.forward 1)

/-- Reads a token with which a key may begin. -/
def within? (r : Reader) (read : Cursor → Option (Token × Cursor)) : Option Reader := do
  let r ← r.saveKey?
  let (token, next) ← read r.cursor
  return ((r.allowKey false).emit token).goTo next

/-- Reads a plain scalar. When a line ended behind it, a key may follow. -/
def plain? (fuel : Nat) (r : Reader) : Option Reader := do
  let r ← r.saveKey?
  let scalar ← Plain.read? r.margin r.inFlow fuel r.cursor
  return ((r.allowKey scalar.lineEnded).emit (.scalar scalar.text true)).goTo scalar.next

/-- Reads a block scalar. -/
def blockScalar? (fuel : Nat) (r : Reader) : Option Reader := do
  let r ← r.dropKey?
  let (text, next) ← Block.read? r.margin fuel r.cursor
  return ((r.allowKey true).emit (.scalar text false)).goTo next

/-- Comes to the end of the text. -/
def finish? (r : Reader) : Option Reader := do
  let r ← (r.closeBlocks 0).dropKey?
  return (r.allowKey false).emit .streamEnd

/-- Reads the token that begins with the character `x`. -/
def readToken? (fuel : Nat) (x : Char) (rest : List Char) (r : Reader) : Option Reader :=
  let separated := atSeparator rest
  if x == '%' && r.cursor.column == 0 then r.atMargin? (Directive.read? fuel)
  else if r.cursor.atMark '-' then r.atMargin? fun c => some (.documentStart, c.forward 3)
  else if r.cursor.atMark '.' then r.atMargin? fun c => some (.documentEnd, c.forward 3)
  else if x == '[' then r.openFlow? .flowSequenceStart
  else if x == '{' then r.openFlow? .flowMappingStart
  else if x == ']' then r.closeFlow? .flowSequenceEnd
  else if x == '}' then r.closeFlow? .flowMappingEnd
  else if x == ',' then r.flowEntry?
  else if x == '-' && separated then r.blockEntry?
  else if x == '?' && (r.inFlow || separated) then r.key?
  else if x == ':' && (r.inFlow || separated) then r.value?
  else if x == '*' then
    r.within? fun c => (readNodeName? c).map fun (name, next) => (.alias name, next)
  else if x == '&' then
    r.within? fun c => (readNodeName? c).map fun (name, next) => (.anchor name, next)
  else if x == '!' then
    r.within? fun c =>
      (Tag.read? r.inFlow fuel c).map fun (handle, suffix, next) => (.tag handle suffix, next)
  else if (x == '|' || x == '>') && !r.inFlow then r.blockScalar? fuel
  else if x == '\'' || x == '"' then
    r.within? fun c => (Quoted.read? fuel c).map fun (text, next) => (.scalar text false, next)
  else if Plain.canBegin r.inFlow (x :: rest) then r.plain? fuel
  else none

/-- Reads the next token, together with what indentation implies before it. -/
def step? (fuel : Nat) (r : Reader) : Option Reader := do
  let (keyAllowed, cursor) := skipIgnored r.inFlow fuel r.keyAllowed r.cursor
  let r ← ((r.allowKey keyAllowed).goTo cursor).refreshKey?
  let r := r.closeBlocks (cursor.column + 1)
  match cursor.rest with
  | [] => r.finish?
  | x :: rest => r.readToken? fuel x rest

/-- Reads all tokens. Every step but the last takes at least one character, so that as many steps as
there are characters, and two more, suffice. -/
def run? (limit : Nat) : (steps : Nat) → Reader → Option (List Token)
  | 0, _ => none
  | steps + 1, r =>
    match r.step? limit with
    | none => none
    | some next =>
      if next.tokens.head? = some .streamEnd then some next.tokens.reverse
      else run? limit steps next

end Reader

/-- The tokens of a text. A text that holds a character which markup does not allow has none. -/
def ofText? (text : List Char) : Option (List Token) :=
  if text.all isAllowed then
    let limit := text.length + 2
    Reader.run? limit limit { cursor := { rest := text } }
  else none

end Token

end CatalogAudit.Yaml
