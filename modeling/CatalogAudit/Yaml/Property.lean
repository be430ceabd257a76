import CatalogAudit.Text.Escape
import CatalogAudit.Yaml.Cursor

/-!
# Names and tags

What may stand before a node: the name by which aliases refer to it, and its tag. A tag is written
in full between angle brackets, or as a handle and a suffix, where the handle stands for the
beginning of a longer tag.
-/

namespace CatalogAudit.Yaml

/-- Whether a name of a node may end before the text. -/
def endsNodeName : List Char → Bool
  | [] => true
  | c :: _ =>
    isSeparator c || c == '?' || c == ':' || c == ',' || c == ']' || c == '}' || c == '%'
      || c == '@' || c == '\x60'

/-- Reads the name behind the mark of an anchor or an alias. -/
def readNodeName? (c : Cursor) : Option (List Char × Cursor) :=
  let c := c.forward 1
  let name := c.rest.takeWhile isNameCharacter
  let next := c.skipWhile isNameCharacter
  if !name.isEmpty && endsNodeName next.rest then some (name, next) else none

namespace Tag

/-- Characters of which tags are made, apart from name characters. -/
def isMark (c : Char) : Bool :=
  c == ';' || c == '/' || c == '?' || c == ':' || c == '@' || c == '&' || c == '=' || c == '+'
    || c == '$' || c == '.' || c == '!' || c == '~' || c == '*' || c == '\'' || c == '(' || c == ')'

/-- Characters of which tags are made; `full` tags may also hold commas and brackets. -/
def isCharacter (full : Bool) (c : Char) : Bool :=
  isNameCharacter c || isMark c || (full && (c == ',' || c == '[' || c == ']'))

/-- Reads the octet behind a percent sign. -/
def readOctet? : List Char → Option (Nat × List Char)
  | '%' :: high :: low :: rest =>
    if Text.isHexOf 2 [high, low] then some (Number.readDigits 16 [high, low], rest) else none
  | _ => none

/-- Reads octets that continue a character of which `value` is known. -/
def readContinuation? (value : Nat) : Nat → List Char → Option (Nat × List Char)
  | 0, text => some (value, text)
  | count + 1, text =>
    match readOctet? text with
    | none => none
    | some (octet, rest) =>
      if octet / 64 = 2 then readContinuation? (value * 64 + octet % 64) count rest else none

/-- Reads a character that is written by its octets, and says how many characters of text that
took. -/
def readEscaped? (text : List Char) : Option (Char × Nat) :=
  match readOctet? text with
  | none => none
  | some (octet, rest) =>
    let lead :=
      if octet < 0x80 then some (octet, 0)
      else if octet / 32 = 6 then some (octet % 32, 1)
      else if octet / 16 = 14 then some (octet % 16, 2)
      else if octet / 8 = 30 then some (octet % 8, 3)
      else none
    match lead with
    | none => none
    | some (value, count) =>
      match readContinuation? value count rest with
      | none => none
      | some (value, _) => (Text.charOfCodePoint? value).map fun c => (c, 3 * (count + 1))

/-- Reads characters of a tag after `text`, which is backwards. -/
def readCharacters? (full : Bool) :
    (fuel : Nat) → (text : List Char) → Cursor → Option (List Char × Cursor)
  | 0, text, c => some (text.reverse, c)
  | fuel + 1, text, c =>
    match c.rest with
    | [] => some (text.reverse, c)
    | x :: _ =>
      if x == '%' then
        match readEscaped? c.rest with
        | none => none
        | some (y, width) => readCharacters? full fuel (y :: text) (c.forward width)
      else if isCharacter full x then readCharacters? full fuel (x :: text) (c.forward 1)
      else some (text.reverse, c)

/-- Reads a handle: an exclamation mark, name characters, and another mark if there is one. -/
def readHandle? (c : Cursor) : Option (List Char × Cursor) :=
  if c.at? (· == '!') then
    let name := (c.forward 1).rest.takeWhile isNameCharacter
    let next := (c.forward 1).skipWhile isNameCharacter
    if next.at? (· == '!') then some ('!' :: name ++ ['!'], next.forward 1)
    else some ('!' :: name, next)
  else none

/-- Whether a handle is closed by a mark of its own. -/
def isClosedHandle (handle : List Char) : Bool :=
  2 ≤ handle.length && handle.getLast? == some '!'

/-- Whether a tag may end before the text. -/
def mayEnd (flow : Bool) (text : List Char) : Bool :=
  atSeparator text || (flow && Text.startsWith (· == ',') text)

/-- Reads a tag that is written in full, at its angle bracket. -/
def readFull? (fuel : Nat) (c : Cursor) : Option (List Char × List Char × Cursor) :=
  match readCharacters? true fuel [] (c.forward 1) with
  | none => none
  | some (suffix, next) =>
    if !suffix.isEmpty && next.at? (· == '>') then some ([], suffix, next.forward 1) else none

/-- Reads a tag that is written with a handle. A lone mark is a whole tag. -/
def readShort? (fuel : Nat) (c : Cursor) : Option (List Char × List Char × Cursor) :=
  match readHandle? c with
  | none => none
  | some (handle, next) =>
    if isClosedHandle handle then
      match readCharacters? false fuel [] next with
      | none => none
      | some (suffix, next) => if suffix.isEmpty then none else some (handle, suffix, next)
    else
      match readCharacters? false fuel handle.tail.reverse next with
      | none => none
      | some (suffix, next) =>
        if suffix.isEmpty then some ([], ['!'], next) else some (['!'], suffix, next)

/-- Reads a tag: its handle, its suffix and the place behind it. -/
def read? (flow : Bool) (fuel : Nat) (c : Cursor) : Option (List Char × List Char × Cursor) :=
  let tag :=
    if (c.forward 1).at? (· == '<') then readFull? fuel (c.forward 1) else readShort? fuel c
  match tag with
  | none => none
  | some (handle, suffix, next) =>
    if mayEnd flow next.rest then some (handle, suffix, next) else none

end Tag

end CatalogAudit.Yaml
