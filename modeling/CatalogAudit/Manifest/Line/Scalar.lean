import CatalogAudit.Manifest.RawEntry
import CatalogAudit.Manifest.Line.Quoted

/-!
# Values on one line

A value is quoted or plain. A plain value ends before a comment, which is a hash sign at the
beginning or after white space. What a plain value means follows from its spelling alone: a few
words are null or truth values, numerals are numbers, brackets are collections, and the rest are
strings.
-/

namespace CatalogAudit.Manifest.Line

/-- The text before a comment. `reversed` is what was passed so far, backwards, and `free` tells
whether a hash sign here would begin a comment. -/
def stripCommentFrom (free : Bool) (reversed : List Char) : List Char → List Char
  | [] => reversed.reverse
  | c :: rest =>
    if c == '#' && free then reversed.reverse
    else stripCommentFrom (Text.isBlank c) (c :: reversed) rest

/-- The text before its comment, if it has one. -/
def stripComment (text : List Char) : List Char := stripCommentFrom true [] text

/-- Whether nothing but blanks and a comment is left. -/
def isSpent (text : List Char) : Bool := Text.isBlankText (stripComment text)

/-- Characters that begin markup outside the line form. -/
def isMarkup (c : Char) : Bool :=
  c == '&' || c == '*' || c == '!' || c == '|' || c == '>' || c == '%' || c == '@' || c == '\x60'
    || c == ',' || c == ']' || c == '}'

/-- Refuses a text that would begin an anchor, a tag, a block or other markup outside the line
form. -/
def checkPlainStart (text : List Char) : Except Fault Unit :=
  match text with
  | [] => .ok ()
  | c :: rest =>
    if isMarkup c then .error (.markup c)
    else if (c == '-' || c == '?') && (rest.isEmpty || Text.startsWith (· == ' ') rest) then
      .error (.markupText text)
    else .ok ()

/-- Whether a literal after its sign is a number: digits of a radix given by a letter, or a finite
decimal literal. Digits that begin with a zero are no number. -/
def isUnsignedNumber (text : List Char) : Bool :=
  match text with
  | '0' :: 'x' :: digits => Number.isDigitsOf 16 digits
  | '0' :: 'o' :: digits => Number.isDigitsOf 8 digits
  | '0' :: 'b' :: digits => Number.isDigitsOf 2 digits
  | _ =>
    if text.length > 1 && Text.startsWith (· == '0') text && text.all Number.isDigit then false
    else (Number.Decimal.ofLiteral? text).any Number.Decimal.isFinite

/-- Whether the character is a sign. -/
def isSign (c : Char) : Bool := c == '+' || c == '-'

/-- Whether a plain value is a number: at most one sign, then an unsigned number. -/
def isNumber (text : List Char) : Bool :=
  match text with
  | c :: rest => if isSign c then isUnsignedNumber rest else isUnsignedNumber text
  | [] => false

/-- Words for the null value. -/
def nullWords : List String := ["~", "null", "Null", "NULL"]

/-- Words for the truth values. -/
def booleanWords : List String := ["true", "True", "TRUE", "false", "False", "FALSE"]

/-- Words for the numbers that have no numeral. -/
def specialNumbers : List String :=
  [".inf", ".Inf", ".INF", "+.inf", "+.Inf", "+.INF", "-.inf", "-.Inf", "-.INF",
    ".nan", ".NaN", ".NAN"]

/-- The type that a plain value has by its spelling, when it is no string. -/
def spelledType? (text : List Char) : Option ValueType :=
  let word := String.ofList text
  if nullWords.contains word then some .null
  else if booleanWords.contains word then some .boolean
  else if specialNumbers.contains word then some .number
  else if isNumber text then some .number
  else none

/-- Whether the last character of the text is `c`. -/
def endsIn (c : Char) (text : List Char) : Bool := text.getLast? == some c

/-- Whether a colon occurs that is followed by one of the characters in `next`. -/
def hasColonBefore (next : Char → Bool) : List Char → Bool
  | [] => false
  | c :: rest => (c == ':' && Text.startsWith next rest) || hasColonBefore next rest

/-- A value in brackets, of which only the closing bracket is looked for. -/
def closedCollection (text : List Char) (close : Char) (type : ValueType) : Except Fault RawValue :=
  if endsIn close text then .ok (.other type) else .error .unclosedCollection

/-- The value that a plain text, already free of blanks around it, stands for. -/
def plainValue (text : List Char) : Except Fault RawValue :=
  match text with
  | [] => .ok (.other .null)
  | '[' :: _ => closedCollection text ']' .sequence
  | '{' :: _ => closedCollection text '}' .mapping
  | _ =>
    match checkPlainStart text with
    | .error fault => .error fault
    | .ok () =>
      if hasColonBefore Text.isGap text || endsIn ':' text then .error (.colonInPlain text)
      else
        match spelledType? text with
        | some type => .ok (.other type)
        | none => .ok (.text (String.ofList text))

/-- The value that fills the rest of a line, up to a comment. -/
def scalarValue (text : List Char) : Except Fault RawValue :=
  let text := Text.trimStart text
  if Text.startsWith isQuote text then
    match readQuoted text with
    | .error fault => .error fault
    | .ok (value, rest) =>
      let rest := Text.trimStart rest
      if rest.isEmpty || Text.startsWith (· == '#') rest then .ok (.text (String.ofList value))
      else .error (.afterQuote rest)
  else plainValue (Text.trimEnd (stripComment text))

end CatalogAudit.Manifest.Line
