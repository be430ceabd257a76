import CatalogAudit.Json.Basic
import CatalogAudit.Text.Escape

/-!
# Reading JSON

The strict notation: no comments, no trailing commas, no leading zeros, no control characters in
strings. The only liberty is that a string may be written with half of a surrogate pair; it has no
text then, and whoever needs the text has to refuse it.
-/

namespace CatalogAudit.Json

/-- Whether a character is a blank between tokens. -/
def isSpace (c : Char) : Bool := c == ' ' || c == '\n' || c == '\t' || c == '\r'

/-- The text from its first token on. -/
def skipSpace (text : List Char) : List Char := text.dropWhile isSpace

/-! ## Numbers -/

/-- Reads digits, at least one. -/
def readDigits? (text : List Char) : Option (List Char × List Char) :=
  let digits := text.takeWhile Number.isDigit
  if digits.isEmpty then none else some (digits, text.dropWhile Number.isDigit)

/-- Reads the digits before the point: a zero stands alone. -/
def readWhole? (text : List Char) : Option (List Char × List Char) :=
  match readDigits? text with
  | none => none
  | some (digits, rest) =>
    if digits.head? = some '0' && 1 < digits.length then none else some (digits, rest)

/-- Reads a point with its digits, if there is one. -/
def readFraction? (text : List Char) : Option (List Char × List Char) :=
  match text with
  | '.' :: rest => (readDigits? rest).map fun (digits, rest) => ('.' :: digits, rest)
  | _ => some ([], text)

/-- Reads an exponent, if there is one. -/
def readExponent? (text : List Char) : Option (List Char × List Char) :=
  match text with
  | c :: rest =>
    if c == 'e' || c == 'E' then
      match rest with
      | '+' :: rest => (readDigits? rest).map fun (digits, rest) => (c :: '+' :: digits, rest)
      | '-' :: rest => (readDigits? rest).map fun (digits, rest) => (c :: '-' :: digits, rest)
      | _ => (readDigits? rest).map fun (digits, rest) => (c :: digits, rest)
    else some ([], text)
  | [] => some ([], text)

/-- Reads a number. -/
def readNumber? (text : List Char) : Option (List Char × List Char) := do
  let (sign, rest) : List Char × List Char :=
    match text with
    | '-' :: rest => (['-'], rest)
    | _ => ([], text)
  let (whole, rest) ← readWhole? rest
  let (fraction, rest) ← readFraction? rest
  let (exponent, rest) ← readExponent? rest
  return (sign ++ whole ++ fraction ++ exponent, rest)

/-! ## Strings -/

/-- Characters written by a backslash and a letter. -/
def letterEscape? : Char → Option Char
  | '"' => some '"'
  | '\\' => some '\\'
  | '/' => some '/'
  | 'b' => some '\x08'
  | 'f' => some '\x0c'
  | 'n' => some '\n'
  | 'r' => some '\r'
  | 't' => some '\t'
  | _ => none

/-- A unit of a string: a character, or half of a surrogate pair without the other half. -/
abbrev StringUnit := Option Char

/-- Reads four hexadecimal digits. -/
def readHex? : List Char → Option (Nat × List Char)
  | a :: b :: c :: d :: rest =>
    if Text.isHexOf 4 [a, b, c, d] then some (Number.readDigits 16 [a, b, c, d], rest) else none
  | _ => none

/-- Whether a number is the first half of a surrogate pair. -/
def isHighHalf (n : Nat) : Bool := 0xD800 ≤ n && n < 0xDC00

/-- Whether a number is the second half of a surrogate pair. -/
def isLowHalf (n : Nat) : Bool := 0xDC00 ≤ n && n < 0xE000

/-- The character of a surrogate pair. -/
def ofHalves (high low : Nat) : Char :=
  Char.ofNat (0x10000 + (high - 0xD800) * 0x400 + (low - 0xDC00))

/-- The unit of a number, and what is left behind it: the first half of a pair takes the second with
it if that follows. -/
def unitOf (n : Nat) (rest : List Char) : StringUnit × List Char :=
  if isHighHalf n then
    match rest with
    | '\\' :: 'u' :: more =>
      match readHex? more with
      | some (low, after) => if isLowHalf low then (some (ofHalves n low), after) else (none, rest)
      | none => (none, rest)
    | _ => (none, rest)
  else (Text.charOfCodePoint? n, rest)

/-- Reads one unit of a string. -/
def readUnit? (text : List Char) : Option (StringUnit × List Char) :=
  match text with
  | [] => none
  | '\\' :: 'u' :: rest => (readHex? rest).map fun (n, rest) => unitOf n rest
  | '\\' :: c :: rest => (letterEscape? c).map fun c => (some c, rest)
  | c :: rest => if c.toNat < 0x20 || c == '\\' || c == '"' then none else some (some c, rest)

/-- Reads on in a string after `units`, which are backwards, up to and with its closing quote. -/
def readUnits? :
    (fuel : Nat) → (units : List StringUnit) → List Char → Option (List StringUnit × List Char)
  | 0, _, _ => none
  | fuel + 1, units, text =>
    match text with
    | '"' :: rest => some (units.reverse, rest)
    | _ =>
      match readUnit? text with
      | none => none
      | some (u, rest) => readUnits? fuel (u :: units) rest

/-- Reads a string behind its opening quote. -/
def readString? (fuel : Nat) (text : List Char) : Option (Option String × List Char) :=
  (readUnits? fuel [] text).map fun (units, rest) => ((units.mapM id).map String.ofList, rest)

/-! ## Values -/

mutual

/-- Reads a value at its first character. -/
def readValue? : (fuel : Nat) → List Char → Option (Json × List Char)
  | 0, _ => none
  | fuel + 1, text =>
    match text with
    | 'n' :: 'u' :: 'l' :: 'l' :: rest => some (.null, rest)
    | 't' :: 'r' :: 'u' :: 'e' :: rest => some (.boolean true, rest)
    | 'f' :: 'a' :: 'l' :: 's' :: 'e' :: rest => some (.boolean false, rest)
    | '"' :: rest => (readString? fuel rest).map fun (value, rest) => (.string value, rest)
    | '[' :: rest =>
      match skipSpace rest with
      | ']' :: rest => some (.array [], rest)
      | rest => (readItems? fuel [] rest).map fun (items, rest) => (.array items, rest)
    | '{' :: rest =>
      match skipSpace rest with
      | '}' :: rest => some (.object [], rest)
      | rest => (readMembers? fuel [] rest).map fun (members, rest) => (.object members, rest)
    | _ => (readNumber? text).map fun (literal, rest) => (.number literal, rest)

/-- Reads the items of a list from the first character of one on, after `items`, which are
backwards, up to and with the closing bracket. -/
def readItems? : (fuel : Nat) → (items : List Json) → List Char → Option (List Json × List Char)
  | 0, _, _ => none
  | fuel + 1, items, text =>
    match readValue? fuel text with
    | none => none
    | some (item, rest) =>
      match skipSpace rest with
      | ',' :: rest => readItems? fuel (item :: items) (skipSpace rest)
      | ']' :: rest => some ((item :: items).reverse, rest)
      | _ => none

/-- Reads the members of an object from the first character of one on, after `members`, which are
backwards, up to and with the closing brace. -/
def readMembers? : (fuel : Nat) → (members : List (Option String × Json)) → List Char →
    Option (List (Option String × Json) × List Char)
  | 0, _, _ => none
  | fuel + 1, members, text =>
    match text with
    | '"' :: rest =>
      match readString? fuel rest with
      | none => none
      | some (key, rest) =>
        match skipSpace rest with
        | ':' :: rest =>
          match readValue? fuel (skipSpace rest) with
          | none => none
          | some (value, rest) =>
            match skipSpace rest with
            | ',' :: rest => readMembers? fuel ((key, value) :: members) (skipSpace rest)
            | '}' :: rest => some (((key, value) :: members).reverse, rest)
            | _ => none
        | _ => none
    | _ => none

end

/-- The value that a text writes; blanks may stand around it. -/
def ofText? (text : List Char) : Option Json :=
  match readValue? (2 * text.length + 2) (skipSpace text) with
  | some (value, rest) => if (skipSpace rest).isEmpty then some value else none
  | none => none

end CatalogAudit.Json
