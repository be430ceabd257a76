import CatalogAudit.Yaml.Value

/-!
# Meaning of plain scalars

A plain scalar is null, a truth value, a number or a string by its spelling alone. Whole numbers are
tried before doubles and may be written in four radices. Digits that begin with a zero are a string.
Whole numbers of more than 64 bits that still have 128 are refused; larger ones are doubles.
-/

namespace CatalogAudit.Yaml.Plain

/-- The spellings of the null value, apart from the empty one. -/
def isNullWord (text : List Char) : Bool :=
  text == ['~'] || text == "null".toList || text == "Null".toList || text == "NULL".toList

/-- The truth value that a text spells. -/
def truth? (text : List Char) : Option Bool :=
  if text == "true".toList || text == "True".toList || text == "TRUE".toList then some true
  else if text == "false".toList || text == "False".toList || text == "FALSE".toList then some false
  else none

/-- Whether the text is two or more digits that begin with a zero, with or without a sign. -/
def isZeroLedDigits (text : List Char) : Bool :=
  let digits :=
    match text with
    | '+' :: rest => rest
    | '-' :: rest => rest
    | _ => text
  match digits with
  | '0' :: rest => !rest.isEmpty && rest.all Number.isDigit
  | _ => false

/-- Reads digits of a radix as a whole number. -/
def digits? (radix : Nat) (text : List Char) : Option Nat :=
  if Number.isDigitsOf radix text then some (Number.readDigits radix text) else none

/-- The size of a whole number without its sign: digits behind the mark of a radix, or decimal
digits. -/
def size? (text : List Char) : Option Nat :=
  match text with
  | '0' :: 'x' :: rest => digits? 16 rest
  | '0' :: 'o' :: rest => digits? 8 rest
  | '0' :: 'b' :: rest => digits? 2 rest
  | _ => digits? 10 text

/-- The whole number that a text spells. -/
def whole? (text : List Char) : Option Int :=
  if isZeroLedDigits text then none
  else
    match text with
    | '-' :: rest => (size? rest).map fun n => -(n : Int)
    | '+' :: rest => (size? rest).map fun n => (n : Int)
    | _ => (size? text).map fun n => (n : Int)

/-- What becomes of a whole number. -/
inductive Width
  /-- It has at most 64 bits. -/
  | fits
  /-- It has more than 64 bits, but not more than 128. -/
  | refused
  /-- It has more than 128 bits. -/
  | beyond
deriving DecidableEq

/-- The width of a whole number: unsigned for one that is not negative, signed for one that is. -/
def width (n : Int) : Width :=
  if 0 ≤ n then
    if n < Nat.pow 2 64 then .fits else if n < Nat.pow 2 128 then .refused else .beyond
  else if -(Nat.pow 2 63 : Int) ≤ n then .fits
  else if -(Nat.pow 2 127 : Int) ≤ n then .refused
  else .beyond

/-- Reads a decimal with at most one sign as a finite double. -/
def finite? (text : List Char) : Option Quantity :=
  let read (negative : Bool) (literal : List Char) : Option Quantity :=
    match Number.Decimal.ofLiteral? literal with
    | none => none
    | some d =>
      if d.isFinite then
        let size := Number.Double.nearest d
        some (.double (negative && size.mantissa != 0) size)
      else none
  match text with
  | '-' :: literal => read true literal
  | '+' :: literal => read false literal
  | literal => read false literal

/-- The spellings of infinity, without a sign. -/
def isInfinityWord (text : List Char) : Bool :=
  text == ".inf".toList || text == ".Inf".toList || text == ".INF".toList

/-- The spellings of the double that is no number. -/
def isUndefinedWord (text : List Char) : Bool :=
  text == ".nan".toList || text == ".NaN".toList || text == ".NAN".toList

/-- The double that a text spells. -/
def double? (text : List Char) : Option Quantity :=
  if isInfinityWord text then some (.infinite false)
  else if isUndefinedWord text then some .undefined
  else
    match text with
    | '+' :: rest => if isInfinityWord rest then some (.infinite false) else finite? text
    | '-' :: rest => if isInfinityWord rest then some (.infinite true) else finite? text
    | _ => finite? text

/-- The meaning of a text that is neither null nor a truth value. -/
def numberOrText? (text : List Char) : Option Value :=
  let asDouble : Value :=
    if isZeroLedDigits text then .text text
    else
      match double? text with
      | some quantity => .number quantity
      | none => .text text
  match whole? text with
  | none => some asDouble
  | some n =>
    match width n with
    | .fits => some (.number (.whole n))
    | .refused => none
    | .beyond => some asDouble

/-- The meaning of a plain scalar; `none` for a number that is refused. -/
def value? (text : List Char) : Option Value :=
  if text.isEmpty || isNullWord text then some .null
  else
    match truth? text with
    | some value => some (.boolean value)
    | none => numberOrText? text

/-- The meaning of a scalar whose tag demands a whole number. -/
def wholeOnly? (text : List Char) : Option Value :=
  match whole? text with
  | some n => if width n = .fits then some (.number (.whole n)) else none
  | none => none

example : value? "0x1F".toList matches some (.number (.whole 31)) := by decide
example : value? "007".toList matches some (.text _) := by decide
example : value? "-0".toList matches some (.number (.whole 0)) := by decide
example : value? "+-5".toList matches some (.text _) := by decide
example : value? "18446744073709551616".toList matches none := by decide +kernel

end CatalogAudit.Yaml.Plain
