import CatalogAudit.Text.Blank

/-!
# Decimal literals

The literals of decimal notation: digits with at most one point among or around them, at least one
digit, and an exponent if wanted. A literal stands for an exact rational number. It is finite when
that number, rounded to the nearest double, is no infinity.
-/

namespace CatalogAudit.Number

/-- Whether the character is one of the ten ASCII digits. -/
def isDigit (c : Char) : Bool := '0' ≤ c && c ≤ '9'

/-- The value of an ASCII digit. -/
def digitValue (c : Char) : Nat := c.toNat - '0'.toNat

/-- The value of a digit in a radix up to sixteen, either case; `none` for anything else. -/
def digitIn? (radix : Nat) (c : Char) : Option Nat :=
  let value :=
    if '0' ≤ c && c ≤ '9' then c.toNat - '0'.toNat
    else if 'a' ≤ c && c ≤ 'f' then c.toNat - 'a'.toNat + 10
    else if 'A' ≤ c && c ≤ 'F' then c.toNat - 'A'.toNat + 10
    else radix
  if value < radix then some value else none

/-- The number that digits of a radix write, most significant digit first; other characters count
as nothing. -/
def readDigits (radix : Nat) (digits : List Char) : Nat :=
  digits.foldl (fun n c => n * radix + (digitIn? radix c).getD 0) 0

/-- Whether the text is one or more digits of the radix. -/
def isDigitsOf (radix : Nat) (text : List Char) : Bool :=
  !text.isEmpty && text.all fun c => (digitIn? radix c).isSome

/-- A decimal literal: the number `coefficient × 10 ^ exponent`, together with how many digits the
coefficient has after its leading zeros. -/
structure Decimal where
  /-- All digits of the literal read as one whole number. -/
  coefficient : Nat
  /-- Number of digits of the coefficient that count; zero for a zero. -/
  significant : Nat
  /-- Power of ten by which the coefficient is scaled. -/
  exponent : Int
deriving DecidableEq

/-- Splits a text after its leading ASCII digits. -/
def spanDigits (text : List Char) : List Char × List Char :=
  (text.takeWhile isDigit, text.dropWhile isDigit)

/-- Reads what follows the exponent mark: an optional sign and one or more digits, then the end. -/
def readExponent? (text : List Char) : Option Int :=
  let read (digits : List Char) : Option Nat :=
    if isDigitsOf 10 digits then some (readDigits 10 digits) else none
  match text with
  | '-' :: digits => (read digits).map fun n => -(n : Int)
  | '+' :: digits => (read digits).map fun n => (n : Int)
  | digits => (read digits).map fun n => (n : Int)

/-- The decimal that given digits before and after the point write, scaled by an exponent. -/
def Decimal.ofDigits (whole fraction : List Char) (exponent : Int) : Decimal :=
  let digits := whole ++ fraction
  { coefficient := readDigits 10 digits
    significant := (digits.dropWhile (· == '0')).length
    exponent := exponent - fraction.length }

/-- Reads an unsigned decimal literal that fills the whole text. -/
def Decimal.ofLiteral? (text : List Char) : Option Decimal :=
  let (whole, afterWhole) := spanDigits text
  let (fraction, afterFraction) :=
    match afterWhole with
    | '.' :: rest => spanDigits rest
    | rest => ([], rest)
  if whole.isEmpty && fraction.isEmpty then none
  else
    match afterFraction with
    | [] => some (Decimal.ofDigits whole fraction 0)
    | c :: rest =>
      if c == 'e' || c == 'E' then
        (readExponent? rest).map fun exponent => Decimal.ofDigits whole fraction exponent
      else none

/-- The least whole number that rounds to infinity: the midpoint between the greatest double and
the power of two above it. -/
def overflowThreshold : Nat := Nat.pow 2 1024 - Nat.pow 2 970

/-- Whether `d` is below `overflowThreshold`. Numbers that are clearly small or clearly large by
their count of digits are told apart without computing the power of ten. -/
def Decimal.isFinite (d : Decimal) : Bool :=
  if d.coefficient == 0 then true
  else
    let magnitude : Int := d.significant + d.exponent
    if magnitude ≤ 308 then true
    else if 310 ≤ magnitude then false
    else
      match d.exponent with
      | .ofNat n => d.coefficient * Nat.pow 10 n < overflowThreshold
      | .negSucc n => d.coefficient < overflowThreshold * Nat.pow 10 (n + 1)

example :
    (Decimal.ofLiteral? "1.7976931348623158e308".toList).map Decimal.isFinite = some true := by
  decide +kernel
example :
    (Decimal.ofLiteral? "1.7976931348623159e308".toList).map Decimal.isFinite = some false := by
  decide +kernel
example : Decimal.ofLiteral? "1.".toList = some ⟨1, 1, 0⟩ := by decide
example : Decimal.ofLiteral? ".".toList = none := by decide

end CatalogAudit.Number
