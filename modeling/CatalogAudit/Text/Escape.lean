import CatalogAudit.Number.Decimal

/-!
# Backslash escapes

The escapes that double-quoted markup shares on one line and over several: a backslash and a letter
for a control or a rare space, or a letter that announces the number of a character in two, four or
eight hexadecimal digits.
-/

namespace CatalogAudit.Text

/-- Characters written by a backslash and one letter. -/
def letterEscape? : Char → Option Char
  | '0' => some '\x00'
  | 'a' => some '\x07'
  | 'b' => some '\x08'
  | 't' => some '\t'
  | '\t' => some '\t'
  | 'n' => some '\n'
  | 'v' => some '\x0b'
  | 'f' => some '\x0c'
  | 'r' => some '\r'
  | 'e' => some '\x1b'
  | ' ' => some ' '
  | '"' => some '"'
  | '/' => some '/'
  | '\\' => some '\\'
  | 'N' => some '\u0085'
  | '_' => some '\u00a0'
  | 'L' => some '\u2028'
  | 'P' => some '\u2029'
  | _ => none

/-- How many digits follow the letter of an escape by number. -/
def escapeWidth? : Char → Option Nat
  | 'x' => some 2
  | 'u' => some 4
  | 'U' => some 8
  | _ => none

/-- The character of a code point; surrogates and numbers beyond the last plane name none. -/
def charOfCodePoint? (n : Nat) : Option Char :=
  if n.isValidChar then some (Char.ofNat n) else none

/-- Whether the text is exactly `width` hexadecimal digits. -/
def isHexOf (width : Nat) (text : List Char) : Bool :=
  text.length == width && text.all fun c => (Number.digitIn? 16 c).isSome

end CatalogAudit.Text
