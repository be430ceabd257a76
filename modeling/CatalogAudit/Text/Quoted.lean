import CatalogAudit.Text.Invisible

/-!
# Quoted text

How a message shows a text: between double quotes, with the quote, the backslash, the common
controls and every character without a shape of its own written as an escape. A single quote
stays as it is.
-/

namespace CatalogAudit.Text

/-- The code point of a character in lower-case hexadecimal between braces. -/
def bracedHex (c : Char) : List Char := '{' :: Nat.toDigits 16 c.toNat ++ ['}']

/-- One character as it stands inside a quoted text. -/
def quotedCharacter (c : Char) : List Char :=
  match c with
  | '"' => ['\\', '"']
  | '\\' => ['\\', '\\']
  | '\n' => ['\\', 'n']
  | '\r' => ['\\', 'r']
  | '\t' => ['\\', 't']
  | '\x00' => ['\\', '0']
  | _ => if isInvisible c then '\\' :: 'u' :: bracedHex c else [c]

/-- The text between double quotes, with its escapes. -/
def quoted (text : List Char) : List Char := '"' :: text.flatMap quotedCharacter ++ ['"']

/-- The quoted form of a string. -/
def quotedString (text : String) : String := String.ofList (quoted text.toList)

end CatalogAudit.Text
