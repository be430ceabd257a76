import CatalogAudit.Json.Basic

/-!
# Printing JSON

Values are printed over several lines, each level indented by two more spaces; an empty list or
object stays on its line. Only quotes, backslashes and control characters are escaped.
-/

namespace CatalogAudit.Json

/-- The digits of a control character, in lower-case hexadecimal. -/
def controlDigits (c : Char) : List Char :=
  let digits := Nat.toDigits 16 c.toNat
  List.replicate (4 - digits.length) '0' ++ digits

/-- One character as it stands within quotes. -/
def printCharacter (c : Char) : List Char :=
  match c with
  | '"' => ['\\', '"']
  | '\\' => ['\\', '\\']
  | '\x08' => ['\\', 'b']
  | '\x0c' => ['\\', 'f']
  | '\n' => ['\\', 'n']
  | '\r' => ['\\', 'r']
  | '\t' => ['\\', 't']
  | _ => if c.toNat < 0x20 then '\\' :: 'u' :: controlDigits c else [c]

/-- A text within quotes. -/
def printString (text : String) : List Char := '"' :: text.toList.flatMap printCharacter ++ ['"']

/-- A string or a key; one without text is printed as empty. -/
def printText (text : Option String) : List Char := printString (text.getD "")

/-- A line end, and the indentation of the next line. -/
def newLine (level : Nat) : List Char := '\n' :: List.replicate (2 * level) ' '

mutual

/-- Prints a value whose first line is indented by a number of levels. -/
def printAt (level : Nat) : Json → List Char
  | .null => ['n', 'u', 'l', 'l']
  | .boolean true => ['t', 'r', 'u', 'e']
  | .boolean false => ['f', 'a', 'l', 's', 'e']
  | .number literal => literal
  | .string value => printText value
  | .array [] => ['[', ']']
  | .array (item :: items) =>
    '[' :: (newLine (level + 1) ++ printAt (level + 1) item ++ printItems (level + 1) items
      ++ newLine level ++ [']'])
  | .object [] => ['{', '}']
  | .object (member :: members) =>
    '{' :: (newLine (level + 1) ++ printMember (level + 1) member
      ++ printMembers (level + 1) members ++ newLine level ++ ['}'])

/-- Prints the items of a list behind the first. -/
def printItems (level : Nat) : List Json → List Char
  | [] => []
  | item :: items => ',' :: (newLine level ++ printAt level item ++ printItems level items)

/-- Prints one member of an object. -/
def printMember (level : Nat) : Option String × Json → List Char
  | (key, value) => printText key ++ [':', ' '] ++ printAt level value

/-- Prints the members of an object behind the first. -/
def printMembers (level : Nat) : List (Option String × Json) → List Char
  | [] => []
  | member :: members =>
    ',' :: (newLine level ++ printMember level member ++ printMembers level members)

end

/-- The text of a value. -/
def print (value : Json) : List Char := printAt 0 value

example : print (ofMembers [("a", ofNat 12), ("b", .array [])])
    = "\x7b\n  \"a\": 12,\n  \"b\": []\n\x7d".toList := by decide

end CatalogAudit.Json
