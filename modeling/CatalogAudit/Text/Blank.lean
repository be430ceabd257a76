/-!
# Blank characters

White space in the sense of the Unicode character database, and the three ways to cut it off a
text. Markup that knows only the space and the tab has its own, narrower tests elsewhere.
-/

namespace CatalogAudit.Text

/-- White space: the tab, the line ends, the space and the twenty other characters that the
database counts as such. A zero-width space is none. -/
def isBlank (c : Char) : Bool :=
  let n := c.toNat
  (9 ≤ n && n ≤ 13) || n == 0x20 || n == 0x85 || n == 0xA0 || n == 0x1680
    || (0x2000 ≤ n && n ≤ 0x200A) || n == 0x2028 || n == 0x2029 || n == 0x202F || n == 0x205F
    || n == 0x3000

/-- The space and the tab, the only characters that separate words on a line of markup. -/
def isGap (c : Char) : Bool := c == ' ' || c == '\t'

/-- The text from its first character that is not blank. -/
def trimStart (text : List Char) : List Char := text.dropWhile isBlank

/-- The text up to its last character that is not blank. -/
def trimEnd (text : List Char) : List Char := (text.reverse.dropWhile isBlank).reverse

/-- Whether nothing but blanks stands in the text. -/
def isBlankText (text : List Char) : Bool := text.all isBlank

/-- Whether the text begins with one of the characters that satisfy `p`. -/
def startsWith (p : Char → Bool) : List Char → Bool
  | [] => false
  | c :: _ => p c

/-- What follows `lead` in a text that begins with it. -/
def after? (lead : List Char) (text : List Char) : Option (List Char) :=
  match lead, text with
  | [], rest => some rest
  | _ :: _, [] => none
  | x :: lead, c :: text => if x = c then after? lead text else none

/-- Number of bytes that a text takes in UTF-8. -/
def byteLength (text : List Char) : Nat :=
  text.foldl (fun n c => n + c.utf8Size) 0

/-- In the empty text there is nothing to trim. -/
theorem trimStart_nil : trimStart [] = [] := rfl

/-- Trimming makes no text longer. -/
theorem trimStart_length_le (text : List Char) : (trimStart text).length ≤ text.length :=
  (List.dropWhile_sublist _).length_le

end CatalogAudit.Text
