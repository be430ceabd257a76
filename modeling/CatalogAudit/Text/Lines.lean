/-!
# Lines of a text

A line ends at a line feed, and a carriage return right before that line feed belongs to the line
end. A carriage return anywhere else is an ordinary character, so the last line keeps one when no
line feed follows it. A text that ends in a line feed has no empty line after it.
-/

namespace CatalogAudit.Text

/-- A line read backwards, without the carriage return that its line end began with. -/
def closeLine : List Char → List Char
  | '\r' :: reversed => reversed.reverse
  | reversed => reversed.reverse

/-- Lines of the rest of a text, after `current` (the line being read, backwards) and `closed` (the
lines before it, backwards). -/
def linesFrom (current : List Char) (closed : List (List Char)) : List Char → List (List Char)
  | [] => (if current.isEmpty then closed else current.reverse :: closed).reverse
  | c :: rest =>
    if c = '\n' then linesFrom [] (closeLine current :: closed) rest
    else linesFrom (c :: current) closed rest

/-- The lines of a text, without their line ends. -/
def lines (text : List Char) : List (List Char) := linesFrom [] [] text

example : lines "a\r\nb\n".toList = ["a".toList, "b".toList] := by decide
example : lines "a\rb\n\nc\r".toList = ["a\rb".toList, [], "c\r".toList] := by decide

end CatalogAudit.Text
