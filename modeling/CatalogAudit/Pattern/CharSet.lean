import CatalogAudit.Text.Blank
import CatalogAudit.Text.CaseVariant
import CatalogAudit.Text.WordCharacter

/-!
# Sets of characters

The sets that patterns are made of: ranges, the named classes of digits, word characters and blanks,
and what set operations make of them. Where letter case does not count, a character belongs to a set
as soon as one of its forms does; that is settled before a complement is taken.
-/

namespace CatalogAudit.Pattern

/-- A set of characters. -/
inductive CharSet
  /-- No character. -/
  | none
  /-- The characters from the first to the last. -/
  | range (first last : Char)
  /-- The decimal digits of all scripts. -/
  | digit
  /-- The characters of words. -/
  | word
  /-- White space. -/
  | blank
  /-- The characters of either set. -/
  | union (a b : CharSet)
  /-- The characters of both sets. -/
  | inter (a b : CharSet)
  /-- The characters of the first set that are not in the second. -/
  | diff (a b : CharSet)
  /-- The characters of exactly one of the sets. -/
  | symmDiff (a b : CharSet)
  /-- The characters that are not in the set. -/
  | compl (a : CharSet)
  /-- The characters one of whose forms is in the set. -/
  | caseless (a : CharSet)
deriving DecidableEq, Repr

namespace CharSet

/-- Whether a character is in the set. -/
def contains : CharSet → Char → Bool
  | none, _ => false
  | range first last, c => first ≤ c && c ≤ last
  | digit, c => Text.isDecimalDigit c
  | word, c => Text.isWordCharacter c
  | blank, c => Text.isBlank c
  | union a b, c => a.contains c || b.contains c
  | inter a b, c => a.contains c && b.contains c
  | diff a b, c => a.contains c && !b.contains c
  | symmDiff a b, c => a.contains c != b.contains c
  | compl a, c => !a.contains c
  | caseless a, c => (Text.caseVariants c).any a.contains

/-- The set of one character. -/
def single (c : Char) : CharSet := range c c

/-- All characters. -/
def any : CharSet := compl none

/-- All characters but the line feed. -/
def anyOnLine : CharSet := compl (single '\n')

/-- A set, or the characters one of whose forms is in it. -/
def withCase (ignoreCase : Bool) (a : CharSet) : CharSet := if ignoreCase then caseless a else a

/-- A set, or its complement. -/
def withSign (negated : Bool) (a : CharSet) : CharSet := if negated then compl a else a

/-- The union of ranges. -/
def ofRanges (ranges : List (Char × Char)) : CharSet :=
  ranges.foldl (fun s r => union s (range r.1 r.2)) none

/-- The ASCII letters. -/
def asciiLetters : List (Char × Char) := [('a', 'z'), ('A', 'Z')]

/-- The classes of ASCII characters that have a name within brackets. -/
def ascii? (name : String) : Option CharSet :=
  (ranges? name).map ofRanges
where
  /-- The ranges of a named class. -/
  ranges? (name : String) : Option (List (Char × Char)) :=
    match name with
    | "alnum" => some (('0', '9') :: asciiLetters)
    | "alpha" => some asciiLetters
    | "ascii" => some [('\x00', '\x7f')]
    | "blank" => some [('\t', '\t'), (' ', ' ')]
    | "cntrl" => some [('\x00', '\x1f'), ('\x7f', '\x7f')]
    | "digit" => some [('0', '9')]
    | "graph" => some [('!', '~')]
    | "lower" => some [('a', 'z')]
    | "print" => some [(' ', '~')]
    | "punct" => some [('!', '/'), (':', '@'), ('[', '\x60'), ('\x7b', '~')]
    | "space" => some [('\t', '\r'), (' ', ' ')]
    | "upper" => some [('A', 'Z')]
    | "word" => some (('0', '9') :: ('_', '_') :: asciiLetters)
    | "xdigit" => some [('0', '9'), ('A', 'F'), ('a', 'f')]
    | _ => .none

end CharSet

end CatalogAudit.Pattern
