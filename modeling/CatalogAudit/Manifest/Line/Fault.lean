import CatalogAudit.Text.Quoted

/-!
# Faults of the line form

Why a line of a manifest cannot be read, and how a message says so.
-/

namespace CatalogAudit.Manifest.Line

/-- Why a line cannot be read. -/
inductive Fault
  /-- A tab stands in the indentation. -/
  | tabIndentation
  /-- A second document begins. -/
  | secondDocument
  /-- The text does not begin with a key. -/
  | rootNotMapping
  /-- Content follows an empty list of entries. -/
  | contentUnderInline
  /-- A line at the margin is no key. -/
  | topLevelNotKey
  /-- A key at the margin occurs twice. -/
  | repeatedTopLevelKey (key : List Char)
  /-- The entries stand in a list on one line. -/
  | inlineEntries
  /-- The entries are no list. -/
  | entriesNotList
  /-- A line is indented where nothing is open. -/
  | indentation
  /-- A line at the column of the dashes has no dash. -/
  | missingDash
  /-- A mode stands at another column than the modes before it. -/
  | modesIndentation
  /-- A dash stands where no list is open. -/
  | listItem
  /-- A value goes on over a second line. -/
  | multiLineValue
  /-- The entry of that number is a mapping on one line. -/
  | inlineMapping (number : Nat)
  /-- The entry of that number has a line that is no key. -/
  | entryNotMapping (number : Nat)
  /-- A key of the entry of that number occurs twice. -/
  | repeatedKey (key : List Char) (number : Nat)
  /-- A quoted value does not end on its line. -/
  | unclosedQuote
  /-- Text follows a quoted value. -/
  | afterQuote (rest : List Char)
  /-- An escape that does not exist. -/
  | unknownEscape (letter : Char)
  /-- An escape by number has other characters than hexadecimal digits, or too few. -/
  | invalidHex (digits : List Char)
  /-- An escape by number names no character. -/
  | invalidCodePoint (digits : List Char)
  /-- A plain value holds a colon that would begin a mapping. -/
  | colonInPlain (value : List Char)
  /-- A list or mapping in brackets does not end on its line. -/
  | unclosedCollection
  /-- The text begins with a character that marks other markup. -/
  | markup (mark : Char)
  /-- The text begins a list item or a key in full markup. -/
  | markupText (text : List Char)
  /-- A list of modes in brackets does not end on its line. -/
  | unclosedList
  /-- Text follows a list of modes in brackets. -/
  | afterList (rest : List Char)
  /-- A bracket stands inside a plain item of a list. -/
  | bracketInItem
  /-- Nothing stands before a comma. -/
  | emptyItem
  /-- A comment begins inside a list. -/
  | commentInList
deriving DecidableEq, Repr

/-- The words for a fault. -/
def Fault.message : Fault → String
  | tabIndentation => "tabs are not allowed in indentation"
  | secondDocument => "multiple YAML documents are not supported"
  | rootNotMapping => "manifest root must be a mapping"
  | contentUnderInline => "unexpected content under inline `entries`"
  | topLevelNotKey => "expected a `key: value` line at the top level"
  | repeatedTopLevelKey key => "duplicate top-level key `" ++ String.ofList key ++ "`"
  | inlineEntries => "inline `entries` lists are not supported"
  | entriesNotList => "`entries` must be a list"
  | indentation => "unexpected indentation"
  | missingDash => "expected a `- ` list item"
  | modesIndentation => "unexpected indentation in `modes` list"
  | listItem => "unexpected list item"
  | multiLineValue => "multi-line values are not supported"
  | inlineMapping number =>
    "manifest entry " ++ toString number ++ ": inline mappings are not supported"
  | entryNotMapping number => "manifest entry " ++ toString number ++ " must be a mapping"
  | repeatedKey key number =>
    "duplicate key `" ++ String.ofList key ++ "` in manifest entry " ++ toString number
  | unclosedQuote => "quoted values must close on the same line"
  | afterQuote rest => "unexpected text after quoted value: " ++ String.ofList (Text.quoted rest)
  | unknownEscape letter => "unsupported escape `\\" ++ String.singleton letter ++ "`"
  | invalidHex digits => "invalid hex escape " ++ String.ofList (Text.quoted digits)
  | invalidCodePoint digits => "invalid code point escape " ++ String.ofList (Text.quoted digits)
  | colonInPlain value => "unexpected `:` in plain value " ++ String.ofList (Text.quoted value)
  | unclosedCollection => "flow collections must close on the same line"
  | markup mark => "unsupported YAML syntax `" ++ String.singleton mark ++ "`"
  | markupText text => "unsupported YAML syntax in " ++ String.ofList (Text.quoted text)
  | unclosedList => "flow lists must close on the same line"
  | afterList rest => "unexpected text after flow list: " ++ String.ofList (Text.quoted rest)
  | bracketInItem => "unexpected bracket in flow list"
  | emptyItem => "empty item in flow list"
  | commentInList => "comments inside flow lists are not supported"

end CatalogAudit.Manifest.Line
