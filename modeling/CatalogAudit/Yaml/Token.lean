/-!
# Tokens of markup

The units into which a markup text is cut. Besides what is written in the text there are tokens for
what indentation implies: the beginning and the end of block collections, and the mark in front of
a key that is known to be one only when its colon is read.
-/

namespace CatalogAudit.Yaml

/-- One unit of a markup text. -/
inductive Token
  /-- The end of the text. -/
  | streamEnd
  /-- A directive that states a known version of the markup. -/
  | version
  /-- A directive that makes a handle stand for the beginning of tags. -/
  | tagHandle (handle lead : List Char)
  /-- The mark that begins a document. -/
  | documentStart
  /-- The mark that ends a document. -/
  | documentEnd
  /-- A list whose items have lines of their own begins. -/
  | blockSequenceStart
  /-- A mapping whose keys have lines of their own begins. -/
  | blockMappingStart
  /-- A block list or a block mapping ends. -/
  | blockEnd
  /-- An opening bracket. -/
  | flowSequenceStart
  /-- A closing bracket. -/
  | flowSequenceEnd
  /-- An opening brace. -/
  | flowMappingStart
  /-- A closing brace. -/
  | flowMappingEnd
  /-- The hyphen before an item. -/
  | blockEntry
  /-- The comma between items. -/
  | flowEntry
  /-- A key begins. -/
  | key
  /-- The colon before a value. -/
  | value
  /-- A reference to the node of that name. -/
  | alias (name : List Char)
  /-- The name of the node that follows. -/
  | anchor (name : List Char)
  /-- The tag of the node that follows. An empty handle means that the suffix is the whole tag. -/
  | tag (handle suffix : List Char)
  /-- A scalar; `plain` when it is written without quotes and is no block. -/
  | scalar (text : List Char) (plain : Bool)
deriving DecidableEq, Repr

end CatalogAudit.Yaml
