import CatalogAudit.Manifest.Line.Scalar

/-!
# Keys and list items

How a line with content begins: with a dash, when it is an item of a list, or with a key and a
colon. A colon ends a key only when a gap or nothing follows it.
-/

namespace CatalogAudit.Manifest.Line

/-- What follows the dash of a list item, without the blanks in front; `none` for a line that is
no item. -/
def itemBody? : List Char → Option (List Char)
  | '-' :: rest =>
    if rest.isEmpty then some []
    else if Text.startsWith Text.isGap rest then some (Text.trimStart rest)
    else none
  | _ => none

/-- Whether a colon that has `rest` after it ends a key. -/
def endsKey (rest : List Char) : Bool := rest.isEmpty || Text.startsWith Text.isGap rest

/-- Finds the colon after a bare key. `free` tells whether a hash sign here begins a comment, and
`reversed` is what was passed, backwards. -/
def splitBareKey (free : Bool) (reversed : List Char) : List Char → Option (List Char × List Char)
  | [] => none
  | c :: rest =>
    if c == '#' && free then none
    else if c == ':' && endsKey rest then
      let key := (reversed.dropWhile Text.isBlank).reverse
      if key.isEmpty then none else some (key, rest)
    else splitBareKey (Text.isGap c) (c :: reversed) rest

/-- Splits a text into its key and what follows the colon; `none` when it does not begin with a
key. -/
def splitKey (text : List Char) : Except Fault (Option (List Char × List Char)) :=
  if Text.startsWith isQuote text then
    match readQuoted text with
    | .error fault => .error fault
    | .ok (key, rest) =>
      match Text.trimStart rest with
      | ':' :: value => .ok (if endsKey value then some (key, value) else none)
      | _ => .ok none
  else if Text.startsWith (fun c => c == '[' || c == '{') text then .ok none
  else
    match checkPlainStart text with
    | .error fault => .error fault
    | .ok () => .ok (splitBareKey false [] text)

/-- Whether the line is the mark that begins a document. -/
def isDocumentStart : List Char → Bool
  | '-' :: '-' :: '-' :: rest => isSpent rest
  | _ => false

end CatalogAudit.Manifest.Line
