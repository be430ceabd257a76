import CatalogAudit.Yaml.Cursor

/-!
# Plain scalars

A plain scalar is written without quotes: words with gaps between them, each of which is folded. It
ends where a comment, a document mark, an indicator or a line left of the margin begins. Inside a
flow collection the margin ends nothing, but the indicators of flow collections do.
-/

namespace CatalogAudit.Yaml.Plain

/-- Commas, brackets and braces, which end words in a flow collection. -/
def isFlowIndicator (c : Char) : Bool :=
  c == ',' || c == '[' || c == ']' || c == '{' || c == '}'

/-- Characters that must not follow a colon in a flow collection. -/
def isRefusedAfterColon (c : Char) : Bool := isFlowIndicator c || c == '?'

/-- Length of the word at the beginning of a text, when `count` characters of it came before. A word
ends at a blank or a line end, and at a colon before one of these or the end of the text. -/
def wordLength? (flow : Bool) (count : Nat) : List Char → Option Nat
  | [] => some count
  | c :: rest =>
    if isSeparator c then some count
    else if c == ':' && flow && Text.startsWith isRefusedAfterColon rest then none
    else if c == ':' && atSeparator rest then some count
    else if flow && isFlowIndicator c then some count
    else wordLength? flow (count + 1) rest

/-- Whether a plain scalar may begin with the text. -/
def canBegin (flow : Bool) : List Char → Bool
  | [] => false
  | c :: rest =>
    if c == '-' then !Text.startsWith Text.isGap rest
    else if c == '?' || c == ':' then !flow && !atSeparator rest
    else
      !isSeparator c && !isFlowIndicator c && c != '#' && c != '&' && c != '*' && c != '!'
        && c != '|' && c != '>' && c != '\'' && c != '"' && c != '%' && c != '@' && c != '\x60'

/-- A plain scalar that has been read. -/
structure Outcome where
  /-- Its text, folded. -/
  text : List Char
  /-- Whether a line ended behind its last word. -/
  lineEnded : Bool
  /-- The place behind it and the gap that follows it. -/
  next : Cursor

/-- Reads on at a word. What came before is `text`, backwards, and then `gap`; `margin` is the least
column of continued lines, and `fuel` bounds the number of characters. -/
def readWords (margin : Nat) (flow : Bool) :
    (fuel : Nat) → (text : List Char) → Gap → Cursor → Option Outcome
  | 0, text, gap, c => some ⟨text.reverse, gap.broken, c⟩
  | fuel + 1, text, gap, c =>
    if c.atDocumentMark || c.at? (· == '#') then some ⟨text.reverse, gap.broken, c⟩
    else
      match wordLength? flow 0 c.rest with
      | none => none
      | some 0 => some ⟨text.reverse, gap.broken, c⟩
      | some (n + 1) =>
        let text := (c.rest.take (n + 1)).reverseAux (gap.fold.reverseAux text)
        let next := c.forward (n + 1)
        if next.at? isSeparator then
          match Gap.readOn margin fuel {} next with
          | none => none
          | some (gap, next) =>
            if !flow && next.column < margin then some ⟨text.reverse, gap.broken, next⟩
            else readWords margin flow fuel text gap next
        else some ⟨text.reverse, false, next⟩

/-- Reads the plain scalar that begins here. -/
def read? (margin : Nat) (flow : Bool) (fuel : Nat) (c : Cursor) : Option Outcome :=
  readWords margin flow fuel [] {} c

end CatalogAudit.Yaml.Plain
