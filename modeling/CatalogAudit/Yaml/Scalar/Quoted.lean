import CatalogAudit.Text.Escape
import CatalogAudit.Yaml.Cursor

/-!
# Quoted scalars

A quoted scalar stands between two equal quotes and may go on over several lines, whose gaps are
folded. Between single quotes only the quote itself is written in a special way, namely twice.
Between double quotes there are backslash escapes; a backslash at the end of a line makes the line
end vanish.
-/

namespace CatalogAudit.Yaml.Quoted

/-- What reading one stretch between blanks comes to. -/
inductive Stretch
  /-- A blank or a line end follows, or the closing quote. -/
  | ended (text : List Char) (next : Cursor)
  /-- A line end was escaped; the next line begins. -/
  | escapedBreak (text : List Char) (next : Cursor)

/-- Reads an escape by number: `width` hexadecimal digits. -/
def readNumber? (width : Nat) (text : List Char) : Option Char :=
  let digits := text.take width
  if Text.isHexOf width digits then Text.charOfCodePoint? (Number.readDigits 16 digits) else none

/-- Reads on in a stretch after `text`, which is backwards. -/
def readStretch? (quote : Char) : (fuel : Nat) → (text : List Char) → Cursor → Option Stretch
  | 0, text, c => some (.ended text c)
  | fuel + 1, text, c =>
    match c.rest with
    | [] => some (.ended text c)
    | x :: rest =>
      if isSeparator x then some (.ended text c)
      else if x == quote then
        if quote == '\'' && Text.startsWith (· == '\'') rest then
          readStretch? quote fuel ('\'' :: text) (c.forward 2)
        else some (.ended text c)
      else if quote == '"' && x == '\\' then
        match rest with
        | [] => none
        | letter :: digits =>
          if isBreak letter then some (.escapedBreak text ((c.forward 1).readBreak).2)
          else
            match Text.letterEscape? letter with
            | some y => readStretch? quote fuel (y :: text) (c.forward 2)
            | none =>
              match Text.escapeWidth? letter with
              | none => none
              | some width =>
                match readNumber? width digits with
                | none => none
                | some y => readStretch? quote fuel (y :: text) (c.forward (2 + width))
      else readStretch? quote fuel (x :: text) (c.forward 1)

/-- Reads on in a scalar after `text`, which is backwards. No line of it may be a document mark. -/
def readStretches? (quote : Char) :
    (fuel : Nat) → (text : List Char) → Cursor → Option (List Char × Cursor)
  | 0, _, _ => none
  | fuel + 1, text, c =>
    if c.atDocumentMark then none
    else
      let onward (text : List Char) (gap : Gap) (c : Cursor) : Option (List Char × Cursor) :=
        match Gap.readOn 0 fuel gap c with
        | none => none
        | some (gap, c) => readStretches? quote fuel (gap.fold.reverseAux text) c
      match readStretch? quote fuel text c with
      | none => none
      | some (.escapedBreak text c) =>
        if c.at? (· == quote) then some (text.reverse, c.forward 1)
        else onward text { broken := true } c
      | some (.ended text c) =>
        match c.rest with
        | [] => none
        | x :: _ =>
          if x == quote then some (text.reverse, c.forward 1)
          else onward text {} c

/-- Reads the quoted scalar whose first quote stands here: its text and the place behind it. -/
def read? (fuel : Nat) (c : Cursor) : Option (List Char × Cursor) :=
  match c.rest with
  | quote :: _ => readStretches? quote fuel [] (c.forward 1)
  | [] => none

end CatalogAudit.Yaml.Quoted
