import CatalogAudit.Yaml.Property
import CatalogAudit.Yaml.Token

/-!
# Directives

Lines before a document that state the version of the markup or declare a tag handle. There are no
other directives, and of the versions only 1.1 and 1.2.
-/

namespace CatalogAudit.Yaml.Directive

/-- Reads a number of at most nine digits. -/
def readNumber? (c : Cursor) : Option (Nat × Cursor) :=
  let digits := c.rest.takeWhile Number.isDigit
  if digits.isEmpty || 9 < digits.length then none
  else some (Number.readDigits 10 digits, c.skipWhile Number.isDigit)

/-- Reads the version that a directive states. -/
def readVersion? (c : Cursor) : Option (Token × Cursor) :=
  match readNumber? c with
  | none => none
  | some (major, c) =>
    if c.at? (· == '.') then
      match readNumber? (c.forward 1) with
      | none => none
      | some (minor, c) =>
        if major = 1 && (minor = 1 || minor = 2) then some (.version, c) else none
    else none

/-- Reads the handle and what it stands for. -/
def readTagHandle? (fuel : Nat) (c : Cursor) : Option (Token × Cursor) :=
  match Tag.readHandle? c with
  | none => none
  | some (handle, c) =>
    if (handle = ['!'] || Tag.isClosedHandle handle) && c.at? Text.isGap then
      match Tag.readCharacters? true fuel [] (c.skipWhile Text.isGap) with
      | none => none
      | some (lead, c) =>
        if !lead.isEmpty && atSeparator c.rest then some (.tagHandle handle lead, c) else none
    else none

/-- Reads the directive whose percent sign stands here, with its whole line. -/
def read? (fuel : Nat) (c : Cursor) : Option (Token × Cursor) :=
  let c := c.forward 1
  let name := c.rest.takeWhile isNameCharacter
  let c := c.skipWhile isNameCharacter
  if !atSeparator c.rest then none
  else
    let c := c.skipWhile Text.isGap
    let directive :=
      if name = ['Y', 'A', 'M', 'L'] then readVersion? c
      else if name = ['T', 'A', 'G'] then readTagHandle? fuel c
      else none
    match directive with
    | none => none
    | some (token, c) =>
      let c := c.skipWhile Text.isGap
      let c := if c.at? (· == '#') then c.toLineEnd else c
      if atLineEnd c.rest then some (token, c.readBreak.2) else none

end CatalogAudit.Yaml.Directive
