import CatalogAudit.Pattern.Matching

/-!
# What one source file says

The tokens that a file registers, the names that it declares, and the name that its own name
suggests. A suggested name is a hint and never a registration.
-/

namespace CatalogAudit.Scan

/-- What has been found in one source file. -/
structure Entry where
  /-- The path by which reports show the file. -/
  path : String
  /-- The registered tokens in the order of the text, repeated as there. -/
  tokens : List String
  /-- The declared names in the order of their first declaration. -/
  symbols : List String
  /-- The name that the file's name suggests. -/
  candidate : Option String
deriving DecidableEq, Repr

/-- The patterns by which a file is searched. -/
structure Patterns where
  /-- Pattern of a registration. -/
  token : Pattern
  /-- Pattern of a declaration. -/
  symbol : Pattern
  /-- Pattern of a file name. -/
  heuristic : Pattern
deriving DecidableEq, Repr

/-- What the first group has matched in each match of a pattern in which it took part. -/
def firstGroups (p : Pattern) (text : List Char) : List String :=
  (p.findAll text).filterMap fun m => m.group?.map String.ofList

/-- Searches the text of a file. -/
def Patterns.extract (patterns : Patterns) (path : String) (fileName text : List Char) : Entry :=
  { path
    tokens := firstGroups patterns.token text
    symbols := (firstGroups patterns.symbol text).eraseDups
    candidate := ((patterns.heuristic.find? fileName).bind Pattern.Match.group?).map String.ofList }

end CatalogAudit.Scan
