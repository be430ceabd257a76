import CatalogAudit.NameTable

/-!
# JSON values

Values of the JSON notation. Members of an object keep their order and may repeat a key; numbers
keep their spelling.
-/

namespace CatalogAudit

/-- A JSON value. A string or a key that is written with half of a surrogate pair has no text. -/
inductive Json
  /-- The null value. -/
  | null
  /-- A truth value. -/
  | boolean (value : Bool)
  /-- A number as it is spelled. -/
  | number (literal : List Char)
  /-- A string. -/
  | string (value : Option String)
  /-- A list of values. -/
  | array (items : List Json)
  /-- Keys with their values. -/
  | object (members : List (Option String × Json))
deriving Repr

namespace Json

/-- A string. -/
def ofString (text : String) : Json := .string (some text)

/-- A list of strings. -/
def ofStrings (texts : List String) : Json := .array (texts.map ofString)

/-- A whole number. -/
def ofNat (n : Nat) : Json := .number (Nat.toDigits 10 n)

/-- An object with members of the given keys. -/
def ofMembers (members : List (String × Json)) : Json :=
  .object (members.map fun (key, value) => (some key, value))

/-- An object into which fields are put one after the other. Its keys ascend, whatever the order of
the fields; of several fields with one key, the last counts. -/
def ofFields (fields : List (String × Json)) : Json := .ofMembers (NameTable.ofRows fields).rows

/-- The string that a value is. -/
def string? : Json → Option String
  | .string value => value
  | _ => none

/-- The list of strings that a value is. -/
def strings? : Json → Option (List String)
  | .array items => items.mapM string?
  | _ => none

/-- The truth value that a value is. -/
def truth? : Json → Option Bool
  | .boolean value => some value
  | _ => none

end Json

end CatalogAudit
