/-!
# Entries as written

What a manifest says of one entry before anything is checked. Both written forms of a manifest are
read into this shape, so that one validation serves them both.
-/

namespace CatalogAudit.Manifest

/-- Type of a value that is not a string. -/
inductive ValueType
  /-- The null value, also an absent one. -/
  | null
  /-- A truth value. -/
  | boolean
  /-- A whole or floating-point number. -/
  | number
  /-- A list of values. -/
  | sequence
  /-- A list of keys with their values. -/
  | mapping
  /-- A value that carries a tag of its own. -/
  | tagged
deriving DecidableEq, Repr

/-- The name by which messages call the type. -/
def ValueType.name : ValueType → String
  | null => "null"
  | boolean => "boolean"
  | number => "number"
  | sequence => "sequence"
  | mapping => "mapping"
  | tagged => "tagged value"

/-- A value written where a string is expected. -/
inductive RawValue
  /-- A string, as expected. -/
  | text (value : String)
  /-- Some other value, of which only the type matters. -/
  | other (type : ValueType)
deriving DecidableEq, Repr

/-- What is written for the modes of an entry. -/
inductive RawModes
  /-- Nothing, or a null value. -/
  | absent
  /-- A list of strings. -/
  | list (modes : List String)
  /-- Anything else. -/
  | invalid
deriving DecidableEq, Repr

/-- Adds one item at the end of the modes: no string makes the whole list invalid, and so does
anything after an invalid item. -/
def RawModes.push : RawModes → Option String → RawModes
  | .invalid, _ => .invalid
  | _, none => .invalid
  | .list modes, some mode => .list (modes ++ [mode])
  | .absent, some mode => .list [mode]

/-- The modes that a list of items makes: valid when every item is a string. -/
def RawModes.ofItems (items : List (Option String)) : RawModes :=
  match items.mapM id with
  | some modes => .list modes
  | none => .invalid

/-- One entry as written. A key that is absent has no value. -/
structure RawEntry where
  /-- Value of the key `token`. -/
  token : Option RawValue := none
  /-- Value of the key `kind`. -/
  kind : Option RawValue := none
  /-- What the key `modes` holds. -/
  modes : RawModes := .absent
deriving DecidableEq, Repr

/-- The top-level key that holds the list of entries. -/
def entriesKey : String := "entries"

end CatalogAudit.Manifest
