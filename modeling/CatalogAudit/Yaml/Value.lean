import CatalogAudit.Number.Double

/-!
# Values of a document

What a document means. Two keys of a mapping are the same key when their values are the same; the
order of entries does not count for that, and a whole number is never the same as a double.
-/

namespace CatalogAudit.Yaml

/-- A number. -/
inductive Quantity
  /-- A whole number. -/
  | whole (value : Int)
  /-- A finite double. Zero is never negative. -/
  | double (negative : Bool) (size : Number.Double)
  /-- An infinity. -/
  | infinite (negative : Bool)
  /-- The double that is no number. -/
  | undefined
deriving DecidableEq, Repr

/-- A value. -/
inductive Value
  /-- The null value. -/
  | null
  /-- A truth value. -/
  | boolean (value : Bool)
  /-- A number. -/
  | number (value : Quantity)
  /-- A string. -/
  | text (value : List Char)
  /-- A list. -/
  | sequence (items : List Value)
  /-- Keys with their values in the order of the document. -/
  | mapping (entries : List (Value × Value))
  /-- A value with a tag of its own. -/
  | tagged (tag : List Char) (value : Value)

namespace Value

mutual

/-- Whether two values are the same as keys. -/
def same : Value → Value → Bool
  | .null, .null => true
  | .boolean x, .boolean y => x == y
  | .number x, .number y => x == y
  | .text x, .text y => x == y
  | .sequence x, .sequence y => sameItems x y
  | .mapping x, .mapping y => x.length == y.length && sameEntries x y
  | .tagged s x, .tagged t y => s == t && same x y
  | _, _ => false

/-- Whether two lists have the same items in the same order. -/
def sameItems : List Value → List Value → Bool
  | [], [] => true
  | x :: xs, y :: ys => same x y && sameItems xs ys
  | _, _ => false

/-- Whether every entry of the first list has the same key and value as one of the second. -/
def sameEntries : List (Value × Value) → List (Value × Value) → Bool
  | [], _ => true
  | (key, value) :: rest, other =>
    other.any (fun entry => same key entry.1 && same value entry.2) && sameEntries rest other

end

/-- Whether the value is a given string. -/
def isText (text : List Char) : Value → Bool
  | .text other => text == other
  | _ => false

/-- The value that belongs to a string among entries. -/
def field? (entries : List (Value × Value)) (name : String) : Option Value :=
  (entries.find? fun entry => entry.1.isText name.toList).map (·.2)

end Value

end CatalogAudit.Yaml
