import CatalogAudit.Text.Quoted

/-!
# Kinds of catalog entries

Every entry of the catalog declares one of three kinds, by a name that is matched exactly.
-/

namespace CatalogAudit

/-- What an entry of the catalog declares. -/
inductive EffectKind
  /-- An effect proper. -/
  | effect
  /-- A placeholder that stands for effects not known to the catalog. -/
  | sentinel
  /-- Something that effects rely on. -/
  | support
deriving DecidableEq, Repr

namespace EffectKind

/-- All kinds, in the order in which messages list them. -/
def all : List EffectKind := [effect, sentinel, support]

/-- The name that a manifest writes for the kind. -/
def name : EffectKind → String
  | effect => "effect"
  | sentinel => "sentinel"
  | support => "support"

/-- The kind of that name, if there is one. -/
def ofName? (text : String) : Option EffectKind := all.find? fun kind => kind.name == text

/-- What is said of a name that is no kind's. -/
def unknownMessage (text : String) : String :=
  "expected one of effect, sentinel, support (got " ++ Text.quotedString text ++ ")"

/-- A kind is known by its name. -/
theorem ofName?_name (kind : EffectKind) : ofName? kind.name = some kind := by
  cases kind <;> decide

/-- A name that is known is that of its kind. -/
theorem name_eq_of_ofName? {text : String} {kind : EffectKind} (h : ofName? text = some kind) :
    kind.name = text := by
  have := List.find?_some h
  simpa using this

end EffectKind

end CatalogAudit
