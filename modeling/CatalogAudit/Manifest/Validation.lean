import CatalogAudit.Manifest.Kind
import CatalogAudit.Manifest.RawEntry

/-!
# Validation of entries

The one place where the schema of a manifest is enforced. An entry needs a token and a kind, may
list modes, and its token is not that of an earlier entry. The first entry at fault decides the
message; within it the token is looked at first, then the kind, the modes and the repetition.
-/

namespace CatalogAudit.Manifest

/-- A valid entry of the catalog. -/
structure Entry where
  /-- The token by which sources register what the entry declares. -/
  token : String
  /-- What it declares. -/
  kind : EffectKind
  /-- The modes it lists. -/
  modes : List String
deriving DecidableEq, Repr

/-- What is wrong with an entry. An entry without a token is named by its position, counted from
one. -/
inductive EntryFault
  /-- There is no token, or an empty one. -/
  | tokenMissing (position : Nat)
  /-- The token is no string. -/
  | tokenNotString (position : Nat) (found : ValueType)
  /-- There is no kind. -/
  | kindMissing (token : String)
  /-- The kind is no string. -/
  | kindNotString (token : String) (found : ValueType)
  /-- No kind has that name. -/
  | kindUnknown (token name : String)
  /-- The modes are no list of strings. -/
  | modesNotList (token : String)
  /-- An earlier entry has the same token. -/
  | repeatedToken (token : String)
deriving DecidableEq, Repr

/-- The name that messages give to an entry without a token. -/
def placeName (position : Nat) : String := "<entry " ++ toString position ++ ">"

/-- The words for a fault in one field of the entry called `entry`. -/
def fieldMessage (entry field reason : String) : String :=
  "invalid manifest entry " ++ Text.quotedString entry ++ " (field `" ++ field ++ "`): " ++ reason

/-- The words for a fault. -/
def EntryFault.message : EntryFault → String
  | tokenMissing position =>
    fieldMessage (placeName position) "token" "manifest entry missing token"
  | tokenNotString position found =>
    fieldMessage (placeName position) "token" ("token must be a string (got " ++ found.name ++ ")")
  | kindMissing token => fieldMessage token "kind" "manifest entry missing kind"
  | kindNotString token found =>
    fieldMessage token "kind" ("kind must be a string (got " ++ found.name ++ ")")
  | kindUnknown token name => fieldMessage token "kind" (EffectKind.unknownMessage name)
  | modesNotList token => fieldMessage token "modes" "modes must be a list of strings"
  | repeatedToken token => "duplicate token in manifest: " ++ Text.quotedString token

/-- The token of an entry at a position. -/
def checkToken (position : Nat) : Option RawValue → Except EntryFault String
  | some (.text token) => if token.isEmpty then .error (.tokenMissing position) else .ok token
  | some (.other found) => .error (.tokenNotString position found)
  | none => .error (.tokenMissing position)

/-- The kind of the entry with a token. -/
def checkKind (token : String) : Option RawValue → Except EntryFault EffectKind
  | some (.text name) =>
    match EffectKind.ofName? name with
    | some kind => .ok kind
    | none => .error (.kindUnknown token name)
  | some (.other found) => .error (.kindNotString token found)
  | none => .error (.kindMissing token)

/-- The modes of the entry with a token. -/
def checkModes (token : String) : RawModes → Except EntryFault (List String)
  | .absent => .ok []
  | .list modes => .ok modes
  | .invalid => .error (.modesNotList token)

/-- Checks one entry by itself. -/
def checkEntry (position : Nat) (raw : RawEntry) : Except EntryFault Entry :=
  match checkToken position raw.token with
  | .error fault => .error fault
  | .ok token =>
    match checkKind token raw.kind with
    | .error fault => .error fault
    | .ok kind =>
      match checkModes token raw.modes with
      | .error fault => .error fault
      | .ok modes => .ok { token, kind, modes }

/-- Checks entries, the first of which has the position given, after those already valid, which
are given backwards. -/
def validateFrom (valid : List Entry) (position : Nat) :
    List RawEntry → Except EntryFault (List Entry)
  | [] => .ok valid.reverse
  | raw :: rest =>
    match checkEntry position raw with
    | .error fault => .error fault
    | .ok entry =>
      if valid.any fun earlier => earlier.token == entry.token then
        .error (.repeatedToken entry.token)
      else validateFrom (entry :: valid) (position + 1) rest

/-- Checks all entries of a manifest. -/
def validate (raw : List RawEntry) : Except EntryFault (List Entry) := validateFrom [] 1 raw

end CatalogAudit.Manifest
