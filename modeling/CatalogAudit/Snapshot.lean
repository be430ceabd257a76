import CatalogAudit.Artifact
import CatalogAudit.Json.Printing
import CatalogAudit.Json.Reading
import CatalogAudit.Registry

/-!
# Snapshots

A snapshot keeps the registered tokens and the catalog of an audit in a file. Every record of it is
read from an object, whose unknown keys do not matter, or from a list of its values in their order.
-/

namespace CatalogAudit

/-- The tokens and the catalog at a time. -/
structure Snapshot where
  /-- The time. -/
  time : String
  /-- The registered tokens in ascending order. -/
  tokens : List String
  /-- The entries of the catalog in their order. -/
  entries : List Manifest.Entry
deriving DecidableEq, Repr

namespace Snapshot

/-- The snapshot of a catalog and a registry. -/
def of (time : String) (manifest : Manifest) (registry : Registry) : Snapshot :=
  { time, tokens := registry.tokens, entries := manifest.entries }

/-! ## Writing -/

/-- An entry as JSON. -/
def entryJson (entry : Manifest.Entry) : Json :=
  .ofMembers
    [("token", .ofString entry.token),
     ("kind", .ofString entry.kind.name),
     ("modes", .ofStrings entry.modes)]

/-- A snapshot as JSON. -/
def toJson (s : Snapshot) : Json :=
  .ofMembers
    [("generated_at", .ofString s.time),
     ("tokens", .ofStrings s.tokens),
     ("entries", .array (s.entries.map entryJson))]

/-- The text of a snapshot. -/
def render (s : Snapshot) : String := String.ofList s.toJson.print

/-- How a snapshot is written to a file. -/
def script (path : Path) (s : Snapshot) : Script (Option Fault) :=
  Artifact.script path s.render.toUTF8

/-- Writes a snapshot to a file in a file tree. -/
def write (tree : FileTree) (path : Path) (s : Snapshot) : FileTree × Option Fault :=
  (s.script path).run tree

/-! ## Reading -/

/-- The values that a record has for the given keys. An object has none of these keys twice, and
every one of its keys has a text; a list has no more values than there are keys. -/
def fields? (keys : List String) : Json → Option (List (Option Json))
  | .object members =>
    if members.all fun member => member.1.isSome then
      keys.mapM fun key =>
        match members.filter fun member => member.1 == some key with
        | [] => some none
        | [(_, value)] => some (some value)
        | _ => none
    else none
  | .array items =>
    if items.length ≤ keys.length then
      some (items.map some ++ List.replicate (keys.length - items.length) none)
    else none
  | _ => none

/-- The kind that a value says: its name, or an object with the name as its only key and nothing
as its value. -/
def kind? : Json → Option EffectKind
  | .string (some name) => EffectKind.ofName? name
  | .object [(some name, .null)] => EffectKind.ofName? name
  | _ => none

/-- The entry that a value says. -/
def entry? (value : Json) : Option Manifest.Entry :=
  match fields? ["token", "kind", "modes"] value with
  | some [some token, some kind, modes] => do
    let token ← token.string?
    let kind ← kind? kind
    let modes ←
      match modes with
      | some modes => modes.strings?
      | none => some []
    return { token, kind, modes }
  | _ => none

/-- The entries that a value says. -/
def entries? : Json → Option (List Manifest.Entry)
  | .array items => items.mapM entry?
  | _ => none

/-- The snapshot that a value says. -/
def ofJson? (value : Json) : Option Snapshot :=
  match fields? ["generated_at", "tokens", "entries"] value with
  | some [some time, some tokens, some entries] => do
    let time ← time.string?
    let tokens ← tokens.strings?
    let entries ← entries? entries
    return { time, tokens, entries }
  | _ => none

/-- The snapshot that a text writes. -/
def ofText? (text : List Char) : Option Snapshot := (Json.ofText? text).bind ofJson?

end Snapshot

end CatalogAudit
