import CatalogAudit.Json.Reading
import CatalogAudit.Path

/-!
# Configuration

What an audit is told: where the manifest and the sources are, which files are sources, and how
registrations are recognised. A configuration is written as a JSON object, whose keys may be left
out but are neither repeated nor unknown, or as a list of the values in the order of the fields.
-/

namespace CatalogAudit

/-- Settings of an audit. Relative paths begin at the root of the repository. -/
structure Config where
  /-- The manifest. -/
  manifest : String := "docs/effects_manifest.yaml"
  /-- The folders that are scanned. -/
  sourceRoots : List String := ["libs/avs-effects-legacy/src"]
  /-- File-name patterns of source files. -/
  extensions : List String := ["*.cpp"]
  /-- Pattern of a registration; its first group is the token. -/
  tokenPattern : String := "REGISTER_AVS_EFFECT\\(\\s*[^,]+,\\s*\"([^\"]+)\"\\s*\\)"
  /-- Pattern of a declaration; its first group is the declared name. -/
  symbolPattern : String := "\\b(?:class|struct)\\s+([A-Za-z_][A-Za-z0-9_]*)"
  /-- Pattern of a file name; its first group is the name of an effect. -/
  heuristicPattern : String := "^effect_([A-Za-z0-9_]+)\\.[A-Za-z0-9]+$"
  /-- File-name patterns of files that bundle registrations. -/
  monolithFiles : List String := ["effects_*.cpp", "registry.cpp", "effect_registry.cpp"]
  /-- Whether duplicate registrations fail the audit. -/
  strictDuplicates : Bool := false
deriving DecidableEq, Repr

namespace Config

/-- The name of the file in which a repository keeps its configuration. -/
def fileName : String := "effect-audit.json"

/-- A field of a configuration. -/
inductive Field
  /-- The manifest. -/
  | manifest
  /-- The folders that are scanned. -/
  | sourceRoots
  /-- File-name patterns of source files. -/
  | extensions
  /-- Pattern of a registration. -/
  | tokenPattern
  /-- Pattern of a declaration. -/
  | symbolPattern
  /-- Pattern of a file name. -/
  | heuristicPattern
  /-- File-name patterns of files that bundle registrations. -/
  | monolithFiles
  /-- Whether duplicate registrations fail the audit. -/
  | strictDuplicates
deriving DecidableEq, Repr

namespace Field

/-- All fields in their order. -/
def all : List Field :=
  [manifest, sourceRoots, extensions, tokenPattern, symbolPattern, heuristicPattern, monolithFiles,
    strictDuplicates]

/-- The key of a field. -/
def key : Field → String
  | manifest => "manifest"
  | sourceRoots => "source_roots"
  | extensions => "extensions"
  | tokenPattern => "token_pattern"
  | symbolPattern => "symbol_pattern"
  | heuristicPattern => "heuristic_pattern"
  | monolithFiles => "monolith_files"
  | strictDuplicates => "strict_duplicates"

/-- The field of a key. -/
def ofKey? (key : String) : Option Field := all.find? fun field => field.key == key

end Field

/-- Sets a field to what a JSON value says. -/
def set? (config : Config) (value : Json) : Field → Option Config
  | .manifest => value.string?.map fun manifest => { config with manifest }
  | .sourceRoots => value.strings?.map fun sourceRoots => { config with sourceRoots }
  | .extensions => value.strings?.map fun extensions => { config with extensions }
  | .tokenPattern => value.string?.map fun tokenPattern => { config with tokenPattern }
  | .symbolPattern => value.string?.map fun symbolPattern => { config with symbolPattern }
  | .heuristicPattern => value.string?.map fun heuristicPattern => { config with heuristicPattern }
  | .monolithFiles => value.strings?.map fun monolithFiles => { config with monolithFiles }
  | .strictDuplicates => value.truth?.map fun strictDuplicates => { config with strictDuplicates }

/-- Sets the fields of an object's members; none of them is among those in `seen`. -/
def setMembers? (config : Config) (seen : List Field) :
    List (Option String × Json) → Option Config
  | [] => some config
  | (key, value) :: members =>
    match key.bind Field.ofKey? with
    | none => none
    | some field =>
      if seen.contains field then none
      else
        match config.set? value field with
        | none => none
        | some config => config.setMembers? (field :: seen) members

/-- Sets fields one after another to the values of a list, which has no more of them. -/
def setItems? (config : Config) : List Field → List Json → Option Config
  | _, [] => some config
  | [], _ :: _ => none
  | field :: fields, value :: values =>
    match config.set? value field with
    | none => none
    | some config => config.setItems? fields values

/-- The configuration that a JSON value says; what it leaves out keeps its default. -/
def ofJson? : Json → Option Config
  | .object members => ({} : Config).setMembers? [] members
  | .array items => ({} : Config).setItems? Field.all items
  | _ => none

/-- The configuration that a text writes. -/
def ofText? (text : List Char) : Option Config := (Json.ofText? text).bind ofJson?

/-- Where the manifest is when the repository is at `root`. -/
def manifestPath (config : Config) (root : Path) : Path := root.join (.ofString config.manifest)

/-- Where the sources are when the repository is at `root`. -/
def sourceRootPaths (config : Config) (root : Path) : List Path :=
  config.sourceRoots.map fun sources => root.join (.ofString sources)

end Config

end CatalogAudit
