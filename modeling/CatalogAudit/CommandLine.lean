import CatalogAudit.Audit
import CatalogAudit.Report.Rendering
import CatalogAudit.Snapshot

/-!
# The command line

Reads the arguments of the program, carries the audit out and delivers report and snapshot.
Arguments are read from left to right, and the first that cannot be read ends that; so does a
request for help or for the version. Options win over the configuration.
-/

namespace CatalogAudit.CommandLine

/-! ## Arguments -/

/-- The form in which a report is delivered. -/
inductive Format
  /-- For programs. -/
  | json
  /-- For people. -/
  | text
deriving DecidableEq, Repr

/-- The format of a name. -/
def Format.ofName? : String → Option Format
  | "json" => some .json
  | "text" => some .text
  | _ => none

/-- The form of a manifest that an argument asks for. -/
def formOf? : String → Option Manifest.Form
  | "auto" => some .default
  | "structured" => some .structured
  | "line" => some .line
  | _ => none

/-- What the arguments say. -/
structure Options where
  /-- The manifest. -/
  manifest : Option String := none
  /-- The source roots, the last first. -/
  sourceRoots : List String := []
  /-- The root of the repository. -/
  repoRoot : Option Path := none
  /-- The configuration file. -/
  config : Option Path := none
  /-- Where the snapshot is to be written. -/
  out : Option Path := none
  /-- Where the report is to be written. -/
  report : Option Path := none
  /-- Whether duplicate registrations fail the audit. -/
  ci : Bool := false
  /-- The form of the report. -/
  format : Option Format := none
  /-- The form of the manifest. -/
  parser : Option Manifest.Form := none
  /-- Whether the report is to show every file. -/
  details : Bool := false
deriving DecidableEq, Repr

/-- What the arguments ask for. -/
inductive Command
  /-- An audit. -/
  | audit (options : Options)
  /-- The help text. -/
  | help
  /-- The version. -/
  | version
  /-- Nothing, because they cannot be read. -/
  | misuse
deriving DecidableEq, Repr

/-- The path that the value of an option writes; it must not be empty. -/
def pathText? (value : String) : Option String := if value.isEmpty then none else some value

/-- A path as the value of an option. -/
def pathOf? (value : String) : Option Path := (pathText? value).map .ofString

/-- Sets something that is set once at most. -/
def once? {α : Type} (current new : Option α) : Option (Option α) :=
  match current, new with
  | none, some x => some (some x)
  | _, _ => none

/-- Sets an option that has a value: `none` when there is no such option, and `some none` when the
value cannot be used or the option is set already. -/
def Options.setValue (o : Options) (name value : String) : Option (Option Options) :=
  match name with
  | "manifest" => some ((once? o.manifest (pathText? value)).map fun x => { o with manifest := x })
  | "source-root" =>
    some ((pathText? value).map fun x => { o with sourceRoots := x :: o.sourceRoots })
  | "repo-root" => some ((once? o.repoRoot (pathOf? value)).map fun x => { o with repoRoot := x })
  | "config" => some ((once? o.config (pathOf? value)).map fun x => { o with config := x })
  | "out" => some ((once? o.out (pathOf? value)).map fun x => { o with out := x })
  | "report" => some ((once? o.report (pathOf? value)).map fun x => { o with report := x })
  | "format" => some ((once? o.format (Format.ofName? value)).map fun x => { o with format := x })
  | "parser" => some ((once? o.parser (formOf? value)).map fun x => { o with parser := x })
  | _ => none

/-- Whether an option of that name has a value. -/
def hasValue (name : String) : Bool := (({} : Options).setValue name "").isSome

/-- What follows from an option without a value. -/
inductive Switch
  /-- It is set. -/
  | on (options : Options)
  /-- It asks for something else than an audit, or cannot be used. -/
  | stop (command : Command)

/-- Sets an option that has no value. -/
def Options.setFlag (o : Options) (name : String) : Switch :=
  match name with
  | "ci" => if o.ci then .stop .misuse else .on { o with ci := true }
  | "scan-details" => if o.details then .stop .misuse else .on { o with details := true }
  | "verbose" => .on o
  | "help" => .stop .help
  | "version" => .stop .version
  | _ => .stop .misuse

/-- The long name of a one-letter option. -/
def longName : Char → String
  | 'v' => "verbose"
  | 'h' => "help"
  | 'V' => "version"
  | _ => ""

/-- Sets one-letter options that stand together. -/
def Options.setLetters (o : Options) : List Char → Switch
  | [] => .on o
  | c :: rest =>
    match o.setFlag (longName c) with
    | .on o => o.setLetters rest
    | .stop command => .stop command

/-- Reads an argument that begins with two hyphens, without them: `none` when the value that belongs
to it is the next argument. -/
def Options.setLong (o : Options) (argument : List Char) : Option Switch :=
  let name := String.ofList (argument.takeWhile (· != '='))
  match argument.dropWhile (· != '=') with
  | _ :: value =>
    match o.setValue name (String.ofList value) with
    | some (some o) => some (.on o)
    | _ => some (.stop .misuse)
  | [] => if hasValue name then none else some (o.setFlag name)

/-- Whether an argument can be the value of the option before it. -/
def canBeValue (argument : String) : Bool :=
  argument == "-" || !Text.startsWith (· == '-') argument.toList

/-- Reads arguments. -/
def readArguments (o : Options) : List String → Command
  | [] => .audit o
  | argument :: rest =>
    match argument.toList with
    | ['-', '-'] => if rest.isEmpty then .audit o else .misuse
    | '-' :: '-' :: long =>
      match o.setLong long, rest with
      | some (.on o), rest => readArguments o rest
      | some (.stop command), _ => command
      | none, [] => .misuse
      | none, value :: rest =>
        if canBeValue value then
          match o.setValue (String.ofList long) value with
          | some (some o) => readArguments o rest
          | _ => .misuse
        else .misuse
    | '-' :: c :: letters =>
      match o.setLetters (c :: letters) with
      | .on o => readArguments o rest
      | .stop command => command
    | _ => .misuse

/-- The root of the repository. -/
def Options.root (o : Options) : Path := o.repoRoot.getD (.ofString ".")

/-- The configuration with the options in their place. -/
def Options.apply (o : Options) (config : Config) : Config :=
  { config with
    manifest := o.manifest.getD config.manifest
    sourceRoots := if o.sourceRoots.isEmpty then config.sourceRoots else o.sourceRoots.reverse
    strictDuplicates := o.ci || config.strictDuplicates }

/-! ## Running -/

/-- The file to which a fault belongs that comes up when something is delivered. -/
inductive Delivery
  /-- The snapshot. -/
  | snapshot (path : Path)
  /-- The report. -/
  | report (path : Path)
deriving DecidableEq, Repr

/-- The words in front of a fault. -/
def Delivery.context : Delivery → String
  | snapshot path => "failed to write snapshot to " ++ path.toString ++ ": "
  | report path => "failed to write report to " ++ path.toString ++ ": "

/-- Why a run of the program fails. -/
inductive Failure
  /-- The arguments cannot be read. -/
  | misuse
  /-- The audit cannot be carried out, or its results cannot be delivered. -/
  | fault (delivery : Option Delivery) (fault : Fault)
deriving DecidableEq, Repr

/-- The program's name. -/
def programName : String := "effect-audit"

/-- The program's version. -/
def version : String := "0.2.0"

/-- The line that tells of a fault. The cause of a fault is named again behind it. -/
def fatalLine (delivery : Option Delivery) (fault : Fault) : String :=
  let context := (delivery.map Delivery.context).getD ""
  let cause := (fault.cause?.map fun cause => ": " ++ cause).getD ""
  programName ++ ": " ++ context ++ fault.message ++ cause

/-- The line that tells why a run fails. -/
def Failure.line : Failure → String
  | misuse => "error: the arguments cannot be read; for more information, try '--help'."
  | fault delivery f => fatalLine delivery f

/-- How a run of the program ends. -/
structure Ending where
  /-- What is printed. -/
  output : String := ""
  /-- Why the run fails, if it does. -/
  failure : Option Failure := none
  /-- The exit status. -/
  exitCode : Nat

/-- The ending of a run that fails. -/
def failed (failure : Failure) : Ending := { failure := some failure, exitCode := 2 }

/-- A text with a line end behind its last line. -/
def closeLine (text : String) : String :=
  if text.toList.getLast? = some '\n' then text else text ++ "\n"

/-- Delivers the report: to a file if one is named, and else as output. -/
def deliverReport (path : Option Path) (text : String) (decision : Decision) : Script Ending :=
  match path with
  | none => return { output := closeLine text, exitCode := decision.exitCode }
  | some path => do
    match ← Artifact.script path text.toUTF8 with
    | none => return { exitCode := decision.exitCode }
    | some fault => return failed (.fault (some (.report path)) fault)

/-- Delivers the snapshot, if one is asked for, and then the report. -/
def deliver (time : String) (o : Options) (audit : Audit) : Script Ending :=
  let text :=
    match o.format.getD .json with
    | .json => audit.report.renderJson audit.decision
    | .text => audit.report.renderText audit.decision
  match o.out with
  | none => deliverReport o.report text audit.decision
  | some path => do
    match ← (Snapshot.of time audit.manifest audit.scan.registry).script path with
    | none => deliverReport o.report text audit.decision
    | some fault => return failed (.fault (some (.snapshot path)) fault)

/-- The audit that options ask for. -/
def auditOf (tree : FileTree) (o : Options) : Except Fault Audit := do
  let config ← Config.discover tree o.root o.config
  Audit.run tree
    { root := o.root
      config := o.apply config
      form := o.parser.getD .default
      details := o.details }

/-- The lines of the help text. -/
def helpLines : List String := [
  "Audit the effect registry against the effects manifest",
  "",
  "Usage: effect-audit [OPTIONS]",
  "",
  "Options:",
  "      --manifest <MANIFEST>    Path to the effects manifest (default: docs/effects_manifest.yaml)",
  "      --source-root <DIR>      Source root to scan (repeatable)",
  "      --repo-root <REPO_ROOT>  Repository root that relative paths resolve against [default: .]",
  "      --config <CONFIG>        Config file (default: effect-audit.json in the repository root)",
  "      --out <PATH>             Write a JSON snapshot of tokens and manifest entries",
  "      --report <PATH>          Write the report to a file instead of stdout",
  "      --ci                     CI strictness: duplicate registrations fail the audit",
  "      --format <FORMAT>        [default: json] [possible values: json, text]",
  "      --parser <PARSER>        Manifest parser [default: auto]",
  "      --scan-details           Include every scanned file in the report",
  "  -v, --verbose...             Increase log verbosity",
  "  -h, --help                   Print help",
  "  -V, --version                Print version"]

/-- The help text. -/
def helpText : String := String.join (helpLines.map fun line => line ++ "\n")

/-- What the program does with the file tree that it finds. -/
def script (tree : FileTree) (time : String) (arguments : List String) : Script Ending :=
  match readArguments {} arguments with
  | .misuse => return failed .misuse
  | .help => return { output := helpText, exitCode := 0 }
  | .version => return { output := programName ++ " " ++ version ++ "\n", exitCode := 0 }
  | .audit o =>
    match auditOf tree o with
    | .error fault => return failed (.fault none fault)
    | .ok audit => deliver time o audit

/-- What a run of the program leaves behind. -/
structure Outcome extends Ending where
  /-- The file tree. -/
  tree : FileTree

/-- Runs the program on a file tree. -/
def run (tree : FileTree) (time : String) (arguments : List String) : Outcome :=
  let (after, ending) := (script tree time arguments).run tree
  { ending with tree := after }

end CatalogAudit.CommandLine
