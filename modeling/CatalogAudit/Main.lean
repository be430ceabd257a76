import CatalogAudit.CommandLine
import CatalogAudit.Timestamp

/-!
# The program

The part that touches the outside world. It loads what an audit looks at into a file tree, lets the
command line decide on that tree what is to be done, makes the calls for it, and prints.
-/

namespace CatalogAudit.Main

/-! ## Loading -/

/-- What has been loaded. -/
structure Loaded where
  /-- The file tree. -/
  tree : FileTree
  /-- The folders whose entries have been loaded. -/
  opened : List Location := []

/-- The real location of what a path leads to. -/
def realLocation (path : Path) : IO Location := do
  return (Path.ofString (← IO.FS.realPath path.toString).toString).names

/-- The entry of a folder, by its name. -/
def entryOf (folder : Location) (name : Name) : IO.FS.DirEntry :=
  ⟨(FileTree.pathOf folder).toString, String.ofList (Text.decode name)⟩

/-- A target for links that lead nowhere: a name that no entry has. -/
def nowhere : Path := ⟨[0]⟩

/-- Where a link leads in the end. One that leads from link to link without an end leads to itself.
-/
def targetOf (link : IO.FS.DirEntry) : IO Path := do
  try
    let _ ← link.path.metadata
    return FileTree.pathOf (← realLocation (.ofString link.path.toString))
  catch
    | .invalidArgument .. => return .ofString link.path.toString
    | _ => return nowhere

/-- The item at a real location. -/
def itemAt (location : Location) : IO (Option Item) := do
  match location.getLast? with
  | none => return some .folder
  | some name =>
    let entry := entryOf location.dropLast name
    try
      match (← entry.path.symlinkMetadata).type with
      | .dir => return some .folder
      | .file => return some (.file (← IO.FS.readBinFile entry.path))
      | .symlink => return some (.link (← targetOf entry))
      | .other => return none
    catch
      | .noFileOrDirectory .. => return none
      | e => throw e

/-- Adds the folders above a real location. -/
def addAbove (tree : FileTree) (location : Location) : FileTree :=
  (List.range location.length).foldl (fun tree count =>
    let above := location.take count
    if (tree.item? above).isSome then tree else tree.put above .folder) tree

/-- Adds the item at a real location, and what it leads to if it is a link. The result is the
location of that. -/
def add (loaded : Loaded) (location : Location) : IO (Loaded × Location) := do
  match ← itemAt location with
  | none => return (loaded, location)
  | some (.link target) =>
    let tree := (addAbove loaded.tree location).put location (.link target)
    if target = nowhere || target.names = location then
      return ({ loaded with tree }, location)
    match ← itemAt target.names with
    | none => return ({ loaded with tree }, location)
    | some item =>
      let tree := (addAbove tree target.names).put target.names item
      return ({ loaded with tree }, target.names)
  | some item =>
    if location.isEmpty then return (loaded, location)
    return ({ loaded with tree := (addAbove loaded.tree location).put location item }, location)

/-- Adds what a path leads to, and the links on the way. -/
def addPath (loaded : Loaded) (path : Path) : IO Loaded := do
  let absolute := (FileTree.pathOf loaded.tree.home).join path
  let mut loaded := loaded
  for part in (Script.lineage absolute (absolute.text.length + 1)).reverse do
    try
      let location ←
        match part.fileName?, part.parent? with
        | some name, some folder => do pure ((← realLocation folder) ++ [name])
        | _, _ => realLocation part
      loaded := (← add loaded location).1
    catch
      | .noFileOrDirectory .. => return loaded
      | .inappropriateType .. => return loaded
      | e => throw e
  return loaded

/-- Adds all that lies below a folder, through links too. -/
partial def addBelow (loaded : Loaded) (folder : Location) : IO Loaded := do
  if loaded.opened.contains folder then return loaded
  let mut loaded := { loaded with opened := folder :: loaded.opened }
  for entry in ← (entryOf folder [Path.dot]).path.readDir do
    let (more, location) ← add loaded (folder ++ [.ofString entry.fileName])
    loaded := more
    if let some .folder := loaded.tree.item? location then loaded ← addBelow loaded location
  return loaded

/-- Adds a folder of sources with all that lies below it. -/
def addSources (loaded : Loaded) (path : Path) : IO Loaded := do
  let loaded ← addPath loaded path
  match loaded.tree.resolve path with
  | .ok (location, .folder) => addBelow loaded location
  | _ => return loaded

/-- Loads what an audit looks at. -/
def load (o : CommandLine.Options) : IO FileTree := do
  let home ← realLocation (.ofString ".")
  let (loaded, _) ← add { tree := { home } } home
  let loaded ← addPath loaded o.root
  let loaded ← addPath loaded (o.root.join (o.config.getD (.ofString Config.fileName)))
  match Config.discover loaded.tree o.root o.config with
  | .error _ => return loaded.tree
  | .ok config =>
    let config := o.apply config
    let loaded ← addPath loaded (config.manifestPath o.root)
    return (← (config.sourceRootPaths o.root).foldlM addSources loaded).tree

/-! ## Calls -/

/-- The error of a file operation, told by its number in the system. -/
def errorOf : IO.Error → FileError
  | .noFileOrDirectory .. => .missing
  | .alreadyExists .. => .taken
  | .inappropriateType _ 20 _ => .notFolder
  | .inappropriateType _ 21 _ => .isFolder
  | .invalidArgument _ 36 _ => .nameTooLong
  | .invalidArgument _ 40 _ => .linkLoop
  | .resourceBusy .. => .busy
  | e => .other e.toString

/-- Makes a change in the outside world. -/
def attempt {α : Type} (answer : α) (change : IO Unit) : IO (Except FileError α) := do
  try
    change
    return .ok answer
  catch e => return .error (errorOf e)

/-- Makes a call in the outside world. -/
def answer : (call : Call) → IO call.Answer
  | .makeFolder p => attempt () (IO.FS.createDir p.toString)
  | .isFolder p => do
    try (← IO.FS.realPath p.toString).isDir
    catch _ => return false
  | .create p => attempt () (IO.FS.writeBinFile p.toString .empty)
  | .extend p bytes =>
    attempt bytes.size (IO.FS.withFile p.toString .append fun file => file.write bytes)
  | .move source p => attempt () (IO.FS.rename source.toString p.toString)
  | .remove p => attempt () (IO.FS.removeFile p.toString)

/-- Carries a script out in the outside world. -/
def carryOut {α : Type} : Script α → IO α
  | .done result => return result
  | .ask call next => do carryOut (next (← answer call))

/-! ## Running -/

/-- The present moment, which is when a new file is made. -/
def now : IO Moment := do
  let (_, path) ← IO.FS.createTempFile
  let time := (← path.metadata).modified
  IO.FS.removeFile path
  return { seconds := time.1.toNat, nanoseconds := time.2.toNat }

/-- Runs the program in the outside world. -/
def run (arguments : List String) : IO UInt32 := do
  let tree ←
    match CommandLine.readArguments {} arguments with
    | .audit o => load o
    | _ => pure {}
  let ending ← carryOut (CommandLine.script tree (← now).toString arguments)
  IO.print ending.output
  if let some failure := ending.failure then IO.eprintln failure.line
  return ending.exitCode.toUInt32

end CatalogAudit.Main

/-- Carries an audit out as the arguments ask for. -/
def main (arguments : List String) : IO UInt32 := do
  try CatalogAudit.Main.run arguments
  catch e =>
    IO.eprintln (CatalogAudit.CommandLine.programName ++ ": " ++ e.toString)
    return 2
