import CatalogAudit.FileTree.Walk
import CatalogAudit.Scan.Outcome
import CatalogAudit.Scan.Settings

/-!
# Scanning source roots

All source files below the roots are collected first. A file that is reached in several ways counts
once, under the least of the paths by which it would be shown. Files that would be shown alike are
shown by the whole paths by which they were reached. Then the files are read in the order of the
paths shown, so that the order in which folders list their entries shows nowhere.
-/

namespace CatalogAudit.Scan

/-- A source file that a walk has reached. -/
structure SourceFile where
  /-- The path by which it was reached. -/
  path : Path
  /-- The steps to the file from the top of the file tree, without links; the steps of `path` when
  those cannot be found. -/
  canonical : List Path.Step
  /-- The path by which reports show it. -/
  shown : String
deriving DecidableEq, Repr

/-! ## Order -/

/-- The place of a kind of step in the order of steps. -/
def stepRank : Path.Step → Nat
  | .top => 0
  | .here => 1
  | .up => 2
  | .down _ => 3

/-- Whether one step comes before another: by kind, and by name among steps down. -/
def stepBefore (x y : Path.Step) : Bool :=
  match x, y with
  | .down x, .down y => decide (x < y)
  | x, y => stepRank x < stepRank y

/-- Whether steps come before others, or are the same. -/
def stepsAtMost : List Path.Step → List Path.Step → Bool
  | [], _ => true
  | _ :: _, [] => false
  | x :: xs, y :: ys => if x = y then stepsAtMost xs ys else stepBefore x y

/-- The order of source files by place and then by the path shown. -/
def SourceFile.atMost (a b : SourceFile) : Bool :=
  if a.canonical = b.canonical then decide (a.shown ≤ b.shown)
  else stepsAtMost a.canonical b.canonical

/-! ## Collecting -/

/-- The source file at a path below a root. -/
def sourceFile (tree : FileTree) (root path : Path) : SourceFile :=
  { path
    canonical :=
      match tree.realLocation? path with
      | some location => (FileTree.pathOf location).steps
      | none => path.steps
    shown := String.ofList (path.display root) }

/-- The file that a visit reached, if it is a source file. -/
def fileOf? (tree : FileTree) (extensions : List Glob) (root : Path) :
    FileTree.Visit → Option SourceFile
  | .file path =>
    if Glob.acceptsAny extensions (path.fileName?.getD path.text) then
      some (sourceFile tree root path)
    else none
  | .fault _ => none

/-- The fault that a visit met, if it met one. -/
def faultOf? (root : Path) : FileTree.Visit → Option Unreadable
  | .file _ => none
  | .fault fault =>
    some { path := String.ofList (fault.path.display root), reason := fault.message }

/-- Checks that a root is a folder. -/
def checkRoot (tree : FileTree) (root : Path) : Except Fault Unit :=
  match tree.resolve root with
  | .ok (_, .folder) => .ok ()
  | .ok (_, _) => .error (.rootNotFolder root)
  | .error e => .error (.rootUnreadable root e)

/-- Walks through a root. -/
def visitsOf (tree : FileTree) (root : Path) : Except Fault (Path × List FileTree.Visit) :=
  match checkRoot tree root with
  | .error fault => .error fault
  | .ok () => .ok (root, tree.walk root)

/-! ## Telling files apart -/

/-- The files behind `last` that are at another place than the one before them. -/
def dropSameAs (last : List Path.Step) : List SourceFile → List SourceFile
  | [] => []
  | file :: files =>
    if file.canonical = last then dropSameAs last files
    else file :: dropSameAs file.canonical files

/-- The first of the files at each place, when files at the same place stand together. -/
def firstOfEach : List SourceFile → List SourceFile
  | [] => []
  | file :: files => file :: dropSameAs file.canonical files

/-- The whole path by which a file was reached, with slashes for backslashes. -/
def SourceFile.wholePath (file : SourceFile) : String :=
  String.ofList ((Text.decode file.path.text).map fun c => if c = '\\' then '/' else c)

/-- The files, with those that would be shown alike shown by their whole paths. -/
def tellApart (files : List SourceFile) : List SourceFile :=
  files.map fun file =>
    if 1 < (files.filter fun other => other.shown == file.shown).length then
      { file with shown := file.wholePath }
    else file

/-- The files that are read, in the order in which that is done. -/
def arrange (files : List SourceFile) : List SourceFile :=
  (tellApart (firstOfEach (files.mergeSort SourceFile.atMost))).mergeSort fun a b =>
    decide (a.shown ≤ b.shown)

/-! ## Reading -/

/-- Reads a source file. -/
def readFile (tree : FileTree) (patterns : Patterns) (file : SourceFile) :
    Except Unreadable Entry :=
  match tree.readText file.path with
  | .ok text =>
    .ok (patterns.extract file.shown (Text.decode (file.path.fileName?.getD [])) text)
  | .error e => .error { path := file.shown, reason := e.message }

/-- The outcome of reading files, when other things have been found unreadable before. -/
def outcomeOf (results : List (Except Unreadable Entry)) (unreadable : List Unreadable) : Outcome :=
  let entries := results.filterMap fun
    | .ok entry => some entry
    | .error _ => none
  let failed := results.filterMap fun
    | .ok _ => none
    | .error file => some file
  { registry := registryOf entries
    entries
    unreadable := (unreadable ++ failed).mergeSort fun a b => decide (a.path ≤ b.path) }

/-- The outcome of walks through roots. -/
def ofVisits (tree : FileTree) (settings : Settings)
    (visits : List (Path × List FileTree.Visit)) : Outcome :=
  let files := visits.flatMap fun (root, visits) =>
    visits.filterMap (fileOf? tree settings.extensions root)
  let faults := visits.flatMap fun (root, visits) => visits.filterMap (faultOf? root)
  outcomeOf ((arrange files).map (readFile tree settings.patterns)) faults

/-- Scans source roots, all of which must be folders. -/
def run (tree : FileTree) (settings : Settings) (roots : List Path) : Except Fault Outcome :=
  (roots.mapM (visitsOf tree)).map (ofVisits tree settings)

end CatalogAudit.Scan
