import CatalogAudit.FileTree.Change

/-!
# Calls to the system

The program changes the file tree by calls to the system, one after another, and the answers decide
how it goes on. A script says this without saying what the system does. It can be carried out in the
outside world, where every call may fail; it can also be run on a file tree, where only those calls
fail that the tree itself forbids. Nobody else changes the tree in the meantime.
-/

namespace CatalogAudit

/-- A call to the system. -/
inductive Call
  /-- Make a folder. -/
  | makeFolder (p : Path)
  /-- Ask whether a path leads to a folder. -/
  | isFolder (p : Path)
  /-- Open a file for writing. It is made if it is not there, and else emptied. -/
  | create (p : Path)
  /-- Write bytes to the file that has been opened, behind those that it has. -/
  | extend (p : Path) (bytes : ByteArray)
  /-- Move a file to another place. -/
  | move (source p : Path)
  /-- Remove a file. -/
  | remove (p : Path)

namespace Call

/-- What a call is answered. Of bytes to be written, the answer says how many have been taken. -/
def Answer : Call → Type
  | isFolder _ => Bool
  | extend _ _ => Except FileError Nat
  | makeFolder _ | create _ | move _ _ | remove _ => Except FileError Unit

/-- The tree after a change, with an answer if the change was possible. -/
def settle {α : Type} (tree : FileTree) (answer : α) :
    Except FileError FileTree → FileTree × Except FileError α
  | .ok changed => (changed, .ok answer)
  | .error e => (tree, .error e)

/-- What a call makes of a file tree, and what it is answered. -/
def on (tree : FileTree) : (call : Call) → FileTree × call.Answer
  | makeFolder p => settle tree () (tree.makeFolder p)
  | isFolder p => (tree, tree.isFolder p)
  | create p => settle tree () (tree.create p)
  | extend p bytes => settle tree bytes.size (tree.extend p bytes)
  | move source p => settle tree () (tree.move source p)
  | remove p => settle tree () (tree.remove p)

end Call

/-- What a program does by calls to the system: it is done, or it makes a call and goes on by the
answer. -/
inductive Script (α : Type)
  /-- The program is done. -/
  | done (result : α)
  /-- The program makes a call. -/
  | ask (call : Call) (next : call.Answer → Script α)

namespace Script

variable {α β : Type}

/-- One script after another, which may look at the result of the first. -/
def bind : Script α → (α → Script β) → Script β
  | done result, rest => rest result
  | ask call next, rest => ask call fun answer => (next answer).bind rest

instance : Monad Script where
  pure := done
  bind := bind

/-- The script of a single call. -/
def call (c : Call) : Script c.Answer := ask c done

/-- Runs a script on a file tree. -/
def run (tree : FileTree) : Script α → FileTree × α
  | done result => (tree, result)
  | ask call next => run (call.on tree).1 (next (call.on tree).2)

/-! ## Folders -/

/-- A path and what is left of it when its last steps are taken off one by one, as long as there
is anything left. -/
def lineage (p : Path) : (count : Nat) → List Path
  | 0 => []
  | count + 1 =>
    if p.text.isEmpty then []
    else
      match p.parent? with
      | some parent => p :: lineage parent count
      | none => [p]

/-- Looks for the first path of a lineage that is a folder or can be made one; the paths before it
are still to be made, and come out in the order in which that is to be done. -/
def makeFirst (pending : List Path) : List Path → Script (Except FileError (List Path))
  | [] => return .ok pending
  | p :: above => do
    match ← call (.makeFolder p) with
    | .ok () => return .ok pending
    | .error .missing => makeFirst (p :: pending) above
    | .error e =>
      let isThere : Bool ← call (.isFolder p)
      if isThere then return .ok pending else return .error e

/-- Makes folders in the order given; those that are there already may stay. -/
def makeRest : List Path → Script (Option FileError)
  | [] => return none
  | p :: below => do
    match ← call (.makeFolder p) with
    | .ok () => makeRest below
    | .error e =>
      let isThere : Bool ← call (.isFolder p)
      if isThere then makeRest below else return some e

/-- Makes a folder and all those above it. -/
def makeFolders (p : Path) : Script (Option FileError) := do
  match ← makeFirst [] (lineage p (p.text.length + 1)) with
  | .error e => return some e
  | .ok pending => makeRest pending

/-! ## Files -/

/-- Why writing stops when the system takes no more bytes. -/
def tookNothing : FileError := .other "failed to write whole buffer"

/-- Writes bytes to a file that has been opened, as many at a time as the system takes. It takes one
at least each time, so as many calls as there are bytes are enough. -/
def extendAll (p : Path) : (calls : Nat) → ByteArray → Script (Option FileError)
  | 0, _ => return none
  | calls + 1, bytes => do
    if bytes.isEmpty then return none
    match ← call (.extend p bytes) with
    | .error e => return some e
    | .ok 0 => return some tookNothing
    | .ok taken => extendAll p calls (bytes.extract taken bytes.size)

/-- Writes a file. -/
def writeFile (p : Path) (bytes : ByteArray) : Script (Option FileError) := do
  match ← call (.create p) with
  | .error e => return some e
  | .ok () => extendAll p bytes.size bytes

end Script

end CatalogAudit
