import CatalogAudit.FileTree.Basic

/-!
# Walking through a folder

A walk visits all files below a root, through links too. Entries whose name begins with a dot are
passed over; a link is looked up before that, so a dot does not hide that it leads nowhere. A link
to a folder through which the walk has come is a loop and is not followed. The walk therefore ends:
it goes down in a folder only as far as the tree is deep, and it enters a folder by a link only when
it has not come through that folder before.
-/

namespace CatalogAudit.FileTree

/-- Why an entry cannot be visited. -/
inductive WalkFault
  /-- The entry cannot be looked up. -/
  | file (path : Path) (error : FileError)
  /-- A link leads back to a folder through which the walk has come. -/
  | loop (path ancestor : Path)
deriving DecidableEq, Repr

/-- The path of the entry at fault. -/
def WalkFault.path : WalkFault → Path
  | file path _ => path
  | loop path _ => path

/-- The words for a fault of a walk. -/
def WalkFault.message : WalkFault → String
  | file path error => "IO error for operation on " ++ path.toString ++ ": " ++ error.message
  | loop path ancestor =>
    "File system loop found: " ++ path.toString ++ " points to an ancestor " ++ ancestor.toString

/-- What a walk comes upon. -/
inductive Visit
  /-- A file. -/
  | file (path : Path)
  /-- An entry that cannot be visited. -/
  | fault (fault : WalkFault)
deriving DecidableEq, Repr

/-- Whether a walk passes over entries of that name. -/
def isHidden (name : Name) : Bool := (Text.decode name).head? == some '.'

/-- A folder through which a walk has come. -/
structure Ancestor where
  /-- Where it is. -/
  location : Location
  /-- The path by which the walk came to it. -/
  path : Path

/-- Visits an entry of a folder. `enter` walks through a folder, which becomes the nearest of the
ancestors. -/
def visitEntry (tree : FileTree) (enter : List Ancestor → List Visit) (ancestors : List Ancestor)
    (folder : Ancestor) (name : Name) (item : Item) : List Visit :=
  let path := folder.path.join ⟨name⟩
  match item with
  | .file _ => if isHidden name then [] else [.file path]
  | .folder =>
    if isHidden name then []
    else enter ({ location := folder.location ++ [name], path } :: ancestors)
  | .link _ =>
    match tree.resolve path with
    | .error e => [.fault (.file path e)]
    | .ok (location, item) =>
      if item.isFolder then
        match ancestors.find? fun ancestor => ancestor.location == location with
        | some ancestor => [.fault (.loop path ancestor.path)]
        | none => if isHidden name then [] else enter ({ location, path } :: ancestors)
      else if isHidden name then []
      else [.file path]

/-- Walks through the nearest of the ancestors. `fuel` bounds their number. -/
def walkFrom (tree : FileTree) : (fuel : Nat) → List Ancestor → List Visit
  | 0, _ => []
  | _, [] => []
  | fuel + 1, folder :: above =>
    match tree.resolve folder.path with
    | .error e => [.fault (.file folder.path e)]
    | .ok _ =>
      (tree.children folder.location).flatMap fun (name, item) =>
        visitEntry tree (walkFrom tree fuel) (folder :: above) folder name item

/-- A number of folders through which no walk comes at the same time: links enter every folder once
at most, and below each of them lie no more folders than the tree is deep. -/
def depthBound (tree : FileTree) : Nat :=
  let deepest := tree.items.foldl (fun depth entry => max depth entry.1.length) 0
  (tree.items.length + 2) * (deepest + 2)

/-- Walks through the folder to which a path leads. -/
def walk (tree : FileTree) (root : Path) : List Visit :=
  match tree.resolve root with
  | .error e => [.fault (.file root e)]
  | .ok (location, .folder) => tree.walkFrom tree.depthBound [{ location, path := root }]
  | .ok (_, _) => [.file root]

end CatalogAudit.FileTree
