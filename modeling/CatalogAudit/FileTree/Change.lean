import CatalogAudit.FileTree.Basic

/-!
# Changes to a file tree

Making folders, opening files and writing bytes to them, moving and removing. Bytes that are written
to a file show under all its names. A change that fails leaves the tree as it was.
-/

namespace CatalogAudit.FileTree

/-- The tree with an item put at a location, in the place of the one there if there is one. -/
def put (tree : FileTree) (location : Location) (item : Item) : FileTree :=
  let others := tree.items.filter fun entry => entry.1 != location
  { tree with
    items := others ++ [(location, item)]
    numbers := tree.numbers.filter fun entry => entry.1 != location }

/-- The tree without the item at a location. -/
def erase (tree : FileTree) (location : Location) : FileTree :=
  { tree with
    items := tree.items.filter fun entry => entry.1 != location
    numbers := tree.numbers.filter fun entry => entry.1 != location }

/-- The tree in which the file at a location has given contents, under all its names. -/
def fill (tree : FileTree) (location : Location) (bytes : ByteArray) : FileTree :=
  { tree with
    items := tree.items.map fun entry =>
      (entry.1, if tree.isTwin location entry.1 then entry.2.withBytes bytes else entry.2) }

/-- The tree in which an item has been taken from one location to another. A file that has several
names has the new one in the place of the old one. -/
def carry (tree : FileTree) (origin location : Location) (item : Item) : FileTree :=
  let carried := (tree.erase origin).put location item
  { carried with
    numbers :=
      ((tree.numbers.lookup origin).map fun number => (location, number)).toList
        ++ carried.numbers }

/-- Makes a folder. -/
def makeFolder (tree : FileTree) (p : Path) : Except FileError FileTree :=
  match tree.findNames false p p.names with
  | .error e => .error e
  | .ok (.present _ _) => .error .taken
  | .ok (.absent location) => .ok (tree.put location .folder)

/-- Opens a file for writing; where a link stands, the file to which it leads. A file that is not
there is made, and one that is there is emptied. -/
def create (tree : FileTree) (p : Path) : Except FileError FileTree :=
  if p.endsInSlash then .error .isFolder
  else
    match tree.find true p with
    | .error e => .error e
    | .ok (.present _ .folder) => .error .isFolder
    | .ok (.present location _) => .ok (tree.fill location .empty)
    | .ok (.absent location) => .ok (tree.put location (.file .empty))

/-- Writes bytes to a file behind those that it has. -/
def extend (tree : FileTree) (p : Path) (bytes : ByteArray) : Except FileError FileTree :=
  match tree.resolve p with
  | .error e => .error e
  | .ok (location, .file old) => .ok (tree.fill location (old ++ bytes))
  | .ok (_, _) => .error .isFolder

/-- Removes a file or a link. -/
def remove (tree : FileTree) (p : Path) : Except FileError FileTree :=
  match tree.find false p with
  | .error e => .error e
  | .ok (.present _ .folder) => .error .isFolder
  | .ok (.present location _) => .ok (tree.erase location)
  | .ok (.absent _) => .error .missing

/-- Where something may be put in the place of what a path names: links there are not followed, and
a path that ends in a dot or at the top can be given to nothing. -/
def target (tree : FileTree) (p : Path) : Except FileError Spot :=
  let last := p.names.getLast?
  if last = none || last = some [Path.dot] || last = some [Path.dot, Path.dot] then
    match tree.findNames true p (p.names.dropLast ++ [[Path.dot]]) with
    | .error e => .error e
    | .ok _ => .error .busy
  else tree.findNames false p p.names

/-- Moves a file or a link to the place that a path names, and replaces what stands there unless
that is a folder. Nothing happens when both are names of one file. -/
def move (tree : FileTree) (source p : Path) : Except FileError FileTree :=
  match tree.find false source with
  | .error e => .error e
  | .ok (.absent _) => .error .missing
  | .ok (.present _ .folder) => .error .isFolder
  | .ok (.present origin item) =>
    match tree.target p with
    | .error e => .error e
    | .ok spot =>
      if p.endsInSlash then .error .notFolder
      else
        match spot with
        | .present _ .folder => .error .isFolder
        | .present location _ =>
          if tree.isTwin origin location then .ok tree else .ok (tree.carry origin location item)
        | .absent location => .ok (tree.carry origin location item)

end CatalogAudit.FileTree
