import CatalogAudit.Path

/-!
# File trees

A file tree holds folders, files and symbolic links at locations, and one of its folders is the
working directory, where relative paths begin. A file may have several names. Looking a path up
follows the links on the way; of the last step the caller says whether a link there is followed too.
At most forty links are followed for one path.

There is nothing else in a tree: no devices or pipes, no permissions, and no time at which something
was changed. What can be looked up can be read.
-/

namespace CatalogAudit

/-- Why a file operation fails. -/
inductive FileError
  /-- Nothing is there. -/
  | missing
  /-- Something is there already. -/
  | taken
  /-- A step leads below something that is no folder. -/
  | notFolder
  /-- There is a folder where a file is wanted. -/
  | isFolder
  /-- A name or the whole path is too long. -/
  | nameTooLong
  /-- Too many links lead to one another. -/
  | linkLoop
  /-- The place cannot be replaced. -/
  | busy
  /-- The bytes of a file are no text. -/
  | notText
  /-- The system refuses for a reason that lies outside of the file tree, and says so. -/
  | other (message : String)
deriving DecidableEq, Repr

/-- The words for an error, with its number in the system if it has one. -/
def FileError.message : FileError → String
  | missing => "No such file or directory (os error 2)"
  | taken => "File exists (os error 17)"
  | notFolder => "Not a directory (os error 20)"
  | isFolder => "Is a directory (os error 21)"
  | nameTooLong => "File name too long (os error 36)"
  | linkLoop => "Too many levels of symbolic links (os error 40)"
  | busy => "Device or resource busy (os error 16)"
  | notText => "stream did not contain valid UTF-8"
  | other message => message

/-- The names that lead from the top of the file tree to one of its entries. -/
abbrev Location := List Name

/-- What stands at a location. -/
inductive Item
  /-- A file with its contents. -/
  | file (bytes : ByteArray)
  /-- A symbolic link. -/
  | link (target : Path)
  /-- A folder. -/
  | folder

/-- Files are the same when their contents are, and links when their targets are. -/
instance : DecidableEq Item
  | .file bytes, .file other =>
    decidable_of_iff (bytes.data = other.data) (by rw [Item.file.injEq, ByteArray.ext_iff])
  | .link target, .link other => decidable_of_iff (target = other) (by rw [Item.link.injEq])
  | .folder, .folder => .isTrue rfl
  | .file _, .link _ | .file _, .folder | .link _, .file _ | .link _, .folder | .folder, .file _
  | .folder, .link _ => .isFalse nofun

/-- Whether an item is a folder. -/
def Item.isFolder : Item → Bool
  | .folder => true
  | _ => false

/-- Whether an item is a file. -/
def Item.isFile : Item → Bool
  | .file _ => true
  | _ => false

/-- The item with other contents, if it is a file. -/
def Item.withBytes (bytes : ByteArray) : Item → Item
  | .file _ => .file bytes
  | item => item

/-- A file tree. The top is a folder and is not listed. -/
structure FileTree where
  /-- The items below the top with their locations. -/
  items : List (Location × Item) := []
  /-- The working directory. -/
  home : Location := []
  /-- The numbers of files that have several names, at each of these names. -/
  numbers : List (Location × Nat) := []

/-- What a path leads to. -/
inductive Spot
  /-- An item of the tree. -/
  | present (location : Location) (item : Item)
  /-- A location without an item, in a folder of the tree. -/
  | absent (location : Location)

namespace FileTree

/-- The item at a location. -/
def item? (tree : FileTree) (location : Location) : Option Item :=
  if location.isEmpty then some .folder else tree.items.lookup location

/-- Whether a file stands at a location. -/
def hasFile (tree : FileTree) (location : Location) : Bool :=
  (tree.item? location).any Item.isFile

/-- Whether two locations are names of one file. -/
def isTwin (tree : FileTree) (location other : Location) : Bool :=
  other == location ||
    (tree.hasFile location && tree.hasFile other && (tree.numbers.lookup location).isSome &&
      tree.numbers.lookup other == tree.numbers.lookup location)

/-- The names and items in a folder. -/
def children (tree : FileTree) (folder : Location) : List (Name × Item) :=
  tree.items.filterMap fun (location, item) =>
    match location.getLast? with
    | some name => if location.dropLast = folder then some (name, item) else none
    | none => none

/-- The most bytes that a name may have. -/
def nameLimit : Nat := 255

/-- The most bytes that a path may have. -/
def pathLimit : Nat := 4095

/-- The most links that are followed for one path. -/
def linkLimit : Nat := 40

end FileTree

namespace Path

/-- The names in a path, dots included. -/
def names (p : Path) : List Name := (pieces p.text).filter fun piece => !piece.isEmpty

/-- Whether a slash ends the path. -/
def endsInSlash (p : Path) : Bool := p.text.getLast? = some slash

/-- The names in a path; a slash at the end counts as a dot, because it too demands a folder. -/
def namesToFolder (p : Path) : List Name := if p.endsInSlash then p.names ++ [[dot]] else p.names

end Path

namespace FileTree

/-- Goes from `current` along names. `onLink` goes on from a folder where a link has put names in
front of those that are left. -/
def descend (tree : FileTree) (followLast : Bool)
    (onLink : Location → List Name → Except FileError Spot) (current : Location) :
    List Name → Except FileError Spot
  | [] =>
    match tree.item? current with
    | some item => .ok (.present current item)
    | none => .error .missing
  | name :: rest =>
    match tree.item? current with
    | none => .error .missing
    | some .folder =>
      if name = [Path.dot] then descend tree followLast onLink current rest
      else if name = [Path.dot, Path.dot] then descend tree followLast onLink current.dropLast rest
      else if nameLimit < name.length then .error .nameTooLong
      else
        let location := current ++ [name]
        match tree.item? location with
        | none => if rest.isEmpty then .ok (.absent location) else .error .missing
        | some (.link target) =>
          if rest.isEmpty && !followLast then .ok (.present location (.link target))
          else onLink (if target.isAbsolute then [] else current) (target.namesToFolder ++ rest)
        | some _ => descend tree followLast onLink location rest
    | some _ => .error .notFolder

/-- Goes from a location along names, following no more than `links` links. -/
def follow (tree : FileTree) (followLast : Bool) :
    (links : Nat) → Location → List Name → Except FileError Spot
  | 0 => tree.descend followLast fun _ _ => .error .linkLoop
  | links + 1 => tree.descend followLast (tree.follow followLast links)

/-- Goes along given names of a path. -/
def findNames (tree : FileTree) (followLast : Bool) (p : Path) (names : List Name) :
    Except FileError Spot :=
  if p.text.isEmpty then .error .missing
  else if pathLimit < p.text.length then .error .nameTooLong
  else tree.follow followLast linkLimit (if p.isAbsolute then [] else tree.home) names

/-- What a path leads to. -/
def find (tree : FileTree) (followLast : Bool) (p : Path) : Except FileError Spot :=
  tree.findNames followLast p p.namesToFolder

/-- The item to which a path leads, all links followed, and its location. -/
def resolve (tree : FileTree) (p : Path) : Except FileError (Location × Item) :=
  match tree.find true p with
  | .error e => .error e
  | .ok (.absent _) => .error .missing
  | .ok (.present location item) => .ok (location, item)

/-- Whether a path leads to a folder. -/
def isFolder (tree : FileTree) (p : Path) : Bool :=
  match tree.resolve p with
  | .ok (_, .folder) => true
  | _ => false

/-- The contents of the file to which a path leads. -/
def read (tree : FileTree) (p : Path) : Except FileError ByteArray :=
  match tree.resolve p with
  | .error e => .error e
  | .ok (_, .file bytes) => .ok bytes
  | .ok (_, _) => .error .isFolder

/-- The text of the file to which a path leads. -/
def readText (tree : FileTree) (p : Path) : Except FileError (List Char) :=
  match tree.read p with
  | .error e => .error e
  | .ok bytes =>
    match String.fromUTF8? bytes with
    | some text => .ok text.toList
    | none => .error .notText

/-- The path of a location. -/
def pathOf (location : Location) : Path := ⟨Path.slash :: Path.joinPieces location⟩

/-- The tree without the entries whose own paths are longer than a path may be. -/
def addressable (tree : FileTree) : FileTree :=
  { tree with
    items := tree.items.filter fun entry =>
      decide ((pathOf entry.1).text.length ≤ pathLimit) }

/-- The location to which a path leads, all links followed. It is found entry by entry: the path
itself may have any length, but every entry on the way needs an own path that is not too long. -/
def realLocation? (tree : FileTree) (p : Path) : Option Location :=
  if p.text.isEmpty then none
  else
    match tree.addressable.follow true linkLimit (if p.isAbsolute then [] else tree.home)
        p.namesToFolder with
    | .ok (.present location _) => some location
    | _ => none

end FileTree

end CatalogAudit
