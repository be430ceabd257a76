import CatalogAudit.Text.Blank
import CatalogAudit.Text.Utf8

/-!
# Paths

A path names a place in a file tree. It is written in bytes, which need not be the encoding of a
text. Its steps are separated by slashes; repeated and trailing slashes mean nothing, and neither
does a dot, except at the very beginning of a relative path. Nothing here looks at a file tree: two
dots stay two dots. Where a path is shown, it is shown as text, and what is malformed in it is
replaced.
-/

namespace CatalogAudit

/-- The name of an entry in its folder, in bytes. -/
abbrev Name := List UInt8

/-- The name that a string writes. -/
def Name.ofString (text : String) : Name := Text.encode text.toList

/-- A path, as written. -/
structure Path where
  /-- The bytes of the path. -/
  text : List UInt8
deriving DecidableEq, Repr

namespace Path

/-- The slash. -/
def slash : UInt8 := 0x2F

/-- The dot. -/
def dot : UInt8 := 0x2E

/-- The two marks of a path are different. -/
@[simp] theorem slash_ne_dot : slash ≠ dot := by decide

/-- The same the other way round. -/
@[simp] theorem dot_ne_slash : dot ≠ slash := by decide

/-- The path that a string writes. -/
def ofString (text : String) : Path := ⟨Text.encode text.toList⟩

/-- The path as a string. -/
def toString (p : Path) : String := String.ofList (Text.decode p.text)

/-- One step of a path. -/
inductive Step
  /-- The top of the file tree. -/
  | top
  /-- The place where a relative path begins, when it is written as a dot. -/
  | here
  /-- One level up. -/
  | up
  /-- One level down, to the entry of that name. -/
  | down (name : Name)
deriving DecidableEq, Repr

/-- The pieces between the slashes of a text, the first of which goes on `current`, which is
backwards. -/
def splitFrom (current : List UInt8) : List UInt8 → List (List UInt8)
  | [] => [current.reverse]
  | c :: rest =>
    if c = slash then current.reverse :: splitFrom [] rest else splitFrom (c :: current) rest

/-- The pieces between the slashes of a text. -/
def pieces (text : List UInt8) : List (List UInt8) := splitFrom [] text

/-- Whether a piece of a path means nothing. -/
def isIdle (piece : List UInt8) : Bool := piece == [] || piece == [dot]

/-- Whether the path begins at the top of the file tree. -/
def isAbsolute (p : Path) : Bool := p.text.head? == some slash

/-- Whether the path begins with a dot that stands alone. -/
def startsHere (p : Path) : Bool :=
  match p.text with
  | [] => false
  | first :: rest => first == dot && (rest.isEmpty || rest.head? == some slash)

/-- The slash or the dot at the beginning that counts as a step of its own. -/
def head (p : Path) : List UInt8 :=
  if p.isAbsolute then [slash] else if p.startsHere then [dot] else []

/-- What follows the head. -/
def body (p : Path) : List UInt8 := p.text.drop p.head.length

/-- The step that a piece of the body makes. -/
def stepOf (piece : List UInt8) : Step := if piece = [dot, dot] then .up else .down piece

/-- The steps of a path. -/
def steps (p : Path) : List Step :=
  let first : List Step :=
    if p.isAbsolute then [.top] else if p.startsHere then [.here] else []
  first ++ ((pieces p.body).filter fun piece => !isIdle piece).map stepOf

/-- Pieces with slashes between them. -/
def joinPieces : List (List UInt8) → List UInt8
  | [] => []
  | [piece] => piece
  | piece :: rest => piece ++ slash :: joinPieces rest

/-- The pieces of the body from the last one that means something backwards. -/
def backwards (p : Path) : List (List UInt8) := (pieces p.body).reverse.dropWhile isIdle

/-- The path without its last step; the top and the empty path have none. Nothing else in the text
changes. -/
def parent? (p : Path) : Option Path :=
  match p.backwards with
  | _ :: before => some ⟨p.head ++ joinPieces (before.dropWhile isIdle).reverse⟩
  | [] => if p.head = [dot] then some ⟨[]⟩ else none

/-- The name in the last step, if that leads down. -/
def fileName? (p : Path) : Option (List UInt8) :=
  match p.backwards with
  | piece :: _ => if piece = [dot, dot] then none else some piece
  | [] => none

/-- The path `q`, begun at the place of `p`; an absolute path does not care where it begins. -/
def join (p q : Path) : Path :=
  if q.isAbsolute then q
  else if p.text.isEmpty || p.text.getLast? = some slash then ⟨p.text ++ q.text⟩
  else ⟨p.text ++ slash :: q.text⟩

/-- The path of another entry beside the one that the path names. -/
def withFileName (p : Path) (name : List UInt8) : Path :=
  match p.fileName?, p.parent? with
  | some _, some parent => parent.join ⟨name⟩
  | _, _ => p.join ⟨name⟩

/-- The name by which a step is shown; only names and levels up are. -/
def Step.shown? : Step → Option Name
  | .down name => some name
  | .up => some [dot, dot]
  | .top => none
  | .here => none

/-- What is left of steps after given first steps. -/
def stepsAfter? : List Step → List Step → Option (List Step)
  | [], rest => some rest
  | _ :: _, [] => none
  | first :: firsts, step :: rest => if first = step then stepsAfter? firsts rest else none

/-- How reports show a path below a root: its steps from the root's own name on, each as text, with
slashes between them. A path that does not begin with the parent of the root is shown as a whole. -/
def display (p root : Path) : List Char :=
  let base := root.parent?.getD root
  let steps := (stepsAfter? base.steps p.steps).getD p.steps
  let shown := ['/'].intercalate ((steps.filterMap Step.shown?).map Text.decode)
  if steps.head? = some .top then '/' :: shown else shown

example : display (.ofString "a/./b//c.x") (.ofString "a/b/") = "b/c.x".toList := by decide
example : (ofString "./a/").parent? = some (.ofString ".") := by decide
example : (ofString "/").parent? = none := by decide
example : (ofString ".").join ⟨[]⟩ = .ofString "./" := by decide

end Path

end CatalogAudit
