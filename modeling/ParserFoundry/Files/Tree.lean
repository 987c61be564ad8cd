import ParserFoundry.ByteLength
import ParserFoundry.Files.Bytes
import ParserFoundry.Files.Path
/-!
# File Trees

Directories and files by their names from the root. The operations are those of a file system
without links, and fail for the same reasons.
-/

namespace ParserFoundry.Files

/-- Why an operation on files fails. -/
inductive FileError where
  | missing
  | alreadyThere
  | notDirectory
  | isDirectory
  | nameTooLong
  /-- A name holds the null character. -/
  | nullInName
  /-- Not even the start of a path could be made. -/
  | noTree
  /-- The system refuses the operation for a reason that the tree does not show. -/
  | refused (cause : String)
deriving DecidableEq, Repr

def FileError.message : FileError → String
  | missing => "No such file or directory (os error 2)"
  | alreadyThere => "File exists (os error 17)"
  | notDirectory => "Not a directory (os error 20)"
  | isDirectory => "Is a directory (os error 21)"
  | nameTooLong => "File name too long (os error 36)"
  | nullInName => "file name contained an unexpected NUL byte"
  | noTree => "failed to create whole tree"
  | refused cause => cause

/-- What stands at a place in a tree. -/
inductive Node where
  | directory
  | file (contents : Bytes)
deriving DecidableEq, Repr

/-- A place: the names from the root. -/
abbrev Place := List Name

/-- A file tree; its root is always a directory. -/
structure Tree where
  entries : List (Place × Node) := []
deriving Repr, Inhabited

namespace Tree

/-! ## Entries -/

/-- What stands at a place. -/
def at? (tree : Tree) (place : Place) : Option Node :=
  if place.isEmpty then some .directory else tree.entries.lookup place

/-- Put a node at a place, and leave all else. -/
def put (tree : Tree) (place : Place) (node : Node) : Tree :=
  ⟨(tree.entries.filter fun entry => entry.1 ≠ place) ++ [(place, node)]⟩

/-- Take away what stands at a place, and leave all else. -/
def erase (tree : Tree) (place : Place) : Tree :=
  ⟨tree.entries.filter fun entry => entry.1 ≠ place⟩

/-- Take away what stands at a place with all in it. -/
def eraseAll (tree : Tree) (place : Place) : Tree :=
  ⟨tree.entries.filter fun entry => !place.isPrefixOf entry.1⟩

/-! ## Finding places -/

/-- The most bytes that a name may have. -/
def longestName : Nat := 255

/-- The least number of bytes that a path may not have. -/
def pathLimit : Nat := 4096

/-- Follow the pieces of a path from a place at which a node stands. -/
def walk (tree : Tree) (place : Place) (node : Node) : List Name → Except FileError (Place × Node)
  | [] => .ok (place, node)
  | piece :: rest =>
    match node with
    | .file _ => .error .notDirectory
    | .directory =>
      if Path.isIdle piece then tree.walk place .directory rest
      else if piece = ['.', '.'] then tree.walk place.dropLast .directory rest
      else if byteLength piece > longestName then .error .nameTooLong
      else
        match tree.at? (place ++ [piece]) with
        | none => .error .missing
        | some next => tree.walk (place ++ [piece]) next rest

/-- Whether a path can be looked for at all. -/
def checkPath (path : Path) : Except FileError Unit :=
  if path.chars.contains '\x00' then .error .nullInName
  else if path.chars.isEmpty then .error .missing
  else if byteLength path.chars ≥ pathLimit then .error .nameTooLong
  else .ok ()

/-- The place and the node that a path leads to from the root. -/
def find (tree : Tree) (path : Path) : Except FileError (Place × Node) := do
  checkPath path
  tree.walk [] .directory path.pieces

/-- The place of the directory above the last of the pieces, and the last piece. -/
def findParent (tree : Tree) (path : Path) (pieces : List Name) :
    Except FileError (Place × Name) := do
  checkPath path
  match ← tree.walk [] .directory pieces.dropLast with
  | (_, .file _) => throw .notDirectory
  | (place, .directory) => return (place, pieces.getLast?.getD [])

/-- The place that a name has in a directory, and what stands there. -/
def child (tree : Tree) (directory : Place) (name : Name) : Except FileError (Place × Option Node) :=
  if byteLength name > longestName then .error .nameTooLong
  else .ok (directory ++ [name], tree.at? (directory ++ [name]))

/-- Whether a last piece names nothing of its own. -/
def isSpecial (name : Name) : Bool :=
  Path.isIdle name || name == ['.', '.']

/-! ## Looking -/

def exists_ (tree : Tree) (path : Path) : Bool :=
  (tree.find path).toOption.isSome

def isFile (tree : Tree) (path : Path) : Bool :=
  match tree.find path with
  | .ok (_, .file _) => true
  | _ => false

def isDirectory (tree : Tree) (path : Path) : Bool :=
  match tree.find path with
  | .ok (_, .directory) => true
  | _ => false

/-- The contents of a file. -/
def read (tree : Tree) (path : Path) : Except FileError Bytes := do
  match ← tree.find path with
  | (_, .file contents) => return contents
  | (_, .directory) => throw .isDirectory

end Tree

/-! ## Refusals -/

/-- What can be refused at a path. -/
inductive Operation where
  | read
  | write
  | remove
  | makeDirectory
deriving DecidableEq, Repr

/-- What a file system refuses for reasons that its tree does not show, such as missing permissions
or a lack of room. -/
structure Refusals where
  /-- Why an operation at a path of a tree is refused. -/
  cause? : Operation → Tree → Path → Option String := fun _ _ _ => none

namespace Refusals

/-- What comes of an operation at a path, unless it is refused. -/
def guard {Result : Type} (refusals : Refusals) (operation : Operation) (tree : Tree) (path : Path)
    (outcome : Except FileError Result) : Except FileError Result :=
  match refusals.cause? operation tree path with
  | some cause => .error (.refused cause)
  | none => outcome

/-- Whether an operation at a path of a tree is refused. -/
def refuses (refusals : Refusals) (operation : Operation) (tree : Tree) (path : Path) : Bool :=
  (refusals.cause? operation tree path).isSome

end Refusals

namespace Tree

/-! ## Changing -/

/-- Write a file, a new one if there is none. -/
def write (tree : Tree) (path : Path) (contents : Bytes) : Except FileError Tree := do
  let (directory, name) ← tree.findParent path path.pieces
  if isSpecial name then throw .isDirectory
  match ← tree.child directory name with
  | (_, some .directory) => throw .isDirectory
  | (place, _) => return tree.put place (.file contents)

/-- Remove a file. -/
def removeFile (tree : Tree) (path : Path) : Except FileError Tree := do
  let (directory, name) ← tree.findParent path path.pieces
  if isSpecial name then throw .isDirectory
  match ← tree.child directory name with
  | (_, none) => throw .missing
  | (_, some .directory) => throw .isDirectory
  | (place, some (.file _)) => return tree.erase place

/-- The pieces without the empty ones at the end. -/
def withoutEmptyEnd (pieces : List Name) : List Name :=
  (pieces.reverse.dropWhile List.isEmpty).reverse

/-- Make a directory. -/
def makeDirectory (tree : Tree) (path : Path) : Except FileError Tree := do
  let pieces := withoutEmptyEnd path.pieces
  let (directory, name) ← tree.findParent path pieces
  if isSpecial name then throw .alreadyThere
  match ← tree.child directory name with
  | (_, some _) => throw .alreadyThere
  | (place, none) => return tree.put place .directory

/-- The outcome of making a directory that may be there already. -/
def settleDirectory (refusals : Refusals) (tree : Tree) (path : Path) :
    Tree × Except FileError Unit :=
  -- Someone else may have made it in the meantime, so an error is weighed against what is there.
  match refusals.guard .makeDirectory tree path (tree.makeDirectory path) with
  | .ok made => (made, .ok ())
  | .error cause => (tree, if tree.isDirectory path then .ok () else .error cause)

/-- Make a directory after its parents; the count bounds them. Parents that could be made stay. -/
def makeDirectoriesFrom (refusals : Refusals) (tree : Tree) (path : Path) :
    Nat → Tree × Except FileError Unit
  | 0 => (tree, .error .noTree)
  | steps + 1 =>
    if path.components.isEmpty then (tree, .ok ())
    else
      -- Only a missing parent is made; every other outcome is weighed as it is.
      match refusals.guard .makeDirectory tree path (tree.makeDirectory path) with
      | .error .missing =>
        match path.parent? with
        | none => (tree, .error .noTree)
        | some parent =>
          match makeDirectoriesFrom refusals tree parent steps with
          | (tree, .ok ()) => settleDirectory refusals tree path
          | (tree, .error cause) => (tree, .error cause)
      | _ => settleDirectory refusals tree path

/-- Make a directory and all parents that it lacks. -/
def makeDirectories (tree : Tree) (path : Path) (refusals : Refusals := {}) :
    Tree × Except FileError Unit :=
  makeDirectoriesFrom refusals tree path (path.pieces.length + 2)

end Tree

end ParserFoundry.Files
