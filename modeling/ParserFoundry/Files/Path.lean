/-!
# Paths

Paths as they are written, and the components that they stand for: a separator that is repeated or
comes last says nothing, and neither does `.` unless the path starts with it. Operations follow the
components, and keep the text as far as they can.
-/

namespace ParserFoundry.Files

abbrev Name := List Char

/-- A path as it is written: the pieces between separators. -/
structure Path where
  /-- Whether the path starts with a separator. -/
  rooted : Bool
  pieces : List Name
deriving DecidableEq, Repr, Inhabited

/-- What a piece of a path stands for. -/
inductive Component where
  | root
  | current
  | parent
  | normal (name : Name)
deriving DecidableEq, Repr

namespace Path

/-! ## Text -/

/-- The pieces between separators; `current` is the piece at hand, last character first. -/
def splitFrom (current : Name) : List Char → List Name
  | [] => [current.reverse]
  | c :: rest =>
    if c = '/' then current.reverse :: splitFrom [] rest else splitFrom (c :: current) rest

/-- The pieces between separators; an empty text has none. -/
def split (text : List Char) : List Name :=
  if text.isEmpty then [] else splitFrom [] text

def ofChars : List Char → Path
  | '/' :: rest => ⟨true, split rest⟩
  | text => ⟨false, split text⟩

def ofText (text : String) : Path :=
  ofChars text.toList

def chars (path : Path) : List Char :=
  (if path.rooted then ['/'] else []) ++ List.intercalate ['/'] path.pieces

def text (path : Path) : String :=
  String.ofList path.chars

/-! ## Components -/

/-- Whether a piece says nothing, unless it comes first. -/
def isIdle (piece : Name) : Bool :=
  piece == [] || piece == ['.']

/-- What a piece that says something stands for. -/
def componentOf (piece : Name) : Component :=
  if piece = ['.', '.'] then .parent else .normal piece

/-- Whether the path starts with `.`. -/
def startsHere (path : Path) : Bool :=
  !path.rooted && path.pieces.head? == some ['.']

def components (path : Path) : List Component :=
  (if path.rooted then [.root] else if path.startsHere then [.current] else []) ++
    ((path.pieces.filter fun piece => !isIdle piece).map componentOf)

/-- Drop the idle pieces at the end of a list. -/
def dropIdleEnd : List Name → List Name
  | [] => []
  | piece :: rest =>
    match dropIdleEnd rest with
    | [] => if isIdle piece then [] else [piece]
    | kept => piece :: kept

/-- The pieces up to the last one that says something. -/
def trimmed (path : Path) : List Name :=
  match path.startsHere, path.pieces with
  | true, here :: rest => here :: dropIdleEnd rest
  | _, pieces => dropIdleEnd pieces

/-! ## Parts of paths -/

/-- The path without its last component; a root has no parent. -/
def parent? (path : Path) : Option Path :=
  match path.components.getLast? with
  | none => none
  | some .root => none
  | some _ =>
    let rest : Path := ⟨path.rooted, path.trimmed.dropLast⟩
    some ⟨path.rooted, rest.trimmed⟩

/-- The last component, if it is a name. -/
def fileName? (path : Path) : Option Name :=
  match path.components.getLast? with
  | some (.normal name) => some name
  | _ => none

/-- The text before the last dot and the text after it; a dot that comes first does not count. -/
def splitExtension (name : Name) : Name × Option Name :=
  let after := name.reverse.takeWhile (· != '.')
  match name.reverse.dropWhile (· != '.') with
  | [] => (name, none)
  | [_] => (name, none)
  | _ :: before => (before.reverse, some after.reverse)

/-- The path itself, then its parent, and so on; the count bounds them. -/
def ancestorsFrom : Nat → Path → List Path
  | 0, path => [path]
  | steps + 1, path =>
    match path.parent? with
    | none => [path]
    | some parent => path :: ancestorsFrom steps parent

/-- The path itself, then its parent, and so on. -/
def ancestors (path : Path) : List Path :=
  ancestorsFrom (path.pieces.length + 1) path

/-! ## Making paths -/

/-- The pieces without the empty one that a separator at the end leaves. -/
def withoutEnd (pieces : List Name) : List Name :=
  if pieces.getLast? = some [] then pieces.dropLast else pieces

/-- The path that `path` is from `base`; one that starts at the root is itself. -/
def join (base path : Path) : Path :=
  if path.rooted then path
  else if !base.rooted && base.pieces.isEmpty then path
  else
    -- An empty path adds an empty piece, and so a separator at the end.
    ⟨base.rooted,
      withoutEnd base.pieces ++ if path.pieces.isEmpty then [[]] else path.pieces⟩

/-- A path of one name. -/
def single (name : Name) : Path :=
  ⟨false, [name]⟩

/-- The path with another last name; one without a last name gets it appended. -/
def withFileName (path : Path) (name : Name) : Path :=
  match path.fileName?, path.parent? with
  | some _, some parent => parent.join (single name)
  | _, _ => path.join (single name)

/-- The pieces after the first `count` that say something. -/
def dropComponents : Nat → List Name → List Name
  | 0, pieces => pieces
  | _ + 1, [] => []
  | count + 1, piece :: rest =>
    if isIdle piece then dropComponents (count + 1) rest else dropComponents count rest

/-- The path from `base`, if its components start with those of `base`. -/
def relativeTo? (path base : Path) : Option Path :=
  let first := base.components
  if !first.isPrefixOf path.components then none
  else if first.isEmpty then some ⟨path.rooted, path.trimmed⟩
  else
    -- The root is a component, though no piece stands for it.
    let rest :=
      if path.rooted then dropComponents (first.length - 1) path.pieces
      -- A `.` in front was counted as a component and is no idle piece there.
      else if path.startsHere then dropComponents (first.length - 1) path.pieces.tail
      else dropComponents first.length path.pieces
    some ⟨false, dropIdleEnd (rest.dropWhile isIdle)⟩

end Path

end ParserFoundry.Files
