import ParserFoundry.Layout.Document
/-!
# Syntax of Generated Code

The part of the language of generated code that parsers are written in: paths, types, patterns,
expressions, statements and items. What users may write within it is kept as it is laid out.
-/

namespace ParserFoundry.Code

/-! ## Paths and types -/

mutual

/-- A segment of a path. -/
inductive Segment where
  | plain (name : String)
  /-- A segment with generic arguments; `turbofish` tells whether they follow a `::`. -/
  | generic (name : String) (turbofish : Bool) (arguments : List Argument)

/-- A generic argument. -/
inductive Argument where
  | lifetime (name : String)
  | type (type : Ty)
  /-- Anything else that may stand there, as it is laid out. -/
  | other (layout : Layout.Document)

/-- A type. -/
inductive Ty where
  /-- A path; one that is `rooted` starts with `::`. -/
  | path (rooted : Bool) (segments : List Segment)
  /-- The associated type `name` that a type has as an instance of a trait. -/
  | projection (subject : Ty) (trait : String) (name : String)
  | reference (lifetime? : Option String) (mutable : Bool) (target : Ty)
  | array (element : Ty) (length : String)
  /-- A function for all of the lifetimes. -/
  | function (lifetimes : List String) (input : Ty) (output : Ty)
  /-- Some type that satisfies a bound. -/
  | some_ (bound : Ty)

end

instance : Inhabited Segment := ⟨.plain ""⟩
instance : Inhabited Ty := ⟨.path false []⟩

/-- A path. -/
structure Path where
  rooted : Bool := false
  segments : List Segment
deriving Inhabited

namespace Path

/-- A path of plain names. -/
def ofNames (names : List String) : Path :=
  { segments := names.map .plain }

/-- The path to `name` within what a path leads to. -/
def child (path : Path) (name : String) : Path :=
  { path with segments := path.segments ++ [.plain name] }

end Path

namespace Ty

/-- A type with a name of its own. -/
def named (name : String) : Ty :=
  .path false [.plain name]

/-- A type applied to arguments. -/
def applied (name : String) (arguments : List Argument) : Ty :=
  .path false [.generic name false arguments]

/-- A type applied to a type. -/
def of (name : String) (argument : Ty) : Ty :=
  applied name [.type argument]

/-- The type at the end of a path. -/
def ofPath (path : Path) : Ty :=
  .path path.rooted path.segments

end Ty

/-! ## Patterns -/

/-- A pattern. -/
inductive Pat where
  | any
  | bind (name : String)
  | number (value : Nat)
  | true_
  | path (names : List String)
  | tuple (items : List Pat)
  /-- A variant with its contents. -/
  | variant (names : List String) (items : List Pat)
deriving Repr, Inhabited

/-! ## Expressions -/

mutual

/-- An expression. -/
inductive Expr where
  | path (path : Path)
  /-- The function `name` that a type has as an instance of a trait. -/
  | qualified (subject : Ty) (trait : String) (name : String)
  | number (value : Nat)
  | text (value : String)
  | call (function : Expr) (arguments : List Expr)
  | field (base : Expr) (name : String)
  | method (receiver : Expr) (name : String) (arguments : List Expr)
  | index (base : Expr) (place : Expr)
  /-- The range of all places, or of those before `stop`. -/
  | range (stop? : Option Nat)
  | array (items : List Expr)
  | tuple (items : List Expr)
  | record (name : String) (fields : List FieldValue)
  | reference (target : Expr)
  | choice (condition yes no : Expr)
  | closure (parameters : List String) (body : Expr)
  /-- The first arm whose pattern the subject matches. -/
  | cases (subject : Expr) (arms : List Arm)
  /-- Give up with a message, in which values are filled in: names, each with its fields. -/
  | fail (message : String) (values : List (List String))
  | emptyVector
  /-- An expression that is only known as it is laid out. -/
  | laidOut (layout : Layout.Document)
  /-- An expression that stands at the end of another one, of which the rest is laid out around it. -/
  | within (around : Layout.Document → Layout.Document) (content : Expr)

/-- A field of a record that is built. -/
inductive FieldValue where
  | mk (name : String) (value : Expr)

/-- An arm of a case distinction: statements, if there are any, and a value. -/
inductive Arm where
  | mk (pattern : Pat) (statements : List Statement) (value : Expr)

/-- A statement in front of a value. -/
inductive Statement where
  | let_ (mutable : Bool) (name : String) (value : Expr)
  | static (name : String) (type : Ty) (value : Expr)
  | do_ (action : Expr)

end

instance : Inhabited Expr := ⟨.emptyVector⟩

namespace Expr

def name (name : String) : Expr :=
  .path (.ofNames [name])

/-- The expression at the end of a path of plain names. -/
def names (names : List String) : Expr :=
  .path (.ofNames names)

/-- A call of what a path of plain names leads to. -/
def apply (function : List String) (arguments : List Expr) : Expr :=
  .call (.names function) arguments

/-- A field of the current object. -/
def ofSelf (field : String) : Expr :=
  .field (.name "self") field

end Expr

/-! ## Items -/

/-- Who may use an item. -/
inductive Visibility where
  /-- Only its own module. -/
  | hidden
  | everywhere
  /-- The parent of its module. -/
  | parent
  /-- Its own module, by name. -/
  | own
  /-- Its whole crate. -/
  | crate
deriving DecidableEq, Repr, Inhabited

/-- A parameter of a function. -/
inductive Parameter where
  /-- The object itself. -/
  | receiver (mutable : Bool)
  | typed (name : String) (type : Ty)
deriving Inhabited

/-- A function. -/
structure Function where
  visibility : Visibility := .hidden
  name : String
  parameters : List Parameter := []
  result? : Option Ty
  statements : List Statement := []
  /-- The value, unless the statements are all. -/
  value? : Option Expr
deriving Inhabited

/-- A member of an implementation. -/
inductive Member where
  | type (name : String) (type : Ty)
  | function (function : Function)
deriving Inhabited

/-- What a variant holds. -/
inductive Content where
  | nothing
  /-- Nothing; the variant has a number. -/
  | number (value : Nat)
  | value (type : Ty)
deriving Inhabited

/-- A variant of an enumeration. -/
structure Variant where
  name : String
  content : Content := .nothing
deriving Inhabited

/-- A parameter of a definition. -/
inductive Generic where
  | lifetime (name : String)
  | type (name : String)
deriving Inhabited

/-- An item of a file. -/
inductive Item where
  /-- Use names that a path leads to. -/
  | use_ (path : Path) (names : List String)
  | constant (name : String) (type : Ty) (value : Expr)
  | static (visibility : Visibility) (name : String) (type : Ty) (value : Expr)
  | record (name : String) (generics : List Generic) (fields : List (String × Ty))
  /-- A record of one field that has no name. -/
  | wrapper (name : String) (generics : List Generic) (content : Ty)
  | enumeration (derived : List String) (name : String) (variants : List Variant)
  | implementation (generics : List Generic) (trait? : Option Ty) (subject : Ty)
      (bounds : List (String × List String)) (members : List Member)
  | function (function : Function)
deriving Inhabited

end ParserFoundry.Code
