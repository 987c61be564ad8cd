import ParserFoundry.Code.PathReader
import ParserFoundry.Code.TypeLayout
/-!
# Calls Through Paths

How a function is called through a path. Generic arguments that follow no `::` read as comparisons
in front of a call. A path with such arguments is no path there, but the start of one or more
arguments, and only the last of these ends in a call.
-/

namespace ParserFoundry.Code

open Layout

/-- What a path with generic arguments that follow no `::` reads as in front of a call. -/
structure Comparisons where
  /-- The arguments in front of the one that ends in the call. -/
  front : List Document
  /-- What stands around the call. -/
  around : Document → Document
  /-- The path behind the last comparison, through which the function is called. -/
  behind : Path

/-- What a path is in front of a call. -/
inductive Callee where
  | path (path : Path)
  | compared (comparisons : Comparisons)

namespace Callee

/-- The path through which a function is called. -/
def target : Callee → Path
  | .path whole => whole
  | .compared comparisons => comparisons.behind

/-- Whether nothing but the call is read. -/
def isDirect : Callee → Bool
  | .path _ => true
  | .compared _ => false

/-- What the call of a function reads as where arguments are wanted. -/
def call (callee : Callee) (function : String) (arguments : List Expr) : List Expr :=
  let called : Expr := .call (.path (callee.target.child function)) arguments
  match callee with
  | .path _ => [called]
  | .compared comparisons =>
    comparisons.front.map Expr.laidOut ++ [.within comparisons.around called]

end Callee

/-! ## Reading comparisons -/

/-- Whether a segment has generic arguments that follow no `::`. -/
def Segment.isBare : Segment → Bool
  | .plain _ => false
  | .generic _ turbofish _ => !turbofish

namespace Path

/-- Whether some segment has generic arguments that follow no `::`. -/
def isBare (path : Path) : Bool :=
  path.segments.any Segment.isBare

/-- The path that a generic argument is, if it can be compared. -/
def ofArgument? : Argument → Option Path
  | .type (.path rooted segments) =>
    if segments.any Segment.isBare then none else some ⟨rooted, segments⟩
  | _ => none

/-- A comparison, which breaks in front of its sign. -/
def comparison (left : Document) (sign : String) (right : Document) : Document :=
  inconsistent indentation
    (inconsistent (-indentation) left ++ gap ++ word (sign ++ " ") ++ right)

/-- Read a path with generic arguments that follow no `::` in front of a call. Two paths or more are
needed between `<` and `>`, since comparisons cannot be chained. -/
def comparisons (path : Path) : Except PathError Comparisons :=
  match path.segments.span fun segment => !segment.isBare with
  | (front, .generic name _ arguments :: behind) =>
    match arguments.mapM ofArgument? with
    | some (first :: second :: others) =>
      if behind.any Segment.isBare then .error .chainedComparison
      else
        let compared : Path := { path with segments := front ++ [.plain name] }
        let last := (second :: others).getLast (List.cons_ne_nil _ _)
        .ok {
          front := comparison compared.document "<" first.document ::
            (second :: others).dropLast.map document
          around := comparison last.document ">"
          behind := ⟨true, behind⟩ }
    | _ => .error .chainedComparison
  | _ => .error .chainedComparison

end Path

end ParserFoundry.Code
