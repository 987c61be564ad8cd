import ParserFoundry.Code.Syntax
import ParserFoundry.Layout.Document
/-!
# Layout of Paths and Types

Paths and types as documents. Generic arguments of a path follow a `::` within expressions only.
-/

namespace ParserFoundry.Code

open Layout

/-- The names of a path, joined. -/
def joined (names : List String) : String :=
  "::".intercalate names

mutual

/-- The segments of a path. -/
def segmentsDocument (inExpression : Bool) : List Segment → Document
  | [] => []
  | [segment] => segment.document inExpression
  | segment :: rest =>
    segment.document inExpression ++ word "::" ++ segmentsDocument inExpression rest

def Segment.document (inExpression : Bool) : Segment → Document
  | .plain name => word name
  | .generic name _ arguments =>
    match argumentDocuments arguments with
    | [] => word name
    | items =>
      word name ++ (if inExpression then word "::" else []) ++ word "<" ++ listBody items ++ word ">"

/-- Generic arguments, one document for each. -/
def argumentDocuments : List Argument → List Document
  | [] => []
  | argument :: rest => argument.document :: argumentDocuments rest

def Argument.document : Argument → Document
  | .lifetime name => word ("'" ++ name)
  | .type type => type.document
  | .other layout => layout

def Ty.document : Ty → Document
  | .path rooted segments =>
    (if rooted then word "::" else []) ++ segmentsDocument false segments
  | .projection subject trait name =>
    word "<" ++ subject.document ++ word (" as " ++ trait ++ ">::" ++ name)
  | .reference lifetime? mutable target =>
    word "&" ++
      (match lifetime? with
        | some name => word ("'" ++ name) ++ word " "
        | none => []) ++
      (if mutable then word "mut " else []) ++ target.document
  | .array element length => word "[" ++ element.document ++ word ("; " ++ length ++ "]")
  | .function lifetimes input output =>
    (if lifetimes.isEmpty then []
      else word ("for<" ++ ", ".intercalate (lifetimes.map fun name => "'" ++ name) ++ "> ")) ++
      word "fn(" ++ listBody [input.document] ++ word ")" ++ word " -> " ++ output.document
  | .some_ bound => word "impl " ++ bound.document

end

/-- A path within an expression. -/
def Path.document (path : Path) : Document :=
  (if path.rooted then word "::" else []) ++ segmentsDocument true path.segments

/-- A path without its generic arguments. -/
def Path.plainText (path : Path) : String :=
  let name : Segment → String
    | .plain name => name
    | .generic name .. => name
  (if path.rooted then "::" else "") ++ joined (path.segments.map name)

end ParserFoundry.Code
