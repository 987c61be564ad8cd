import ParserFoundry.Code.Literal
import ParserFoundry.Code.TypeLayout
/-!
# Layout of Patterns, Expressions and Statements

A chain of fields and methods is one box that breaks before each dot; a short name at the start of
a line is not cut off from what follows it. The body of an arm or a closure gets braces when it
does not fit behind its head.
-/

namespace ParserFoundry.Code

open Layout

/-- The items of a tuple within its parentheses; a single item keeps its comma. -/
def tupleBody : List Document → Document
  | [item] => consistent indentation (outdent (cut ++ item ++ word "," ++ cut))
  | items => listBody items

/-! ## Patterns -/

mutual

def patternDocuments : List Pat → List Document
  | [] => []
  | pattern :: rest => pattern.document :: patternDocuments rest

def Pat.document : Pat → Document
  | .any => word "_"
  | .bind name => word name
  | .number value => word (toString value)
  | .true_ => word "true"
  | .path names => word (joined names)
  | .tuple items => word "(" ++ tupleBody (patternDocuments items) ++ word ")"
  | .variant names items =>
    word (joined names) ++ word "(" ++ listBody (patternDocuments items) ++ word ")"

end

/-! ## Expressions -/

namespace Expr

/-- A plain name of at most four bytes. -/
def isShortName : Expr → Bool
  | .path ⟨false, [.plain name]⟩ => name.utf8ByteSize ≤ indentation.toNat
  | _ => false

/-- An expression that needs no box of its own as the only argument of a call. -/
def isBlockLike : Expr → Bool
  | .array _ | .tuple _ | .record .. | .closure .. => true
  | _ => false

/-- An expression after which a line may end in the head of a case distinction. -/
def mayWrap : Expr → Bool
  | .field .. | .method .. | .index .. => true
  | .call function _ => function.mayWrap
  | _ => false

/-- The break in front of a dot. -/
def chainCut (atStart : Bool) (base : Expr) : Document :=
  if atStart && base.isShortName then [] else cut

end Expr

/-- A body that gets braces when it does not fit; `comma` stands after it when it does. -/
def bracedBody (body : Document) (comma : String) : Document :=
  consistent indentation
    ([.brk { before := "\x7b" }] ++ body ++
      [.brk { offset := -indentation, after := "\x7d", otherwise := comma }])

/-- A part of a case distinction on one line, or between braces on its own line. -/
def smallBlock (body : Document) : Document :=
  word "\x7b" ++ gap ++ inconsistent 0 body ++ outdent gap ++ word "\x7d"

/-- Statements between braces, each on its own line. -/
def blockBody (statements : Document) : Document :=
  consistent indentation (outdent (lineEndBefore ++ statements))

/-- The fields of a record, each on its own line. -/
def fieldLines : List Document → Document
  | [] => []
  | [field] => field ++ [.brk { blanks := endless, before := "," }]
  | field :: rest => field ++ word "," ++ lineEnd ++ fieldLines rest

/-- The parts of a message. -/
def messageDocument (message : String) (values : List (List String)) : Document :=
  let value : List String → Document
    | [] => []
    | name :: fields => word name ++ fields.flatMap fun field => cut ++ word ("." ++ field)
  word (quoted message) ++ values.flatMap fun parts => word "," ++ gap ++ value parts

/-- The parameters of a closure. -/
def closureHead (parameters : List String) : Document :=
  let names : Document := (parameters.map word).intersperse (word "," ++ gap) |>.flatten
  consistent indentation
    (word "|" ++ (if parameters.isEmpty then [] else cut ++ names) ++ word "|" ++ outdent gap)

/-- An expression as a document, and as the start of a chain. -/
structure Form where
  whole : Document
  linked : Document
deriving Inhabited

namespace Form

/-- An expression that is no chain: as the start of one it is not indented with its links. -/
def plain (whole : Document) : Form :=
  ⟨whole, consistent (-indentation) whole⟩

/-- A chain: on its own it is a box. -/
def chain (linked : Document) : Form :=
  ⟨consistent indentation linked, linked⟩

/-- An expression with something directly behind it. -/
def followedBy (form : Form) (rest : Document) : Form :=
  ⟨form.whole ++ rest, form.linked ++ rest⟩

end Form

/-- The arguments of a call in their parentheses. -/
def callDocument (arguments : List Expr) (documents : List Document) : Document :=
  word "(" ++
    (match arguments, documents with
      | [argument], [document] => if argument.isBlockLike then document else listBody [document]
      | _, documents => listBody documents) ++
    word ")"

mutual

/-- Expressions, one document for each. -/
def expressionDocuments : List Expr → List Document
  | [] => []
  | expression :: rest => (expression.form false).whole :: expressionDocuments rest

/-- The forms of an expression; `atStart` tells whether it begins a line. -/
def Expr.form (atStart : Bool) : Expr → Form
  | .path path => .plain path.document
  | .qualified subject trait name =>
    .plain (word "<" ++ subject.document ++ word (" as " ++ trait ++ ">::" ++ name))
  | .number value => .plain (word (toString value))
  | .text value => .plain (word (quoted value))
  | .call function arguments =>
    (function.form false).followedBy (callDocument arguments (expressionDocuments arguments))
  | .field base name =>
    .chain ((base.form atStart).linked ++ base.chainCut atStart ++ word ("." ++ name))
  | .method receiver name arguments =>
    .chain ((receiver.form atStart).linked ++ receiver.chainCut atStart ++ word ("." ++ name) ++
      consistent 0 (callDocument arguments (expressionDocuments arguments)))
  | .index base place =>
    (base.form atStart).followedBy (word "[" ++ (place.form false).whole ++ word "]")
  | .range none => .plain (word "..")
  | .range (some stop) => .plain (word (".." ++ toString stop))
  | .array [] => .plain (word "[]")
  | .array items => .plain (word "[" ++ listBody (expressionDocuments items) ++ word "]")
  | .tuple items => .plain (word "(" ++ tupleBody (expressionDocuments items) ++ word ")")
  | .record name fields =>
    .plain (consistent indentation
      (inconsistent (-indentation) (word name) ++ word " \x7b" ++ lineEndBefore ++
        outdent (fieldLines (fieldDocuments fields))) ++ word "\x7d")
  | .reference target => .plain (word "&" ++ (target.form false).whole)
  | .choice condition yes no =>
    .plain (consistent indentation
      (word "if " ++
        consistent (-indentation) (consistent 0 ((condition.form false).whole ++ gap)) ++
        smallBlock (yes.form true).whole ++ word " else " ++ smallBlock (no.form true).whole))
  | .closure parameters body =>
    .plain (inconsistent 0
      (closureHead parameters ++ joint ++ bracedBody (body.form false).whole ""))
  | .cases subject arms =>
    .plain (inconsistent 0
      (word "match " ++
        consistent 0 ((subject.form false).whole ++ (if subject.mayWrap then gap else word " ")) ++
        word "\x7b" ++ joint ++ blockBody (armsDocument arms) ++ word "\x7d"))
  | .fail message values =>
    .plain (word "panic!(" ++
      consistent indentation
        (cut ++ inconsistent 0 (messageDocument message values) ++ outdent cut) ++ word ")")
  | .emptyVector => .plain (word "vec![]")
  | .laidOut layout => .plain layout
  | .within around content => .plain (around (content.form false).whole)

/-- The fields of a record, one document for each. -/
def fieldDocuments : List FieldValue → List Document
  | [] => []
  | .mk name value :: rest =>
    (word (name ++ ": ") ++ inconsistent 0 (value.form false).whole) :: fieldDocuments rest

/-- Arms, each on lines of its own. -/
def armsDocument : List Arm → Document
  | [] => []
  | arm :: rest => arm.document ++ lineEnd ++ armsDocument rest

def Arm.document : Arm → Document
  | .mk pattern [] value =>
    inconsistent 0
      (pattern.document ++ word " => " ++ joint ++ bracedBody (value.form true).whole ",")
  | .mk pattern statements value =>
    inconsistent 0
      (pattern.document ++ word " => \x7b" ++ joint ++
        blockBody
          (statementsDocument statements ++ inconsistent 0 (value.form true).whole ++ lineEnd) ++
        word "\x7d")

/-- Statements, each on lines of its own. -/
def statementsDocument : List Statement → Document
  | [] => []
  | statement :: rest => statement.document ++ statementsDocument rest

def Statement.document : Statement → Document
  | .let_ mutable name value =>
    inconsistent 0
      (word "let " ++ word (if mutable then "mut " ++ name else name) ++ word " = " ++ joint ++
        (value.form false).whole) ++ word ";" ++ lineEnd
  | .static name type value =>
    consistent 0
      (word ("static " ++ name ++ ": ") ++ type.document ++ word " = " ++ joint ++
        (value.form false).whole ++ word ";") ++ lineEnd
  | .do_ action => inconsistent 0 ((action.form true).whole ++ word ";") ++ lineEnd

end

/-- An expression that begins a line, or stands behind something else. -/
def Expr.document (atStart : Bool) (expression : Expr) : Document :=
  (expression.form atStart).whole

end ParserFoundry.Code
