import ParserFoundry.Code.ExprLayout
import ParserFoundry.Layout.Print
/-!
# Layout of Items and Files

Items one after the other without empty lines. What an item holds is indented, one member per line.
-/

namespace ParserFoundry.Code

open Layout

/-- The words in front of an item, with a blank after them. -/
def Visibility.words : Visibility → String
  | .hidden => ""
  | .everywhere => "pub "
  | .parent => "pub(super) "
  | .own => "pub(self) "
  | .crate => "pub(crate) "

/-! ## Parts of items -/

def Generic.document : Generic → Document
  | .lifetime name => word ("'" ++ name)
  | .type name => word name

/-- The parameters of a definition. -/
def genericsDocument (generics : List Generic) : Document :=
  if generics.isEmpty then []
  else
    word "<" ++ consistent 0 (outdent (cut ++ commaList (generics.map Generic.document))) ++ word ">"

def Parameter.document : Parameter → Document
  | .receiver mutable => word (if mutable then "&mut self" else "&self")
  | .typed name type => word (name ++ ": ") ++ type.document

def Function.document (function : Function) : Document :=
  let result := match function.result? with
    | some type => word " -> " ++ type.document
    | none => []
  let value := match function.value? with
    | some value => inconsistent 0 (value.document true) ++ lineEnd
    | none => []
  consistent indentation
    (word (function.visibility.words ++ "fn " ++ function.name) ++ word "(" ++ joint ++
      consistent 0 (outdent (cut ++ commaList (function.parameters.map Parameter.document))) ++
      word ")" ++ consistent (-indentation) result ++ word " \x7b" ++
      outdent (lineEndBefore ++ statementsDocument function.statements ++ value)) ++
    word "\x7d" ++ lineEnd

def Member.document : Member → Document
  | .type name target =>
    consistent indentation
      (word ("type " ++ name ++ " = ") ++ joint ++ inconsistent (-indentation) target.document ++
        word ";") ++ lineEnd
  | .function definition => definition.document

/-- The number or the content of a variant after its name. -/
def Content.document : Content → Document
  | .nothing => []
  | .number index => word (" = " ++ toString index)
  | .value type => word "(" ++ listBody [type.document] ++ word ")"

def Variant.document (variant : Variant) : Document :=
  word variant.name ++ variant.content.document

/-- The bounds on type parameters, in lines between the head of an implementation and its body. -/
def boundsDocument (bounds : List (String × List String)) : Document :=
  let one : String × List String → Document
    | (name, parts) =>
      word (name ++ ":") ++
        inconsistent (if parts.length = 1 then 0 else indentation)
          (parts.mapIdx fun i part =>
            if i = 0 then word (" " ++ part) else gap ++ word ("+ " ++ part)).flatten
  if bounds.isEmpty then word " "
  else
    outdent lineEnd ++ word "where" ++ lineEnd ++
      outdent ((bounds.map fun bound => one bound ++ word "," ++ lineEnd).flatten)

/-! ## Items -/

def Item.document : Item → Document
  | .use_ path names =>
    let names : Document := match names with
      | [name] => word name
      | names =>
        word "\x7b" ++
          consistent indentation
            (cut ++ inconsistent 0 ((names.map word).intersperse (word "," ++ gap)).flatten ++
              outdent commaCut) ++ word "\x7d"
    word ("use " ++ path.plainText ++ "::") ++ names ++ word ";" ++ lineEnd
  | .constant name type value =>
    consistent 0
      (word ("pub const " ++ name ++ ": ") ++ type.document ++ word " = " ++ joint ++
        value.document false ++ word ";") ++ lineEnd
  | .static visibility name type value =>
    consistent 0
      (word (visibility.words ++ "static " ++ name ++ ": ") ++ type.document ++ word " = " ++ joint ++
        value.document false ++ word ";") ++ lineEnd
  | .record name generics fields =>
    consistent indentation
      (word ("pub struct " ++ name) ++ genericsDocument generics ++ word " \x7b" ++
        outdent (lineEndBefore ++
          (fields.map fun (name, type) =>
            word (name ++ ": ") ++ type.document ++ word "," ++ lineEnd).flatten)) ++
      word "\x7d" ++ lineEnd
  | .wrapper name generics content =>
    consistent indentation
      (word ("pub struct " ++ name) ++ genericsDocument generics ++ word "(" ++
        outdent (cut ++ content.document ++ commaCut) ++ word ")" ++ word ";") ++ lineEnd
  | .enumeration derived name variants =>
    word ("#[derive(" ++ ", ".intercalate derived ++ ")]") ++ lineEnd ++
      consistent indentation
        (word ("pub enum " ++ name ++ " \x7b") ++
          outdent (lineEndBefore ++
            (variants.map fun variant => variant.document ++ word "," ++ lineEnd).flatten)) ++
      word "\x7d" ++ lineEnd
  | .implementation generics trait? subject bounds members =>
    let trait := match trait? with
      | some trait => trait.document ++ gap ++ word "for "
      | none => []
    consistent indentation
      (inconsistent (-indentation)
        (consistent indentation (word "impl" ++ genericsDocument generics) ++ word " " ++ trait ++
          subject.document) ++
        boundsDocument bounds ++ word "\x7b" ++
        outdent (lineEndBefore ++ (members.map Member.document).flatten)) ++
      word "\x7d" ++ lineEnd
  | .function definition => definition.document

/-- The text of a file. -/
def fileText (items : List Item) : String :=
  Layout.print (consistent 0 (items.map Item.document).flatten)

end ParserFoundry.Code
