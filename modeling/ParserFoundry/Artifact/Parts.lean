import ParserFoundry.Artifact.Reading
/-!
# Parts of Generated Files

What the items of the two files say about symbols and productions: the variants of values, the arms
of the builder, the functions that recognize terminals, and the names that are imported.
-/

namespace ParserFoundry.Artifact.Parts

open Code
open Reading (names? function?)

/-! ## Items of one name -/

/-- The paths from which a name is imported. -/
def imports (name : String) (items : List Item) : List Path :=
  items.filterMap fun
    | .use_ path names => if name ∈ names then some path else none
    | _ => none

/-- The variants of the enumerations of one name. -/
def enumerations (name : String) (items : List Item) : List (List Variant) :=
  items.filterMap fun
    | .enumeration _ found variants => if found = name then some variants else none
    | _ => none

/-- The functions of one name among the members of implementations. -/
def methods (name : String) (items : List Item) : List Function :=
  items.flatMap fun
    | .implementation _ _ _ _ members => members.filterMap fun
      | .function definition => if definition.name = name then some definition else none
      | .type .. => none
    | _ => []

/-- The functions that stand by themselves. -/
def functions (items : List Item) : List Function :=
  items.filterMap fun
    | .function definition => some definition
    | _ => none

/-! ## Names that items bring in -/

/-- The names of the types that items define. -/
def typeNames (items : List Item) : List String :=
  items.filterMap fun
    | .record name .. | .wrapper name .. | .enumeration _ name _ => some name
    | _ => none

/-- The names of the values that items define: constants, static values and functions. -/
def valueNames (items : List Item) : List String :=
  items.filterMap fun
    | .constant name .. | .static _ name .. => some name
    | .function definition => some definition.name
    | _ => none

/-- The names that items import. -/
def importedNames (items : List Item) : List String :=
  items.flatMap fun
    | .use_ _ names => names
    | _ => []

/-- The names of the variants of every enumeration. -/
def variantNames (items : List Item) : List (List String) :=
  items.filterMap fun
    | .enumeration _ _ variants => some (variants.map Variant.name)
    | _ => none

/-! ## Terminals -/

/-- Whether a variant carries a text. -/
def carriesText (variant : Variant) : Bool :=
  match variant.content with
  | .value (.path false [.plain name]) => name = "String"
  | _ => false

/-- The regular expression that a function searches the input for. -/
def regex? (definition : Function) : Option String :=
  match definition.statements, definition.value? with
  | [.static name _ (.call lazy [.closure [] (.method (.call function [.text source]) "unwrap" [])])],
      some (.method (.method searched "find" [input]) "map" [_]) =>
    if names? lazy = some ["LazyLock", "new"] ∧ names? function = some ["Regex", "new"] ∧
        names? searched = some [name] ∧ names? input = some ["input"] then some source
    else none
  | _, _ => none

/-- What the builder pushes for a shifted terminal. -/
structure Shift where
  /-- The kind of the terminal. -/
  kind : String
  /-- The variant that the value has. -/
  variant : String
  /-- Whether the value is made from the text of the token. -/
  payload : Bool
deriving DecidableEq, Repr

def shift? : Arm → Option Shift
  | .mk (.variant ["Ok"] [.path ["TermKind", kind]]) [] value =>
    match value with
    | .call function [.method (.field token "value") "to_string" []] =>
      match names? function, names? token with
      | some ["Terminal", variant], some ["token"] => some ⟨kind, variant, true⟩
      | _, _ => none
    | value =>
      match names? value with
      | some ["Terminal", variant] => some ⟨kind, variant, false⟩
      | _ => none
  | _ => none

/-! ## Productions -/

/-- The pattern for one value of a production. -/
structure Child where
  /-- The enumeration that the value is of. -/
  enumeration : String
  /-- Its variant there. -/
  kind : String
  /-- The name that its content gets. -/
  bound? : Option String
deriving DecidableEq, Repr

def child? : Pat → Option Child
  | .variant ["Some"] [.variant ["Symbol", enumeration] [.path [found, kind]]] =>
    if found = enumeration then some ⟨enumeration, kind, none⟩ else none
  | .variant ["Some"] [.variant ["Symbol", enumeration] [.variant [found, kind] [.bind name]]] =>
    if found = enumeration then some ⟨enumeration, kind, some name⟩ else none
  | _ => none

/-- What the builder makes of the values of a production. -/
structure Reduction where
  /-- The kind of the production. -/
  kind : String
  /-- How many values are popped, if any are. -/
  popped? : Option Nat
  children : List Child
  /-- The kind of the nonterminal. -/
  nonterminal : String
  /-- The function that makes the content. -/
  action : Path
  arguments : List String
  /-- Whether its call is all that the content is. -/
  direct : Bool

/-- The function that is called, and what it is called with. -/
def action? : Expr → Option (Path × List String)
  | .call (.path action) arguments => (arguments.mapM function?).map (action, ·)
  | _ => none

/-- The kind of nonterminal, and the call that its content consists of or ends in. -/
def content? : Expr → Option (String × (Path × List String) × Bool)
  | .call variant contents =>
    match names? variant, contents.getLast? with
    | some ["NonTerminal", kind], some (.within _ called) =>
      (action? called).map fun action => (kind, action, false)
    | some ["NonTerminal", kind], some called =>
      (action? called).map fun action => (kind, action, contents.length = 1)
    | _, _ => none
  | _ => none

def isStack : Expr → Bool
  | .field object "res_stack" => names? object = some ["self"]
  | _ => false

/-- How many values are split off from the stack. -/
def splitOff? : Expr → Option Nat
  | .cases (.method (.method stack "len" []) "checked_sub" [.number count])
      [.mk (.variant ["Some"] [.bind place]) []
          (.method (.method stack' "split_off" [place']) "into_iter" []),
        .mk (.bind "None") [] (.fail _ _)] =>
    if isStack stack && isStack stack' && names? place' = some [place] then some count else none
  | _ => none

/-- Whether the next value of the values `name` is taken. -/
def isNext (name : String) : Expr → Bool
  | .method values "next" [] => names? values = some [name]
  | _ => false

def reduction? : Arm → Option Reduction
  | .mk (.variant ["Ok"] [.path ["ProdKind", kind]]) [] value => do
    let (nonterminal, (action, arguments), direct) ← content? value
    return ⟨kind, none, [], nonterminal, action, arguments, direct⟩
  | .mk (.variant ["Ok"] [.path ["ProdKind", kind]]) [.let_ true name values]
      (.cases (.tuple taken) [.mk (.tuple patterns) [] value, .mk .any [] (.fail _ _)]) => do
    let popped ← splitOff? values
    let children ← patterns.mapM child?
    let (nonterminal, (action, arguments), direct) ← content? value
    -- every popped value is matched against one of the patterns
    if taken.length = popped ∧ patterns.length = popped ∧ taken.all (isNext name) then
      return ⟨kind, some popped, children, nonterminal, action, arguments, direct⟩
    else none
  | _ => none

/-! ## The builder -/

/-- The arms of the case distinction that a method of the builder starts with, but for the last one,
which is for numbers without a kind. -/
def arms? (method : String) (items : List Item) : Option (List Arm) :=
  match methods method items with
  | [definition] =>
    match definition.statements with
    | .let_ _ _ (.cases _ arms) :: _ => some arms.dropLast
    | _ => none
  | _ => none

/-- What the builder does with shifted terminals, in the order of its arms. -/
def shifts? (items : List Item) : Option (List Shift) :=
  (arms? "shift_action" items).bind fun arms => arms.mapM shift?

/-- What the builder does with reduced productions, in the order of its arms. -/
def reductions? (items : List Item) : Option (List Reduction) :=
  (arms? "reduce_action" items).bind fun arms => arms.mapM reduction?

end ParserFoundry.Artifact.Parts
