import ParserFoundry.Artifact.Blueprint
import ParserFoundry.ByteLength
/-!
# The Parser File

The generated file with the tables, the parser, the lexer and the builder.
-/

namespace ParserFoundry.Artifact

open Code

/-! ## Imports and sizes -/

def imports (blueprint : Blueprint) : List Item :=
  let runtime (module : String) (names : List String) : Item :=
    .use_ (blueprint.runtime.child module) names
  [.use_ (.ofNames ["std", "marker"]) ["PhantomData"]] ++
  (if blueprint.hasPatterns then
    [.use_ (.ofNames ["regex"]) ["Regex"], .use_ (.ofNames ["std", "sync"]) ["LazyLock"]]
  else []) ++
  [runtime "builder" ["Builder"],
    runtime "grammar" ["TerminalInfo", "TerminalInfos", "TerminalsState"],
    runtime "index" ["NonTermIndex", "ProdIndex", "StateIndex", "TermIndex"],
    runtime "lexer" ["DefaultLexer", "Lexer", "LexerDefinition", "RecognizerIterator", "Token"],
    runtime "lr" ["Action", "LRParser", "ParserDefinition"],
    runtime "parser" ["Context", "Parser"],
    .use_ blueprint.types ["NonTerminal", "ProdKind", "Symbol", "TermKind", "Terminal"]]

def sizes (blueprint : Blueprint) : List Item :=
  let size (name : String) (value : Nat) : Item :=
    .constant name (.named "usize") (.number value)
  [size "TERMINAL_NO" blueprint.symbols.terminals.length,
    size "NONTERMINAL_NO" blueprint.symbols.nonterminals.length,
    size "STATE_NO" blueprint.table.stateCount,
    size "MAX_ACTIONS" blueprint.table.maxActions]

/-! ## Cells of the tables -/

/-- A number as one of the types of numbers. -/
def numbered (type : String) (index : Nat) : Expr :=
  .apply [type] [.number index]

/-- A cell of the table of actions; a reduction shows its production. -/
def actionCell (symbols : SymbolTable) : Action → Expr
  | .shift target terminal =>
    .apply ["Action", "Shift"]
      [numbered "StateIndex" target.index, numbered "TermIndex" terminal.index]
  | .reduce production length nonterminal =>
    .apply ["Action", "Reduce"]
      [numbered "ProdIndex" production.index, .number length,
        numbered "NonTermIndex" nonterminal.index,
        .text ((symbols.display? production).getD "")]
  | .accept => .names ["Action", "Accept"]
  | .error => .names ["Action", "Error"]

/-- A cell that may be empty. -/
def optionCell (cell? : Option Expr) : Expr :=
  match cell? with
  | some cell => .apply ["Some"] [cell]
  | none => .name "None"

/-- A row for every state. -/
def stateRows (blueprint : Blueprint) (row : StateId → List Expr) : Expr :=
  .array (blueprint.table.stateIds.map fun state => .array (row state))

def actionRow (blueprint : Blueprint) (state : StateId) : List Expr :=
  (blueprint.table.actions.row state.index).map (actionCell blueprint.symbols)

def gotoRow (blueprint : Blueprint) (state : StateId) : List Expr :=
  (blueprint.table.gotos.row state.index).map fun target? =>
    optionCell (target?.map fun target => numbered "StateIndex" target.index)

def expectedRow (blueprint : Blueprint) (state : StateId) : List Expr :=
  (blueprint.table.expected state).map fun terminal? =>
    optionCell (terminal?.map fun terminal => .number terminal.index)

/-! ## The parser -/

/-- The text that lives as long as the input. -/
def inputType : Ty :=
  .reference (some "i") false (.named "str")

/-- A generated type that depends on the input. -/
def overInput (name : String) : Ty :=
  .applied name [.lifetime "i"]

def lifetimeOfInput : List Generic := [.lifetime "i"]

/-- A constructor of the current type. -/
def makeSelf (content : Expr) : Expr :=
  .apply ["Self"] [content]

/-- The field that holds a number. -/
def numberOf (name : String) : Expr :=
  .field (.name name) "0"

def parserItems (blueprint : Blueprint) : List Item :=
  let definition := blueprint.typeName "ParserDefinition"
  let parser := blueprint.typeName "Parser"
  let stateParameter : Parameter := .typed "state_index" (.named "StateIndex")
  [.record definition []
      [("actions", .array (.array (.named "Action") "TERMINAL_NO") "STATE_NO"),
        ("gotos", .array (.array (.of "Option" (.named "StateIndex")) "NONTERMINAL_NO") "STATE_NO")],
    .static blueprint.visibility "PARSER_DEFINITION" (.named definition)
      (.record definition
        [.mk "actions" (stateRows blueprint (actionRow blueprint)),
          .mk "gotos" (stateRows blueprint (gotoRow blueprint))]),
    .implementation [] (some (.named "ParserDefinition")) (.named definition) []
      [.function {
          name := "action"
          parameters :=
            [.receiver false, stateParameter, .typed "term_index" (.named "TermIndex")]
          result? := some (.named "Action")
          value? := some
            (.index (.index (.ofSelf "actions") (numberOf "state_index")) (numberOf "term_index")) },
        .function {
          name := "goto"
          parameters :=
            [.receiver false, stateParameter, .typed "nonterm_index" (.named "NonTermIndex")]
          result? := some (.named "StateIndex")
          value? := some
            (.cases
              (.index (.index (.ofSelf "gotos") (numberOf "state_index"))
                (numberOf "nonterm_index"))
              [.mk (.variant ["Some"] [.bind "s"]) [] (.name "s"),
                .mk (.bind "None") []
                  (.fail "No goto from state \x7b\x7d on nonterminal \x7b\x7d"
                    [["state_index", "0"], ["nonterm_index", "0"]])]) }],
    .wrapper parser lifetimeOfInput (.applied "LRParser" [.type inputType, .type (.named definition)]),
    .implementation lifetimeOfInput (some (.named "Default")) (overInput parser) []
      [.function {
          name := "default"
          result? := some (.named "Self")
          value? := some
            (makeSelf (.apply ["LRParser", "new"] [.reference (.name "PARSER_DEFINITION")])) }],
    .implementation lifetimeOfInput none (overInput parser) []
      [.function {
          visibility := .everywhere
          name := "parse"
          parameters := [.receiver true, .typed "input" inputType]
          result? := some (.named "Symbol")
          value? := some
            (.method (.ofSelf "0") "parse"
              [.apply [blueprint.typeName "Lexer", "from"] [.name "input"],
                .call (.qualified (overInput (blueprint.typeName "Builder")) "Builder" "new") []]) }]]

/-! ## The lexer -/

/-- How a matcher is written down: the text that it matches in `input`, if any. -/
def recognizerBody : Matcher → List Statement × Expr
  | .literal text =>
    ([], .choice (.method (.name "input") "starts_with" [.text text])
      (.apply ["Some"]
        [.reference (.index (.name "input") (.range (some (byteLength text.toList))))])
      (.name "None"))
  | .pattern source _ =>
    let compiled : Expr :=
      .method (.apply ["Regex", "new"] [.text (Pattern.anchored source)]) "unwrap" []
    ([.static "REGEX" (.of "LazyLock" (.named "Regex"))
        (.apply ["LazyLock", "new"] [.closure [] compiled])],
      .method (.method (.name "REGEX") "find" [.name "input"]) "map"
        [.closure ["m"] (.method (.name "m") "as_str" [])])
  | .endOfInput =>
    ([], .choice (.method (.name "input") "is_empty" [])
      (.apply ["Some"] [.name "input"]) (.name "None"))

def textType : Ty := .reference none false (.named "str")

/-- The function that recognizes a terminal. -/
def recognizerFunction (name : String) (matcher : Matcher) : Item :=
  let (statements, value) := recognizerBody matcher
  .function {
    name := name
    parameters := [.typed "input" textType]
    result? := some (.of "Option" textType)
    statements := statements
    value? := some value }

/-- What the lexer knows of a terminal. -/
def terminalInfo (index : Nat) (terminal : Terminal) : Expr :=
  .record "TerminalInfo"
    [.mk "id" (numbered "TermIndex" index), .mk "name" (.text terminal.name),
      .mk "location" (.name "None")]

def lexerItems (blueprint : Blueprint) : List Item :=
  let definition := blueprint.typeName "LexerDefinition"
  let lexer := blueprint.typeName "Lexer"
  let recognizers := blueprint.names.recognizers
  let table (field : String) : Expr := .field (.name "LEXER_DEFINITION") field
  let associated (type : String) : Ty := .path false [.plain "Self", .plain type]
  [.record definition []
      [("terminals", .of "TerminalInfos" (.named "TERMINAL_NO")),
        ("terminals_for_state",
          .applied "TerminalsState" [.type (.named "MAX_ACTIONS"), .type (.named "STATE_NO")]),
        ("recognizers", .array (.function [] textType (.of "Option" textType)) "TERMINAL_NO")],
    .static blueprint.visibility "LEXER_DEFINITION" (.named definition)
      (.record definition
        [.mk "terminals" (.array (blueprint.symbols.terminals.mapIdx terminalInfo)),
          .mk "terminals_for_state" (stateRows blueprint (expectedRow blueprint)),
          .mk "recognizers" (.array (recognizers.map Expr.name))])] ++
  (recognizers.zip blueprint.matchers).map (fun (name, matcher) => recognizerFunction name matcher) ++
  [.implementation [] (some (.named "LexerDefinition")) (.named definition) []
      [.type "Recognizer" (.function ["i"] inputType (.of "Option" inputType)),
        .function {
          name := "recognizers"
          parameters := [.receiver false, .typed "state_index" (.named "StateIndex")]
          result? := some (.of "RecognizerIterator" (associated "Recognizer"))
          value? := some
            (.record "RecognizerIterator"
              [.mk "terminals" (.reference (table "terminals")),
                .mk "terminals_for_state"
                  (.reference (.index
                    (.index (table "terminals_for_state") (numberOf "state_index"))
                    (.range none))),
                .mk "recognizers" (.reference (table "recognizers")),
                .mk "index" (.number 0)]) }],
    .wrapper lexer lifetimeOfInput
      (.applied "DefaultLexer" [.lifetime "i", .type (.named definition)]),
    .implementation lifetimeOfInput (some (.named "Lexer")) (overInput lexer) []
      [.type "Input" inputType,
        .function {
          name := "next_token"
          parameters :=
            [.receiver false,
              .typed "context"
                (.reference none true (.some_ (.of "Context" (associated "Input"))))]
          result? := some (.of "Option" (.of "Token" (associated "Input")))
          value? := some (.method (.ofSelf "0") "next_token" [.name "context"]) }],
    .implementation [.lifetime "i", .type "T"]
      (some (.of "From" (.reference (some "i") false (.named "T")))) (overInput lexer)
      [("T", ["AsRef<str>", "?Sized"])]
      [.function {
          name := "from"
          parameters := [.typed "input" (.reference (some "i") false (.named "T"))]
          result? := some (.named "Self")
          value? := some
            (makeSelf (.apply ["DefaultLexer", "new"]
              [.method (.name "input") "as_ref" [], .reference (.name "LEXER_DEFINITION")])) }]]

/-! ## The builder -/

/-- What a shifted terminal becomes. -/
def shiftArm (blueprint : Blueprint) (handler : ShiftHandler) : Arm :=
  let kind := blueprint.terminalKind handler.terminal
  let value : Expr :=
    if handler.payload then
      .apply ["Terminal", kind] [.method (.field (.name "token") "value") "to_string" []]
    else .names ["Terminal", kind]
  .mk (.variant ["Ok"] [.path ["TermKind", kind]]) [] value

/-- The patterns that the values of a production have to match, with a name for each argument;
`bound` is how many arguments there are before. -/
def childPatterns (blueprint : Blueprint) (bound : Nat) : List ChildShape → List Pat
  | [] => []
  | shape :: rest =>
    let argument : Pat := .bind ("p" ++ toString bound)
    let (value, next) : Pat × Nat := match shape with
      | .discard id =>
        (.variant ["Symbol", "Terminal"] [.path ["Terminal", blueprint.terminalKind id]], bound)
      | .terminal id =>
        (.variant ["Symbol", "Terminal"]
          [.variant ["Terminal", blueprint.terminalKind id] [argument]], bound + 1)
      | .nonterminal id =>
        (.variant ["Symbol", "NonTerminal"]
          [.variant ["NonTerminal", blueprint.nonterminalKind id] [argument]], bound + 1)
    .variant ["Some"] [value] :: childPatterns blueprint next rest

/-- What a reduced production becomes. -/
def reduceArm (blueprint : Blueprint) (handler : ReduceHandler) : Arm :=
  let pattern : Pat :=
    .variant ["Ok"] [.path ["ProdKind", blueprint.productionKind handler.production]]
  let arguments : List Expr :=
    (List.range handler.argumentCount).map fun i => .name ("p" ++ toString i)
  let value : Expr :=
    .apply ["NonTerminal", blueprint.nonterminalKind handler.nonterminal]
      (blueprint.called.call (blueprint.actionName handler.production) arguments)
  let misshapen : Expr := .fail "Invalid symbol parse stack data." []
  -- An empty production takes no values off the stack, so there is nothing to match.
  if handler.arity = 0 then .mk pattern [] value
  else
    let popped : Expr :=
      .cases
        (.method (.method (.ofSelf "res_stack") "len" []) "checked_sub" [.number handler.arity])
        [.mk (.variant ["Some"] [.bind "n"]) []
            (.method (.method (.ofSelf "res_stack") "split_off" [.name "n"]) "into_iter" []),
          .mk (.bind "None") [] misshapen]
    .mk pattern [.let_ true "i" popped]
      (.cases (.tuple (List.replicate handler.arity (.method (.name "i") "next" [])))
        [.mk (.tuple (childPatterns blueprint 0 handler.children)) [] value,
          .mk .any [] misshapen])

/-- Push a value, made from a numbered kind. -/
def pushStatements (value kind number : String) (arms : List Arm) (unknown symbol : String) :
    List Statement :=
  [.let_ false value
      (.cases (.apply [kind, "try_from"] [numberOf number])
        (arms ++ [.mk (.variant ["Err"] [.bind "i"]) [] (.fail unknown [["i"]])])),
    .do_ (.method (.ofSelf "res_stack") "push" [.apply ["Symbol", symbol] [.name value]])]

def builderItems (blueprint : Blueprint) : List Item :=
  let builder := blueprint.typeName "Builder"
  [.record builder lifetimeOfInput
      [("res_stack", .of "Vec" (.named "Symbol")), ("phantom", .of "PhantomData" inputType)],
    .implementation lifetimeOfInput (some (.named "Builder")) (overInput builder) []
      [.type "Output" (.named "Symbol"),
        .type "Lexer" (overInput (blueprint.typeName "Lexer")),
        .function {
          name := "new"
          result? := some (.named "Self")
          value? := some
            (.record "Self" [.mk "res_stack" .emptyVector, .mk "phantom" (.name "PhantomData")]) },
        .function {
          name := "shift_action"
          parameters :=
            [.receiver true, .typed "term_index" (.named "TermIndex"),
              .typed "token"
                (.of "Token"
                  (.projection (.path false [.plain "Self", .plain "Lexer"]) "Lexer" "Input"))]
          result? := none
          statements :=
            pushStatements "term" "TermKind" "term_index"
              (blueprint.handlers.shifts.map (shiftArm blueprint))
              "Unknown terminal index \x7b\x7d" "Terminal"
          value? := none },
        .function {
          name := "reduce_action"
          parameters :=
            [.receiver true, .typed "prod_index" (.named "ProdIndex"),
              .typed "_prod_len" (.named "usize"),
              .typed "_prod_str" (.reference (some "static") false (.named "str"))]
          result? := none
          statements :=
            pushStatements "prod" "ProdKind" "prod_index"
              (blueprint.handlers.reduces.map (reduceArm blueprint))
              "Unknown production index \x7b\x7d" "NonTerminal"
          value? := none },
        .function {
          name := "get_result"
          parameters := [.receiver true]
          result? := some (.path false [.plain "Self", .plain "Output"])
          value? := some
            (.cases
              (.tuple
                [.method (.ofSelf "res_stack") "pop" [],
                  .method (.ofSelf "res_stack") "is_empty" []])
              [.mk (.tuple [.variant ["Some"] [.bind "r"], .true_]) [] (.name "r"),
                .mk (.tuple [.any, .any]) []
                  (.fail "Parse stack must hold exactly one result." [])]) }]]

/-! ## The file -/

def parserFile (blueprint : Blueprint) : List Item :=
  imports blueprint ++ sizes blueprint ++ parserItems blueprint ++ lexerItems blueprint ++
    builderItems blueprint

end ParserFoundry.Artifact
