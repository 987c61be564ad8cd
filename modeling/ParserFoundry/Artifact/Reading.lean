import ParserFoundry.Code.Reading
import ParserFoundry.Table.ParseTable
/-!
# Reading Generated Parsers

The tables of a generated parser, taken from the texts of the items of its file.
-/

namespace ParserFoundry.Artifact

open Code

/-! ## Cells -/

namespace Reading

/-- The names of a path that is nothing but names. -/
def names? : Expr → Option (List String)
  | .path ⟨false, segments⟩ => segments.mapM fun
    | .plain name => some name
    | .generic .. => none
  | _ => none

/-- A number as one of the types of numbers. -/
def numbered? (type : String) : Expr → Option Nat
  | .call function [.number index] => if names? function = some [type] then some index else none
  | _ => none

/-- An action, and the production that a reduction shows. -/
def action? : Expr → Option (Action × Option String)
  | .call function arguments =>
    match names? function, arguments with
    | some ["Action", "Shift"], [target, terminal] => do
      let target ← numbered? "StateIndex" target
      let terminal ← numbered? "TermIndex" terminal
      return (.shift ⟨target⟩ ⟨terminal⟩, none)
    | some ["Action", "Reduce"], [production, .number length, nonterminal, .text shown] => do
      let production ← numbered? "ProdIndex" production
      let nonterminal ← numbered? "NonTermIndex" nonterminal
      return (.reduce ⟨production⟩ length ⟨nonterminal⟩, some shown)
    | _, _ => none
  | expression =>
    match names? expression with
    | some ["Action", "Accept"] => some (.accept, none)
    | some ["Action", "Error"] => some (.error, none)
    | _ => none

/-- A value that may be missing. -/
def option? {α : Type} (content? : Expr → Option α) : Expr → Option (Option α)
  | .call function [content] =>
    if names? function = some ["Some"] then (content? content).map some else none
  | expression => if names? expression = some ["None"] then some none else none

def state? (expression : Expr) : Option StateId :=
  (numbered? "StateIndex" expression).map StateId.mk

def terminal? : Expr → Option TerminalId
  | .number index => some ⟨index⟩
  | _ => none

def array? {α : Type} (item? : Expr → Option α) : Expr → Option (List α)
  | .array items => items.mapM item?
  | _ => none

/-- The value of a field of a record. -/
def field? (name : String) : Expr → Option Expr
  | .record _ fields => fields.findSome? fun
    | .mk field value => if field = name then some value else none
  | _ => none

/-- The number and the name of a terminal. -/
def terminalInfo? (expression : Expr) : Option (TerminalId × String) := do
  let index ← numbered? "TermIndex" (← field? "id" expression)
  match ← field? "name" expression with
  | .text name => return (⟨index⟩, name)
  | _ => none

/-- The name of a function. -/
def function? (expression : Expr) : Option String :=
  match names? expression with
  | some [name] => some name
  | _ => none

end Reading

/-! ## Tables -/

/-- The tables of a generated parser, with a row for every state. -/
structure Tables where
  /-- Actions by terminal, with the productions that reductions show. -/
  actions : List (List (Action × Option String))
  /-- Gotos by nonterminal. -/
  gotos : List (List (Option StateId))
  /-- The terminals that are tried, padded. -/
  expected : List (List (Option TerminalId))
  /-- The numbers and the names of all terminals. -/
  terminals : List (TerminalId × String)
  /-- The names of the functions that recognize the terminals. -/
  recognizers : List String
deriving DecidableEq, Repr

namespace Tables

def action? (tables : Tables) (state : StateId) (terminal : TerminalId) :
    Option (Action × Option String) :=
  tables.actions[state.index]?.bind fun row => row[terminal.index]?

def goto? (tables : Tables) (state : StateId) (nonterminal : NonterminalId) :
    Option (Option StateId) :=
  tables.gotos[state.index]?.bind fun row => row[nonterminal.index]?

/-- The tables in the values of the parser's and of the lexer's definition. -/
def ofDefinitions? (parser lexer : Expr) : Option Tables := do
  let actions ← Reading.array? (Reading.array? Reading.action?) (← Reading.field? "actions" parser)
  let gotos ← Reading.array? (Reading.array? (Reading.option? Reading.state?))
    (← Reading.field? "gotos" parser)
  let expected ← Reading.array? (Reading.array? (Reading.option? Reading.terminal?))
    (← Reading.field? "terminals_for_state" lexer)
  let terminals ← Reading.array? Reading.terminalInfo? (← Reading.field? "terminals" lexer)
  let recognizers ← Reading.array? Reading.function? (← Reading.field? "recognizers" lexer)
  return ⟨actions, gotos, expected, terminals, recognizers⟩

/-- The tables in the texts of the items of a file. The two definitions are its static values. -/
def read? (texts : List (List Char)) : Option Tables :=
  match texts.filterMap Code.Reading.static? with
  | [("PARSER_DEFINITION", parser), ("LEXER_DEFINITION", lexer)] => ofDefinitions? parser lexer
  | _ => none

end Tables

end ParserFoundry.Artifact
