import ParserFoundry.Code.Callee
import ParserFoundry.Handler
import ParserFoundry.Matcher
import ParserFoundry.Naming.NameTable
import ParserFoundry.Table.ParseTable
/-!
# Blueprints

All that the generated files are made from.
-/

namespace ParserFoundry

/-- A numbered grammar with its names, matchers, tables and handlers, and where the generated
files stand among others. -/
structure Blueprint where
  symbols : SymbolTable
  names : NameTable
  matchers : List Matcher
  table : ParseTable
  handlers : Handlers
  /-- What the names of the generated types start with. -/
  typeStem : String
  /-- The path of the library that generated parsers run on. -/
  runtime : Code.Path
  /-- The path of the types file from the parser file. -/
  types : Code.Path
  /-- The path of the semantic actions. -/
  actions : Code.Path
  /-- What this path is in front of a call, or why it can't stand there. -/
  callee : Except Code.PathError Code.Callee
  /-- Who may use the tables. -/
  visibility : Code.Visibility

namespace Blueprint

def terminalKind (blueprint : Blueprint) (id : TerminalId) : String :=
  blueprint.names.terminalKinds.getD id.index ""

def nonterminalKind (blueprint : Blueprint) (id : NonterminalId) : String :=
  blueprint.names.nonterminalKinds.getD id.index ""

def productionKind (blueprint : Blueprint) (id : ProductionId) : String :=
  blueprint.names.productionKinds.getD id.index ""

def actionName (blueprint : Blueprint) (id : ProductionId) : String :=
  blueprint.names.actions.getD id.index ""

/-- What the semantic actions are called through. -/
def called (blueprint : Blueprint) : Code.Callee :=
  blueprint.callee.toOption.getD (.path blueprint.actions)

/-- The name of a generated type. -/
def typeName (blueprint : Blueprint) (ending : String) : String :=
  blueprint.typeStem ++ ending

/-- Whether a terminal is recognized by a pattern. -/
def hasPatterns (blueprint : Blueprint) : Bool :=
  blueprint.matchers.any Matcher.hasPayload

end Blueprint

end ParserFoundry
