import ParserFoundry.Artifact.ParserFile
import ParserFoundry.Artifact.TypesFile
import ParserFoundry.Code.ItemLayout
import ParserFoundry.Generation.Stages
/-!
# Generating a Parser

From a grammar and its automaton to the two files of the generated parser. All input is checked
before any code is made.
-/

namespace ParserFoundry

/-- What a generated parser is to look like. -/
structure GenerationOptions where
  /-- The name of the parser, from which the names of its types and files are derived. -/
  parserName : String := "Grammar"
  /-- The path of the library that generated parsers run on. -/
  runtime : String := "lrgen_rt"
  /-- The path of the types file, unless it stands beside the parser file. -/
  typesModule? : Option String := none
  /-- The path of the semantic actions, unless they stand beside the parser file. -/
  actionsModule? : Option String := none
  errorOnConflicts : Bool := true
  /-- Who may use the generated tables. -/
  visibility : Code.Visibility := .crate
deriving DecidableEq, Repr

/-- A generated file. -/
structure GeneratedFile where
  name : String
  contents : String
deriving DecidableEq, Repr, Inhabited

/-- A generated parser. -/
structure GeneratedParser where
  symbols : SymbolTable
  table : ParseTable
  parser : GeneratedFile
  types : GeneratedFile
deriving DecidableEq, Repr

/-- The generated files, the parser in front. -/
def GeneratedParser.files (generated : GeneratedParser) : List GeneratedFile :=
  [generated.parser, generated.types]

namespace Generation

/-- The first lines of every generated file. -/
def header : String := "// Generated by lrgen. Do not edit!\n\n"

/-- Read a path that was asked for. -/
def readPath (library : Library) (path : String) : Except GenerationError Code.Path :=
  match library.readPath path with
  | .ok read => .ok read
  | .error cause => .error (.modulePath path cause)

/-- The stem of the type names: the name of the parser in camel case. -/
def typeStem (options : GenerationOptions) : Except GenerationError String :=
  let stem := Naming.camelCase options.parserName
  if stem.isEmpty then .error (.naming (.emptyIdentifier options.parserName))
  -- The stem is judged by the tokens that it spells, so blanks and comments around it pass.
  else if Code.spellsName stem then .ok stem
  else .error (.naming (.invalidIdentifier options.parserName stem))

/-- The paths of the library, the types and the actions; `stem` is the stem of the file names. -/
def readPaths (options : GenerationOptions) (stem : String) (library : Library := {}) :
    Except GenerationError (Code.Path × Code.Path × Code.Path) := do
  let runtime ← readPath library options.runtime
  let types ← readPath library (options.typesModule?.getD ("super::" ++ stem ++ "_types"))
  let actions ← readPath library (options.actionsModule?.getD ("super::" ++ stem ++ "_actions"))
  return (runtime, types, actions)

/-- Why the actions cannot be called. -/
def callFault? (blueprint : Blueprint) : Option Code.PathError :=
  match blueprint.callee with
  | .ok _ => none
  | .error cause => some cause

/-- Why the parser file would have a syntax error: names are imported through two of the paths, and
the action of every production is called through the third one. -/
def parserFault? (blueprint : Blueprint) : Option Code.PathError :=
  Code.Path.importFault? blueprint.runtime.segments <|>
    Code.Path.importFault? blueprint.types.segments <|>
    if blueprint.symbols.productions.isEmpty then none else callFault? blueprint

/-- Why the types file would have a syntax error: every nonterminal has a type behind the path of
the actions. -/
def typesFault? (blueprint : Blueprint) : Option Code.PathError :=
  if blueprint.symbols.nonterminals.isEmpty then none else blueprint.actions.typeFault?

/-- The text of a file, if it has no syntax error. -/
def render (name : String) (fault? : Option Code.PathError) (items : List Code.Item) :
    Except GenerationError GeneratedFile :=
  match fault? with
  | some cause => .error (.code cause)
  | none => .ok ⟨name, header ++ Code.fileText items⟩

/-- The two files of a blueprint. -/
def renderFiles (blueprint : Blueprint) (stem : String) :
    Except GenerationError (GeneratedFile × GeneratedFile) := do
  if !Code.isName blueprint.typeStem then throw (.unusableStem blueprint.typeStem)
  let parser ← render (stem ++ ".rs") (parserFault? blueprint) (Artifact.parserFile blueprint)
  let types ← render (stem ++ "_types.rs") (typesFault? blueprint) (Artifact.typesFile blueprint)
  return (parser, types)

/-- Generate a parser. -/
def generate (options : GenerationOptions) (grammar : Grammar) (automaton : Automaton)
    (library : Library := {}) : Journaled GenerationError GeneratedParser := do
  let typeStem ← .ofExcept id (typeStem options)
  let stem := Naming.snakeCase typeStem
  -- Paths are read before the grammar is looked at, so their errors come first.
  let (runtime, types, actions) ← .ofExcept id (readPaths options stem library)
  let symbols ← number grammar
  let names ← deriveNames symbols
  let matchers ← compileMatchers symbols library
  let table ← encode symbols automaton options.errorOnConflicts
  Journaled.note .debug ("Emitting " ++ stem)
  let blueprint : Blueprint :=
    ⟨symbols, names, matchers, table, .ofSymbols symbols, typeStem, runtime, types, actions,
      library.callee actions, options.visibility⟩
  let (parserFile, typesFile) ← .ofExcept id (renderFiles blueprint stem)
  return ⟨symbols, table, parserFile, typesFile⟩

end Generation

end ParserFoundry
