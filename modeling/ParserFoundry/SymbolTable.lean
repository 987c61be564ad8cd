import ParserFoundry.Grammar
import ParserFoundry.Numbering
/-!
# Symbol Tables

The numbering of a grammar: terminals and nonterminals in declaration order, productions
nonterminal by nonterminal, and right-hand sides with their references resolved. The augmenting
start nonterminal and its productions are left out.
-/

namespace ParserFoundry

/-- A production with its nonterminal, its position among that nonterminal's productions, and its
resolved right-hand side. -/
structure NumberedProduction where
  nonterminal : NonterminalId
  ordinal : Nat
  rhs : List Symbol
deriving DecidableEq, Repr, Inhabited

/-- A numbered grammar; the number of an entry is its position in its list. -/
structure SymbolTable where
  terminals : List Terminal
  nonterminals : List String
  productions : List NumberedProduction
  augmentedStart? : Option String
deriving DecidableEq, Repr, Inhabited

/-- Why a grammar cannot be numbered. -/
inductive NumberingError where
  /-- A terminal or nonterminal is declared more than once. -/
  | duplicateSymbol (name : String)
  /-- A production refers to a symbol that is not declared. -/
  | unknownSymbol (name : String)
  /-- The augmenting start symbol is not one of the nonterminals. -/
  | unknownAugmentingSymbol (name : String)
deriving DecidableEq, Repr

def NumberingError.message : NumberingError → String
  | duplicateSymbol name => "Symbol '" ++ name ++ "' declared twice"
  | unknownSymbol name => "Unknown symbol '" ++ name ++ "'"
  | unknownAugmentingSymbol name => "Augmenting start symbol '" ++ name ++ "' is not a nonterminal"

namespace SymbolTable

/-! ## Numbering a grammar -/

/-- The first name that stands in the list a second time; `seen` is what came before. -/
def firstRepeated (seen : List String) : List String → Option String
  | [] => none
  | name :: rest => if name ∈ seen then some name else firstRepeated (name :: seen) rest

/-- Resolve a reference against the declared names. -/
def resolve (terminals nonterminals : List String) : SymbolRef → Except NumberingError Symbol
  | .terminal name =>
    match terminals.idxOf? name with
    | some i => .ok (.terminal ⟨i⟩)
    | none => .error (.unknownSymbol name)
  | .nonterminal name =>
    match nonterminals.idxOf? name with
    | some i => .ok (.nonterminal ⟨i⟩)
    | none => .error (.unknownSymbol name)

/-- Number the productions of one nonterminal from `ordinal` on. -/
def numberProductions (terminals nonterminals : List String) (nonterminal : NonterminalId)
    (ordinal : Nat) : List Production → Except NumberingError (List NumberedProduction)
  | [] => .ok []
  | production :: rest => do
    let rhs ← production.rhs.mapM (resolve terminals nonterminals)
    let others ← numberProductions terminals nonterminals nonterminal (ordinal + 1) rest
    return ⟨nonterminal, ordinal, rhs⟩ :: others

/-- Number the productions of the nonterminals, whose own numbers go from `first` on. -/
def numberAll (terminals nonterminals : List String) (first : Nat) :
    List Nonterminal → Except NumberingError (List NumberedProduction)
  | [] => .ok []
  | nonterminal :: rest => do
    let own ← numberProductions terminals nonterminals ⟨first⟩ 0 nonterminal.productions
    return own ++ (← numberAll terminals nonterminals (first + 1) rest)

/-- Number a grammar. Names must be unique within their class, and a right-hand side may refer to
declared symbols other than the augmenting one. -/
def ofGrammar (grammar : Grammar) : Except NumberingError SymbolTable := do
  if let some start := grammar.augmentedStart? then
    if !(grammar.nonterminals.any fun nonterminal => nonterminal.name == start) then
      throw (.unknownAugmentingSymbol start)
  let terminalNames := grammar.terminals.map Terminal.name
  if let some name := firstRepeated [] terminalNames then throw (.duplicateSymbol name)
  -- Names are compared before the augmenting symbol is left out, so it may not repeat one either.
  if let some name := firstRepeated [] (grammar.nonterminals.map Nonterminal.name) then
    throw (.duplicateSymbol name)
  let nonterminalNames := grammar.coreNonterminals.map Nonterminal.name
  let productions ← numberAll terminalNames nonterminalNames 0 grammar.coreNonterminals
  return ⟨grammar.terminals, nonterminalNames, productions, grammar.augmentedStart?⟩

/-! ## Looking up -/

def terminalIds (symbols : SymbolTable) : List TerminalId :=
  (List.range symbols.terminals.length).map TerminalId.mk

def nonterminalIds (symbols : SymbolTable) : List NonterminalId :=
  (List.range symbols.nonterminals.length).map NonterminalId.mk

def productionIds (symbols : SymbolTable) : List ProductionId :=
  (List.range symbols.productions.length).map ProductionId.mk

def terminal? (symbols : SymbolTable) (id : TerminalId) : Option Terminal :=
  symbols.terminals[id.index]?

def terminalName? (symbols : SymbolTable) (id : TerminalId) : Option String :=
  (symbols.terminal? id).map Terminal.name

def nonterminalName? (symbols : SymbolTable) (id : NonterminalId) : Option String :=
  symbols.nonterminals[id.index]?

def production? (symbols : SymbolTable) (id : ProductionId) : Option NumberedProduction :=
  symbols.productions[id.index]?

def terminalId? (symbols : SymbolTable) (name : String) : Option TerminalId :=
  ((symbols.terminals.map Terminal.name).idxOf? name).map TerminalId.mk

def nonterminalId? (symbols : SymbolTable) (name : String) : Option NonterminalId :=
  (symbols.nonterminals.idxOf? name).map NonterminalId.mk

/-- The productions of a nonterminal, in order; there are none for a number without a
nonterminal. -/
def productionsOf (symbols : SymbolTable) (id : NonterminalId) : List ProductionId :=
  symbols.productionIds.filter fun production =>
    (symbols.production? production).any fun entry => entry.nonterminal = id

/-- Production number `ordinal` of the nonterminal `name`. -/
def productionRef? (symbols : SymbolTable) (name : String) (ordinal : Nat) : Option ProductionId := do
  let id ← symbols.nonterminalId? name
  (symbols.productionsOf id)[ordinal]?

def isAugmentedStart (symbols : SymbolTable) (name : String) : Bool :=
  symbols.augmentedStart? = some name

/-- Whether the text of a terminal is kept. -/
def hasPayload (symbols : SymbolTable) (id : TerminalId) : Bool :=
  (symbols.terminal? id).any fun terminal => terminal.recognizer.hasPayload

/-! ## Names of productions -/

/-- The name of a production: its nonterminal, `P` and its ordinal. -/
def qualifiedName? (symbols : SymbolTable) (id : ProductionId) : Option String := do
  let production ← symbols.production? id
  let name ← symbols.nonterminalName? production.nonterminal
  return name ++ "P" ++ toString production.ordinal

def symbolName? (symbols : SymbolTable) : Symbol → Option String
  | .terminal id => symbols.terminalName? id
  | .nonterminal id => symbols.nonterminalName? id

/-- A production as it is shown to people: its nonterminal, a colon, and its symbols. -/
def display? (symbols : SymbolTable) (id : ProductionId) : Option String := do
  let production ← symbols.production? id
  let name ← symbols.nonterminalName? production.nonterminal
  let parts ← production.rhs.mapM symbols.symbolName?
  return name ++ ":" ++ String.join (parts.map fun part => " " ++ part)

end SymbolTable

end ParserFoundry
