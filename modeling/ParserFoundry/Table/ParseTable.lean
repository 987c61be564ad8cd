import ParserFoundry.Automaton
import ParserFoundry.Table.Conflict
import ParserFoundry.Table.Grid
/-!
# Parse Tables

The dense tables of an LR automaton: one row per state, with a cell per terminal for actions and a
cell per nonterminal for gotos. Encoding checks every reference of the automaton and records a
conflict for every pair of distinct candidates of a cell.
-/

namespace ParserFoundry

/-- What a parser does in a state on a terminal. -/
inductive Action where
  /-- Shift the terminal and go to the state. -/
  | shift (target : StateId) (terminal : TerminalId)
  /-- Reduce the production, which has so many symbols, to the nonterminal. -/
  | reduce (production : ProductionId) (length : Nat) (nonterminal : NonterminalId)
  | accept
  | error
deriving DecidableEq, Repr, Inhabited

/-- The tables of an automaton. -/
structure ParseTable where
  actions : Grid Action
  /-- For every cell of `actions`, whether a candidate is recorded for it. -/
  occupied : Grid Bool
  gotos : Grid (Option StateId)
  /-- The recorded accessing symbol of every state. -/
  stateSymbols : List (Option String)
  /-- The largest number of occupied cells in a row. -/
  maxActions : Nat
  /-- The conflicts that were tolerated. -/
  conflicts? : Option Conflicts
deriving DecidableEq, Repr, Inhabited

/-- Why an automaton cannot be encoded. -/
inductive EncodingError where
  | noStates
  /-- An action or goto names a symbol that is not numbered. -/
  | unknownSymbol (name : String)
  /-- A state refers to a state that does not exist. -/
  | missingState (source target : StateId)
  /-- A state moves on a symbol to a state that records another accessing symbol. -/
  | inconsistentTransition (source : StateId) (symbol : String) (target : StateId)
  /-- A reduction names a nonterminal without such a production. -/
  | unknownProduction (nonterminal : String) (ordinal : Nat)
  /-- A state reduces the augmenting start symbol instead of accepting. -/
  | augmentingReduce (state : StateId)
  /-- A state has two different gotos on the nonterminal. -/
  | duplicateGoto (state : StateId) (nonterminal : String)
  /-- Conflicts, where none are tolerated. -/
  | conflicts (conflicts : Conflicts)
deriving DecidableEq, Repr

def EncodingError.message : EncodingError → String
  | noStates => "Automaton has no states"
  | unknownSymbol name => "Unknown symbol '" ++ name ++ "'"
  | missingState source target =>
    "State " ++ toString source.index ++ " refers to non-existent state " ++ toString target.index
  | inconsistentTransition source symbol target =>
    "State " ++ toString source.index ++ " moves on '" ++ symbol ++ "' to state " ++
      toString target.index ++ ", which is not entered on '" ++ symbol ++ "'"
  | unknownProduction nonterminal ordinal =>
    "Nonterminal '" ++ nonterminal ++ "' has no production " ++ toString ordinal
  | augmentingReduce state =>
    "State " ++ toString state.index ++ " reduces the augmenting start symbol"
  | duplicateGoto state nonterminal =>
    "State " ++ toString state.index ++ " has more than one goto on '" ++ nonterminal ++ "'"
  | conflicts found =>
    "Conflicts (" ++ toString found.shiftReduce.length ++ " Shift/Reduce, " ++
      toString found.reduceReduce.length ++ " Reduce/Reduce, " ++
      toString found.other.length ++ " other)"

namespace ParseTable

/-! ## Encoding one state -/

/-- A transition leads to an existing state, which is entered on the symbol if it records its
accessing symbol. -/
def checkTransition (automaton : Automaton) (source : StateId) (symbol : String)
    (target : StateId) : Except EncodingError Unit :=
  match automaton.state? target with
  | none => .error (.missingState source target)
  | some state =>
    match state.symbol? with
    | none => .ok ()
    | some entered =>
      if entered = symbol then .ok () else .error (.inconsistentTransition source symbol target)

/-- Encode one recorded move on a terminal. -/
def encodeMove (symbols : SymbolTable) (automaton : Automaton) (source : StateId)
    (name : String) (terminal : TerminalId) : Move → Except EncodingError Action
  | .shift target => do
    checkTransition automaton source name target
    return .shift target terminal
  | .reduce production => do
    -- Its productions have no number, and would be reported as unknown without this check.
    if symbols.isAugmentedStart production.nonterminal then throw (.augmentingReduce source)
    match symbols.productionRef? production.nonterminal production.ordinal with
    | none => throw (.unknownProduction production.nonterminal production.ordinal)
    | some id =>
      match symbols.production? id with
      | none => throw (.unknownProduction production.nonterminal production.ordinal)
      | some entry => return .reduce id entry.rhs.length entry.nonterminal
  | .accept => .ok .accept

/-- Encode the entries of a state: every recorded move with its terminal, in recording order. -/
def encodeEntries (symbols : SymbolTable) (automaton : Automaton) (source : StateId) :
    List (String × List Move) → Except EncodingError (List (TerminalId × Action))
  | [] => .ok []
  | (name, moves) :: rest => do
    -- The terminal has to be known even if no move is recorded for it.
    let some terminal := symbols.terminalId? name | throw (.unknownSymbol name)
    let own ← moves.mapM (encodeMove symbols automaton source name terminal)
    return own.map (terminal, ·) ++ (← encodeEntries symbols automaton source rest)

/-- Encode the gotos of a state: every recorded goto with its nonterminal. -/
def encodeGotos (symbols : SymbolTable) (automaton : Automaton) (source : StateId)
    (earlier : List (NonterminalId × StateId)) :
    List (String × StateId) → Except EncodingError (List (NonterminalId × StateId))
  | [] => .ok earlier
  | (name, target) :: rest => do
    let some nonterminal := symbols.nonterminalId? name | throw (.unknownSymbol name)
    checkTransition automaton source name target
    -- A goto that is recorded twice with one target is no error.
    if earlier.any fun goto => goto.1 = nonterminal ∧ goto.2 ≠ target then
      throw (.duplicateGoto source name)
    encodeGotos symbols automaton source (earlier ++ [(nonterminal, target)]) rest

/-- The distinct candidates for a terminal, in recording order. -/
def candidates (recorded : List (TerminalId × Action)) (terminal : TerminalId) : List Action :=
  ((recorded.filter fun entry => entry.1 = terminal).map Prod.snd).foldl
    (fun distinct action => if action ∈ distinct then distinct else distinct ++ [action]) []

/-- The conflict of two candidates, the one recorded first in front. -/
def conflictOf (state : StateId) (terminal : TerminalId) : Action → Action → Conflicts
  | .shift .., .reduce production .. => { shiftReduce := [(terminal, production, state)] }
  | .reduce production .., .shift .. => { shiftReduce := [(terminal, production, state)] }
  | .reduce first .., .reduce second .. => { reduceReduce := [(first, second, state)] }
  | _, _ => { other := [(terminal, state)] }

/-- The conflicts of every pair of candidates of a cell. -/
def cellConflicts (state : StateId) (terminal : TerminalId) : List Action → Conflicts
  | [] => {}
  | first :: rest =>
    rest.foldl (fun found second => found ++ conflictOf state terminal first second) {} ++
      cellConflicts state terminal rest

/-- The tables' row for one state, and the conflicts in it. -/
structure Row where
  actions : List Action
  occupied : List Bool
  gotos : List (Option StateId)
  conflicts : Conflicts
deriving Repr

/-- Encode one state. The first candidate of a cell is its action. -/
def encodeState (symbols : SymbolTable) (automaton : Automaton) (id : StateId) (state : State) :
    Except EncodingError Row := do
  let recorded ← encodeEntries symbols automaton id state.actions
  let gotos ← encodeGotos symbols automaton id [] state.gotos
  let cells := symbols.terminalIds.map fun terminal => (terminal, candidates recorded terminal)
  return {
    actions := cells.map fun cell => cell.2.head?.getD .error
    occupied := cells.map fun cell => !cell.2.isEmpty
    gotos := symbols.nonterminalIds.map fun nonterminal =>
      (gotos.find? fun goto => goto.1 = nonterminal).map Prod.snd
    conflicts := cells.foldl (fun found cell => found ++ cellConflicts id cell.1 cell.2) {} }

/-- Encode states in order; `first` is the number of the first one. -/
def encodeStates (symbols : SymbolTable) (automaton : Automaton) (first : Nat) :
    List State → Except EncodingError (List Row)
  | [] => .ok []
  | state :: rest => do
    let row ← encodeState symbols automaton ⟨first⟩ state
    return row :: (← encodeStates symbols automaton (first + 1) rest)

/-- The states in front of the first one that cannot be encoded; `first` is the number of the
first one. -/
def encodable (symbols : SymbolTable) (automaton : Automaton) (first : Nat) :
    List State → List (StateId × State)
  | [] => []
  | state :: rest =>
    match encodeState symbols automaton ⟨first⟩ state with
    | .ok _ => (⟨first⟩, state) :: encodable symbols automaton (first + 1) rest
    | .error _ => []

/-! ## Encoding an automaton -/

/-- How many cells are occupied in the fullest row. -/
def fullest (rows : List (List Bool)) : Nat :=
  (rows.map fun row => row.countP id).foldl max 0

/-- The tables made of the rows. -/
def ofRows (symbols : SymbolTable) (automaton : Automaton) (rows : List Row)
    (conflicts? : Option Conflicts) : ParseTable where
  actions := .ofRows symbols.terminals.length (rows.map Row.actions)
  occupied := .ofRows symbols.terminals.length (rows.map Row.occupied)
  gotos := .ofRows symbols.nonterminals.length (rows.map Row.gotos)
  stateSymbols := automaton.states.map State.symbol?
  maxActions := fullest (rows.map Row.occupied)
  conflicts? := conflicts?

/-- Encode an automaton whose symbols are those of `symbols`. Conflicts are an error, or else
recorded, and then the candidate recorded first is used. -/
def encode (symbols : SymbolTable) (automaton : Automaton) (errorOnConflicts : Bool) :
    Except EncodingError ParseTable := do
  if automaton.states.isEmpty then throw .noStates
  let rows ← encodeStates symbols automaton 0 automaton.states
  let found := rows.foldl (fun found row => found ++ row.conflicts) {}
  if found.isEmpty then return ofRows symbols automaton rows none
  if errorOnConflicts then throw (.conflicts found)
  return ofRows symbols automaton rows (some found)

/-! ## Looking up -/

def stateCount (table : ParseTable) : Nat :=
  table.stateSymbols.length

def stateIds (table : ParseTable) : List StateId :=
  (List.range table.stateCount).map StateId.mk

def action? (table : ParseTable) (state : StateId) (terminal : TerminalId) : Option Action :=
  table.actions.get? state.index terminal.index

/-- The goto of a state on a nonterminal: there is no such cell, or it is empty, or it holds a
state. -/
def goto? (table : ParseTable) (state : StateId) (nonterminal : NonterminalId) :
    Option (Option StateId) :=
  table.gotos.get? state.index nonterminal.index

/-- The terminals with an action in a state, in declaration order. -/
def stateActions (table : ParseTable) (state : StateId) : List TerminalId :=
  ((table.occupied.row state.index).zipIdx.filter Prod.fst).map fun cell => ⟨cell.2⟩

/-- The terminals with an action in a state, cut or padded to the same length for all states. -/
def expected (table : ParseTable) (state : StateId) : List (Option TerminalId) :=
  let terminals := (table.stateActions state).map some
  terminals.take table.maxActions ++ List.replicate (table.maxActions - terminals.length) none

/-- The expected terminals of a state whose row ends below 2^64, the limit of all offsets. -/
def expected? (table : ParseTable) (state : StateId) : Option (List (Option TerminalId)) :=
  if (state.index + 1) * table.occupied.width < 0x10000000000000000 then
    some (table.expected state)
  else none

def stateSymbol? (table : ParseTable) (state : StateId) : Option (Option String) :=
  table.stateSymbols[state.index]?

end ParseTable

end ParserFoundry
