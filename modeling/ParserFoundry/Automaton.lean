import ParserFoundry.Numbering
/-!
# LR Automata

An automaton as an analysis engine records it: each state lists, terminal by terminal, the
candidate moves in the order in which they were found, and the target of each goto. A missing
move is an error move; two distinct candidates for one terminal are a conflict.
-/

namespace ParserFoundry

/-- A reference by name to a production: alternative number `ordinal` of `nonterminal`. -/
structure ProductionRef where
  nonterminal : String
  ordinal : Nat
deriving DecidableEq, Repr, Inhabited

/-- A move that the automaton may make on a terminal. -/
inductive Move where
  | shift (target : StateId)
  | reduce (production : ProductionRef)
  | accept
deriving DecidableEq, Repr, Inhabited

/-- One state of an automaton. -/
structure State where
  /-- The name of the symbol on which the state is entered, if recorded. -/
  symbol? : Option String := none
  /-- The candidate moves for each terminal, in recording order. -/
  actions : List (String × List Move) := []
  gotos : List (String × StateId) := []
deriving DecidableEq, Repr, Inhabited

namespace State

/-- Add a candidate to the first entry of `terminal`, or open an entry for it at the end. -/
def joinCandidate (terminal : String) (move : Move) :
    List (String × List Move) → List (String × List Move)
  | [] => [(terminal, [move])]
  | (name, moves) :: rest =>
    if name = terminal then (name, moves ++ [move]) :: rest
    else (name, moves) :: joinCandidate terminal move rest

/-- Record `move` as a candidate on `terminal`. -/
def recordMove (state : State) (terminal : String) (move : Move) : State :=
  { state with actions := joinCandidate terminal move state.actions }

/-- Record the goto on `nonterminal`. -/
def recordGoto (state : State) (nonterminal : String) (target : StateId) : State :=
  { state with gotos := state.gotos ++ [(nonterminal, target)] }

end State

/-- An LR automaton; the number of a state is its position. -/
structure Automaton where
  states : List State := []
deriving DecidableEq, Repr, Inhabited

namespace Automaton

def stateCount (automaton : Automaton) : Nat :=
  automaton.states.length

/-- All state numbers, in order. -/
def stateIds (automaton : Automaton) : List StateId :=
  (List.range automaton.stateCount).map StateId.mk

def state? (automaton : Automaton) (id : StateId) : Option State :=
  automaton.states[id.index]?

end Automaton

end ParserFoundry
