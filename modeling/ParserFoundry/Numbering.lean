/-!
# Dense Numbering

Terminals, nonterminals, productions and automaton states are numbered from zero. Each kind of
number has a type of its own, so that a column of one table is never read with the number of
another.
-/

namespace ParserFoundry

/-- The position of a terminal in the order in which the grammar declares its terminals. -/
structure TerminalId where
  index : Nat
deriving DecidableEq, Repr, Inhabited

/-- The position of a nonterminal among those that generated code knows: the augmenting start
nonterminal has none. -/
structure NonterminalId where
  index : Nat
deriving DecidableEq, Repr, Inhabited

/-- The position of a production when the productions of all numbered nonterminals are listed
one nonterminal after the other. -/
structure ProductionId where
  index : Nat
deriving DecidableEq, Repr, Inhabited

/-- The position of a state in its automaton; state 0 is the start state. -/
structure StateId where
  index : Nat
deriving DecidableEq, Repr, Inhabited

/-- A resolved grammar symbol. -/
inductive Symbol where
  | terminal (id : TerminalId)
  | nonterminal (id : NonterminalId)
deriving DecidableEq, Repr, Inhabited

end ParserFoundry
