import ParserFoundry.SymbolTable
/-!
# Conflicts

A cell of the action table for which an automaton records several distinct candidates. Every pair
of candidates is one conflict, sorted by what the two candidates are.
-/

namespace ParserFoundry

/-- The conflicts of an automaton, in three lists. -/
structure Conflicts where
  /-- A shift of the terminal against a reduction, in the state. -/
  shiftReduce : List (TerminalId × ProductionId × StateId) := []
  /-- Two reductions in the state, the one recorded first in front. -/
  reduceReduce : List (ProductionId × ProductionId × StateId) := []
  /-- Any other pair: one with an accepting move, or two shifts to different states. -/
  other : List (TerminalId × StateId) := []
deriving DecidableEq, Repr, Inhabited

namespace Conflicts

def isEmpty (conflicts : Conflicts) : Bool :=
  conflicts.shiftReduce.isEmpty && conflicts.reduceReduce.isEmpty && conflicts.other.isEmpty

/-- The conflicts of `first` and then those of `second`. -/
def append (first second : Conflicts) : Conflicts where
  shiftReduce := first.shiftReduce ++ second.shiftReduce
  reduceReduce := first.reduceReduce ++ second.reduceReduce
  other := first.other ++ second.other

instance : Append Conflicts := ⟨append⟩

/-- How many conflicts there are in all. -/
def count (conflicts : Conflicts) : Nat :=
  conflicts.shiftReduce.length + conflicts.reduceReduce.length + conflicts.other.length

/-! ## Report -/

/-- A headed list of lines, nothing if there are no lines. -/
def section_ (heading : String) (lines : List String) : String :=
  if lines.isEmpty then ""
  else heading ++ " conflicts:\n" ++ String.join (lines.map fun line => "   State " ++ line ++ "\n")

/-- All conflicts, one per line. -/
def report (conflicts : Conflicts) (symbols : SymbolTable) : String :=
  let name (terminal : TerminalId) : String := (symbols.terminalName? terminal).getD ""
  let show_ (production : ProductionId) : String :=
    "Reduce(" ++ (symbols.display? production).getD "" ++ ")"
  section_ "Shift/Reduce" (conflicts.shiftReduce.map fun (terminal, production, state) =>
    toString state.index ++ ": Shift(\"" ++ name terminal ++ "\") / " ++ show_ production) ++
  section_ "Reduce/Reduce" (conflicts.reduceReduce.map fun (first, second, state) =>
    toString state.index ++ ": " ++ show_ first ++ " / " ++ show_ second) ++
  section_ "Other" (conflicts.other.map fun (terminal, state) =>
    toString state.index ++ ": \"" ++ name terminal ++ "\"")

end Conflicts

end ParserFoundry
