import ParserFoundry.Generation.Failure
import ParserFoundry.Generation.Library
import ParserFoundry.Journal
import ParserFoundry.Parser.Lexing
/-!
# Stages

The stages that every generation goes through, each with the notes that it leaves.
-/

namespace ParserFoundry.Generation

/-- Number the grammar. -/
def number (grammar : Grammar) : Journaled GenerationError SymbolTable := do
  let symbols ← .ofExcept .numbering (SymbolTable.ofGrammar grammar)
  Journaled.note .debug <|
    "Indexed " ++ toString symbols.terminals.length ++ " terminals, " ++
      toString symbols.nonterminals.length ++ " nonterminals, " ++
      toString symbols.productions.length ++ " productions"
  return symbols

/-- Derive the names of the numbered symbols. -/
def deriveNames (symbols : SymbolTable) : Journaled GenerationError NameTable := do
  let names ← .ofExcept .naming (NameTable.ofSymbols symbols)
  Journaled.note .debug <|
    "Derived names for " ++ toString names.productionKinds.length ++ " productions"
  return names

/-- Make the recognizers executable. -/
def compileMatchers (symbols : SymbolTable) (library : Library := {}) :
    Journaled GenerationError (List Matcher) := do
  let matchers ← .ofExcept .matcher (Matcher.ofSymbols symbols library.compile)
  Journaled.note .debug ("Compiled " ++ toString matchers.length ++ " recognizers")
  return matchers

/-- The notes on the states that could be encoded. -/
def stateNotes (symbols : SymbolTable) (automaton : Automaton) : List Note :=
  (ParseTable.encodable symbols automaton 0 automaton.states).map fun (id, state) =>
    ⟨.trace, "State " ++ toString id.index ++ ": " ++ toString state.actions.length ++
      " actions, " ++ toString state.gotos.length ++ " gotos"⟩

/-- The note on conflicts that are tolerated. -/
def conflictNote (symbols : SymbolTable) (conflicts : Conflicts) : Note :=
  ⟨.warn, toString conflicts.shiftReduce.length ++ " Shift/Reduce, " ++
    toString conflicts.reduceReduce.length ++ " Reduce/Reduce, and " ++
    toString conflicts.other.length ++ " other conflicts: using the first recorded action\n" ++
    conflicts.report symbols⟩

/-- Encode the automaton. -/
def encode (symbols : SymbolTable) (automaton : Automaton) (errorOnConflicts : Bool) :
    Journaled GenerationError ParseTable := do
  Journaled.notes (stateNotes symbols automaton)
  let table ← .ofExcept .encoding (ParseTable.encode symbols automaton errorOnConflicts)
  Journaled.notes (table.conflicts?.toList.map (conflictNote symbols))
  Journaled.note .debug <|
    "Encoded " ++ toString table.stateCount ++ " states (" ++
      toString symbols.terminals.length ++ " terminals, " ++
      toString symbols.nonterminals.length ++ " nonterminals, at most " ++
      toString table.maxActions ++ " actions per state)"
  return table

/-- Make all that is needed to run the parser of a grammar and its automaton. -/
def parser (grammar : Grammar) (automaton : Automaton) (errorOnConflicts : Bool)
    (library : Library := {}) : Journaled GenerationError Parser := do
  let symbols ← number grammar
  let table ← encode symbols automaton errorOnConflicts
  let matchers ← compileMatchers symbols library
  return ⟨table, matchers, .ofSymbols symbols⟩

end ParserFoundry.Generation
