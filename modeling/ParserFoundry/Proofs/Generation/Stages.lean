import ParserFoundry.Generation.Stages
import ParserFoundry.Proofs.Parser.Cells
/-!
# Results of the Stages

What each stage of a generation comes to: its notes aside, the result of the computation that it
reports on.

Main results:
- `madeFrom_of_result`, `result_of_parts`: the parsers that all stages make together are those
  that this theory is about.
-/

namespace ParserFoundry

namespace Generation

/-! ## Stages -/

theorem number_returns {grammar : Grammar} {symbols : SymbolTable}
    (h : (number grammar).Returns symbols) : SymbolTable.ofGrammar grammar = .ok symbols := by
  -- the stage is the computation, and then a note of what has come out
  obtain ⟨numbered, hnumbered, h⟩ := h.of_bind
  obtain ⟨-, -, h⟩ := h.of_bind
  obtain rfl := Journaled.eq_of_returns_pure h
  exact Journaled.eq_ok_of_returns_ofExcept hnumbered

theorem deriveNames_returns {symbols : SymbolTable} {names : NameTable}
    (h : (deriveNames symbols).Returns names) : NameTable.ofSymbols symbols = .ok names := by
  obtain ⟨derived, hderived, h⟩ := h.of_bind
  obtain ⟨-, -, h⟩ := h.of_bind
  obtain rfl := Journaled.eq_of_returns_pure h
  exact Journaled.eq_ok_of_returns_ofExcept hderived

theorem encode_returns {symbols : SymbolTable} {automaton : Automaton} {errorOnConflicts : Bool}
    {table : ParseTable} (h : (encode symbols automaton errorOnConflicts).Returns table) :
    ParseTable.encode symbols automaton errorOnConflicts = .ok table := by
  -- here a note stands in front, and the conflicts are noted behind
  obtain ⟨-, -, h⟩ := h.of_bind
  obtain ⟨encoded, hencoded, h⟩ := h.of_bind
  obtain ⟨-, -, h⟩ := h.of_bind
  obtain ⟨-, -, h⟩ := h.of_bind
  obtain rfl := Journaled.eq_of_returns_pure h
  exact Journaled.eq_ok_of_returns_ofExcept hencoded

theorem compileMatchers_returns {symbols : SymbolTable} {library : Library}
    {matchers : List Matcher} (h : (compileMatchers symbols library).Returns matchers) :
    Matcher.ofSymbols symbols library.compile = .ok matchers := by
  obtain ⟨compiled, hcompiled, h⟩ := h.of_bind
  obtain ⟨-, -, h⟩ := h.of_bind
  obtain rfl := Journaled.eq_of_returns_pure h
  exact Journaled.eq_ok_of_returns_ofExcept hcompiled

/-! ## Parsers -/

/-- A parser that is made for a grammar and an automaton is made of their parts. -/
theorem madeFrom_of_result {grammar : Grammar} {automaton : Automaton} {errorOnConflicts : Bool}
    {library : Library} {made : Parser}
    (h : (parser grammar automaton errorOnConflicts library).result.1 = .ok made) :
    ∃ symbols, SymbolTable.ofGrammar grammar = .ok symbols ∧
      made.MadeFrom symbols automaton errorOnConflicts := by
  -- stage by stage, in the order in which they are run
  obtain ⟨symbols, hsymbols, h⟩ := (Journaled.returns_of_result h).of_bind
  obtain ⟨table, htable, h⟩ := h.of_bind
  obtain ⟨matchers, hmatchers, h⟩ := h.of_bind
  obtain rfl := Journaled.eq_of_returns_pure h
  exact ⟨symbols, number_returns hsymbols, encode_returns htable,
    ⟨_, compileMatchers_returns hmatchers⟩, rfl⟩

/-- The parts of a parser that can be made are made together. -/
theorem result_of_parts {grammar : Grammar} {symbols : SymbolTable} {automaton : Automaton}
    {errorOnConflicts : Bool} {library : Library} {made : Parser}
    (hsymbols : SymbolTable.ofGrammar grammar = .ok symbols)
    (htable : ParseTable.encode symbols automaton errorOnConflicts = .ok made.table)
    (hmatchers : Matcher.ofSymbols symbols library.compile = .ok made.matchers)
    (hhandlers : made.handlers = .ofSymbols symbols) :
    (parser grammar automaton errorOnConflicts library).result.1 = .ok made := by
  have hparts : (⟨made.table, made.matchers, .ofSymbols symbols⟩ : Parser) = made := by
    rw [← hhandlers]
  -- every stage succeeds, so all that is left of them is their notes
  simp only [parser, number, hsymbols, encode, htable, compileMatchers, hmatchers, hparts,
    pure_bind, bind_assoc, Journaled.ofExcept, Journaled.result]
  rfl

end Generation

end ParserFoundry
