import ParserFoundry.Parser.Lexing
import ParserFoundry.Proofs.Table.Exactness
/-!
# Parsers of an Automaton

What the parts of a parser promise to each other when they are made from one numbered grammar,
however little sense the automaton makes: a shift shifts the terminal of its column, a reduction
has the length and the nonterminal of its production, every target is a state, and every expected
terminal has a matcher and a handler.

Main results:
- `MadeFrom.shift_cell`, `MadeFrom.reduce_cell`, `MadeFrom.goto_cell`: what the cells say.
- `MadeFrom.exists_action?`, `MadeFrom.exists_goto?`: that there are cells.
- `MadeFrom.expected_lt`: a parser expects terminals of its grammar only.
-/

namespace ParserFoundry

/-! ## Numbers in range -/

def Automaton.HasState (automaton : Automaton) (s : StateId) : Prop :=
  ∃ state, automaton.state? s = some state

/-- Whether a symbol is one of the numbered ones. -/
def SymbolTable.Numbers (symbols : SymbolTable) : Symbol → Prop
  | .terminal id => id.index < symbols.terminals.length
  | .nonterminal id => id.index < symbols.nonterminals.length

namespace SymbolTable

variable {symbols : SymbolTable}

theorem exists_terminalName {terminal : TerminalId} (h : symbols.Numbers (.terminal terminal)) :
    ∃ name, symbols.terminalName? terminal = some name := by
  have hlt : terminal.index < symbols.terminals.length := h
  exact ⟨symbols.terminals[terminal.index].name, by simp [terminalName?, terminal?, hlt]⟩

theorem mem_terminalIds {terminal : TerminalId} :
    terminal ∈ symbols.terminalIds ↔ symbols.Numbers (.terminal terminal) := by
  simp only [terminalIds, Numbers, List.mem_map, List.mem_range]
  constructor
  · intro h
    obtain ⟨i, hi, rfl⟩ := h
    exact hi
  · intro hlt
    exact ⟨terminal.index, hlt, rfl⟩

theorem exists_nonterminalName {nonterminal : NonterminalId}
    (h : symbols.Numbers (.nonterminal nonterminal)) :
    ∃ name, symbols.nonterminalName? nonterminal = some name := by
  have hlt : nonterminal.index < symbols.nonterminals.length := h
  exact ⟨symbols.nonterminals[nonterminal.index], by simp [nonterminalName?, hlt]⟩

/-- A production reduces to a numbered nonterminal. -/
theorem WellFormed.numbers_nonterminal (hsymbols : symbols.WellFormed) {production : ProductionId}
    {entry : NumberedProduction} (hentry : symbols.production? production = some entry) :
    symbols.Numbers (.nonterminal entry.nonterminal) :=
  hsymbols.nonterminal_lt entry (List.mem_of_getElem? hentry)

end SymbolTable

/-! ## Expected terminals -/

theorem ParseTable.lt_of_mem_stateActions {table : ParseTable} {s : StateId}
    {terminal : TerminalId} (h : terminal ∈ table.stateActions s) :
    terminal.index < table.occupied.width := by
  -- the number of a terminal is its place in the row, and a row is at most as long as it is wide
  simp only [stateActions, List.mem_map, List.mem_filter, Prod.exists] at h
  obtain ⟨occupied, index, ⟨hmem, -⟩, rfl⟩ := h
  have hlt := List.snd_lt_of_mem_zipIdx hmem
  have hwidth : (table.occupied.row s.index).length ≤ table.occupied.width := List.length_take_le ..
  exact Nat.lt_of_lt_of_le (by simpa using hlt) hwidth

theorem ParseTable.mem_stateActions_of_expected {table : ParseTable} {s : StateId}
    {terminal : TerminalId} (h : some terminal ∈ table.expected s) :
    terminal ∈ table.stateActions s := by
  unfold expected at h
  rcases List.mem_append.mp h with hkept | hpadding
  · simpa using List.mem_of_mem_take hkept
  · simp at hpadding

/-! ## Handlers -/

namespace Handlers

variable {symbols : SymbolTable}

theorem shift?_ofSymbols {terminal : TerminalId} (h : symbols.Numbers (.terminal terminal)) :
    (ofSymbols symbols).shift? terminal = some ⟨terminal, symbols.hasPayload terminal⟩ := by
  have hlt : terminal.index < symbols.terminals.length := h
  simp [shift?, ofSymbols, SymbolTable.hasPayload, SymbolTable.terminal?, hlt]

theorem reduce?_ofSymbols {production : ProductionId} {entry : NumberedProduction}
    (hentry : symbols.production? production = some entry) :
    (ofSymbols symbols).reduce? production =
      some ⟨production, entry.nonterminal, entry.rhs.map (shapeOf symbols)⟩ := by
  have hget : symbols.productions[production.index]? = some entry := hentry
  simp [reduce?, ofSymbols, hget]

end Handlers

/-! ## The parts of a parser -/

namespace Parser

/-- The table, the matchers and the handlers of the parser are made from the numbered grammar, the
table for the automaton. Any compiler may have made the programs of the patterns. -/
structure MadeFrom (parser : Parser) (symbols : SymbolTable) (automaton : Automaton)
    (errorOnConflicts : Bool) : Prop where
  table_eq : ParseTable.encode symbols automaton errorOnConflicts = .ok parser.table
  exists_compiler : ∃ compile, Matcher.ofSymbols symbols compile = .ok parser.matchers
  handlers_eq : parser.handlers = .ofSymbols symbols

namespace MadeFrom

variable {parser : Parser} {symbols : SymbolTable} {automaton : Automaton}
variable {errorOnConflicts : Bool} {s target : StateId} {terminal : TerminalId}

theorem hasState_start (hsymbols : symbols.WellFormed)
    (made : parser.MadeFrom symbols automaton errorOnConflicts) : automaton.HasState ⟨0⟩ := by
  have hstates := ((ParseTable.encode_eq_ok_iff hsymbols).mp made.table_eq).1.has_state
  cases hstate : automaton.states with
  | nil => exact absurd hstate hstates
  | cons first rest => exact ⟨first, by simp [Automaton.state?, hstate]⟩

/-- An action cell is empty, or encodes a valid move on its terminal. -/
theorem action_cell (hsymbols : symbols.WellFormed)
    (made : parser.MadeFrom symbols automaton errorOnConflicts) (hstate : automaton.HasState s)
    (hterminal : symbols.Numbers (.terminal terminal)) :
    parser.table.action? s terminal = some .error ∨
      ∃ name move action, symbols.terminalName? terminal = some name ∧
        move.Valid symbols automaton name ∧ symbols.Encodes terminal move action ∧
        parser.table.action? s terminal = some action := by
  obtain ⟨state, hstate⟩ := hstate
  obtain ⟨name, hname⟩ := SymbolTable.exists_terminalName hterminal
  have hrepresents := ParseTable.represents_of_encode hsymbols made.table_eq
  have hencodable := ((ParseTable.encode_eq_ok_iff hsymbols).mp made.table_eq).1
  -- the first move that is recorded on the terminal decides what is in the cell
  cases hrecorded : state.recorded name with
  | nil => exact .inl (hrepresents.action_unrecorded hstate hname hrecorded)
  | cons move later =>
    obtain ⟨action, hencodes, haction⟩ := hrepresents.action_recorded hstate hname hrecorded
    have hvalid : move.Valid symbols automaton name :=
      ParseTable.valid_of_mem_recorded (ParseTable.state_valid hencodable hstate)
        (by simp [hrecorded])
    exact .inr ⟨name, move, action, hname, hvalid, hencodes, haction⟩

/-- Every state has a cell for every terminal. -/
theorem exists_action? (hsymbols : symbols.WellFormed)
    (made : parser.MadeFrom symbols automaton errorOnConflicts) (hstate : automaton.HasState s)
    (hterminal : symbols.Numbers (.terminal terminal)) :
    ∃ action, parser.table.action? s terminal = some action := by
  rcases made.action_cell hsymbols hstate hterminal with herror |
    ⟨-, -, action, -, -, -, haction⟩
  · exact ⟨_, herror⟩
  · exact ⟨action, haction⟩

/-- A shift shifts the terminal of its column, and goes to a state. -/
theorem shift_cell (hsymbols : symbols.WellFormed)
    (made : parser.MadeFrom symbols automaton errorOnConflicts) (hstate : automaton.HasState s)
    (hterminal : symbols.Numbers (.terminal terminal)) {shifted : TerminalId}
    (haction : parser.table.action? s terminal = some (.shift target shifted)) :
    shifted = terminal ∧ automaton.HasState target := by
  -- no shift is in an empty cell, so the cell encodes a move, and only shifts are encoded so
  rcases made.action_cell hsymbols hstate hterminal with herror |
    ⟨name, move, action, -, hvalid, hencodes, hcell⟩
  · cases haction.symm.trans herror
  · cases haction.symm.trans hcell
    cases hencodes
    obtain ⟨state, hstate, -⟩ := hvalid
    exact ⟨rfl, state, hstate⟩

/-- A reduction has the length and the nonterminal of its production. -/
theorem reduce_cell (hsymbols : symbols.WellFormed)
    (made : parser.MadeFrom symbols automaton errorOnConflicts) (hstate : automaton.HasState s)
    (hterminal : symbols.Numbers (.terminal terminal)) {production : ProductionId} {length : Nat}
    {nonterminal : NonterminalId}
    (haction : parser.table.action? s terminal = some (.reduce production length nonterminal)) :
    ∃ entry, symbols.production? production = some entry ∧ length = entry.rhs.length ∧
      nonterminal = entry.nonterminal := by
  rcases made.action_cell hsymbols hstate hterminal with herror |
    ⟨name, move, action, -, -, hencodes, hcell⟩
  · cases haction.symm.trans herror
  · cases haction.symm.trans hcell
    cases hencodes with
    | reduce hproduction hentry => exact ⟨_, hentry, rfl, rfl⟩

/-- A goto leads to a state. -/
theorem goto_cell (hsymbols : symbols.WellFormed)
    (made : parser.MadeFrom symbols automaton errorOnConflicts)
    {nonterminal : NonterminalId} (hnonterminal : symbols.Numbers (.nonterminal nonterminal))
    (hgoto : parser.table.goto? s nonterminal = some (some target)) :
    automaton.HasState target := by
  obtain ⟨name, hname⟩ := SymbolTable.exists_nonterminalName hnonterminal
  obtain ⟨hencodable, htable, -⟩ := (ParseTable.encode_eq_ok_iff hsymbols).mp made.table_eq
  rw [htable] at hgoto
  -- a goto cell is filled from a recorded goto only, whose target has been checked
  obtain ⟨state, hstate, hmem⟩ := ParseTable.exists_goto_of_goto? hname hgoto
  obtain ⟨entered, hentered, -⟩ :=
    (ParseTable.state_valid hencodable hstate).gotos_enter _ hmem
  exact ⟨entered, hentered⟩

/-- Every state has a cell for every nonterminal, be it empty. -/
theorem exists_goto? (hsymbols : symbols.WellFormed)
    (made : parser.MadeFrom symbols automaton errorOnConflicts) (hstate : automaton.HasState s)
    {nonterminal : NonterminalId} (hnonterminal : symbols.Numbers (.nonterminal nonterminal)) :
    ∃ target?, parser.table.goto? s nonterminal = some target? := by
  obtain ⟨state, hstate⟩ := hstate
  obtain ⟨name, hname⟩ := SymbolTable.exists_nonterminalName hnonterminal
  obtain ⟨-, htable, -⟩ := (ParseTable.encode_eq_ok_iff hsymbols).mp made.table_eq
  rw [htable]
  exact ⟨_, ParseTable.goto?_tableOf hstate hname⟩

/-- A parser expects terminals of its grammar only. -/
theorem expected_lt (hsymbols : symbols.WellFormed)
    (made : parser.MadeFrom symbols automaton errorOnConflicts)
    (h : some terminal ∈ parser.table.expected s) : symbols.Numbers (.terminal terminal) := by
  obtain ⟨-, htable, -⟩ := (ParseTable.encode_eq_ok_iff hsymbols).mp made.table_eq
  -- what is expected has a mark in the row of the state
  have hlt := ParseTable.lt_of_mem_stateActions (ParseTable.mem_stateActions_of_expected h)
  rw [htable] at hlt
  exact hlt

/-- Every terminal has a matcher. -/
theorem exists_matcher (made : parser.MadeFrom symbols automaton errorOnConflicts)
    (hterminal : symbols.Numbers (.terminal terminal)) :
    ∃ matcher, parser.matchers[terminal.index]? = some matcher := by
  obtain ⟨compile, hmatchers⟩ := made.exists_compiler
  -- there are as many matchers as terminals
  have hlength := (forall₂_of_mapM_eq_ok hmatchers).length_eq
  have hlt : terminal.index < parser.matchers.length := hlength ▸ hterminal
  exact ⟨parser.matchers[terminal.index], List.getElem?_eq_getElem hlt⟩

theorem shift?_eq (made : parser.MadeFrom symbols automaton errorOnConflicts)
    (hterminal : symbols.Numbers (.terminal terminal)) :
    parser.handlers.shift? terminal = some ⟨terminal, symbols.hasPayload terminal⟩ := by
  rw [made.handlers_eq, Handlers.shift?_ofSymbols hterminal]

theorem reduce?_eq (made : parser.MadeFrom symbols automaton errorOnConflicts)
    {production : ProductionId} {entry : NumberedProduction}
    (hentry : symbols.production? production = some entry) :
    parser.handlers.reduce? production =
      some ⟨production, entry.nonterminal, entry.rhs.map (Handlers.shapeOf symbols)⟩ := by
  rw [made.handlers_eq, Handlers.reduce?_ofSymbols hentry]

end MadeFrom

end Parser

end ParserFoundry
