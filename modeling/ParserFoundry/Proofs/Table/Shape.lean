import ParserFoundry.Proofs.Parser.Cells
/-!
# Shapes of Tables

How many rows and cells the tables of an automaton have, where a row keeps the cells that are
looked up by offset, and what its cells are made of.

Main results:
- `Grid.getElem?_row`: the cells of a row are those at its offsets.
- `ParseTable.length_row_actions`, `ParseTable.length_row_gotos`: rows are as wide as the grammar.
- `ParseTable.mem_cells_actions`: every action stands for a move that a state records.
- `ParseTable.length_expected`: all states expect the same number of terminals, padding included.
-/

namespace ParserFoundry

/-! ## Rows of grids -/

namespace Grid

variable {α : Type} {width i : Nat} {rows : List (List α)}

/-- The cells of a row are those at its offsets. -/
theorem getElem?_row (grid : Grid α) (i : Nat) {j : Nat} (hj : j < grid.width) :
    (grid.row i)[j]? = grid.get? i j := by
  simp [row, get?, hj]

/-- A grid that is made of rows has these rows. -/
theorem row_ofRows (hrows : ∀ row ∈ rows, row.length = width) (hi : i < rows.length) :
    (ofRows width rows).row i = rows[i] := by
  have hlength : rows[i].length = width := hrows _ (List.getElem_mem hi)
  -- within the width the cells are those of the row, and beyond it neither has any
  refine List.ext_getElem? fun j => ?_
  by_cases hj : j < width
  · rw [getElem?_row _ i hj, get?_ofRows hrows i hj, List.getElem?_eq_getElem hi, Option.bind_some]
  · rw [row, List.getElem?_take_eq_none (by simpa [ofRows] using hj),
      List.getElem?_eq_none (by omega)]

theorem length_cells_ofRows (hrows : ∀ row ∈ rows, row.length = width) :
    (ofRows width rows).cells.length = rows.length * width := by
  have hlengths : rows.map List.length = List.replicate rows.length width :=
    List.eq_replicate_iff.mpr ⟨List.length_map _, List.forall_mem_map.mpr hrows⟩
  rw [ofRows, List.length_flatten, hlengths, List.sum_replicate_nat]

end Grid

/-! ## Tables of an automaton -/

namespace ParseTable

variable {symbols : SymbolTable} {automaton : Automaton} {s : StateId}

/-! ### States -/

theorem mem_stateIds {table : ParseTable} : s ∈ table.stateIds ↔ s.index < table.stateCount := by
  -- states are numbered from the start of the list
  simp only [stateIds, List.mem_map, List.mem_range]
  exact ⟨fun ⟨i, hi, heq⟩ => heq ▸ hi, fun hs => ⟨s.index, hs, rfl⟩⟩

theorem getElem?_stateIds {table : ParseTable} (hs : s.index < table.stateCount) :
    table.stateIds[s.index]? = some s := by
  simp [stateIds, hs]

/-! ### Rows -/

theorem length_rowsOf (first : Nat) (states : List State) :
    (rowsOf symbols first states).length = states.length := by
  simp [rowsOf]

/-- Every row is that of a state, at its number. -/
theorem mem_rowsOf {row : Row} (h : row ∈ rowsOf symbols 0 automaton.states) :
    ∃ s state, automaton.state? s = some state ∧ row = rowOf symbols s state := by
  obtain ⟨⟨state, i⟩, hmem, rfl⟩ := List.mem_map.mp h
  exact ⟨⟨i⟩, state, List.mem_zipIdx_iff_getElem?.mp hmem, rfl⟩

theorem stateCount_tableOf (symbols : SymbolTable) (automaton : Automaton) :
    (tableOf symbols automaton).stateCount = automaton.states.length := by
  simp [stateCount, tableOf, ofRows]

/-- A number below the number of rows is that of a state. -/
theorem exists_state (hs : s.index < (tableOf symbols automaton).stateCount) :
    ∃ state, automaton.state? s = some state := by
  rw [stateCount_tableOf] at hs
  exact ⟨automaton.states[s.index], List.getElem?_eq_getElem hs⟩

/-- A row of a grid of the table is that part of its state's row, if the part has the same length
for all states. -/
theorem row_tableOf {α : Type} {width : Nat} {state : State} (part : Row → List α)
    (hpart : ∀ id state, (part (rowOf symbols id state)).length = width)
    (hstate : automaton.state? s = some state) :
    (Grid.ofRows width ((rowsOf symbols 0 automaton.states).map part)).row s.index =
      part (rowOf symbols s state) := by
  have hrow : (rowsOf symbols 0 automaton.states)[s.index]? = some (rowOf symbols s state) :=
    getElem?_rowsOf hstate
  obtain ⟨hlt, hget⟩ := List.getElem?_eq_some_iff.mp hrow
  rw [Grid.row_ofRows]
  · rw [List.getElem_map, hget]
  · intro row hmem
    obtain ⟨found, hfound, rfl⟩ := List.mem_map.mp hmem
    obtain ⟨id, other, -, rfl⟩ := mem_rowsOf hfound
    exact hpart id other
  · rwa [List.length_map]

/-- A part that has the same length in the rows of all states has that length in the rows of the
table. -/
theorem length_row_tableOf {α : Type} {width : Nat} (part : Row → List α)
    (hpart : ∀ id state, (part (rowOf symbols id state)).length = width)
    (hs : s.index < (tableOf symbols automaton).stateCount) :
    ((Grid.ofRows width ((rowsOf symbols 0 automaton.states).map part)).row s.index).length =
      width := by
  obtain ⟨state, hstate⟩ := exists_state hs
  rw [row_tableOf part hpart hstate]
  exact hpart s state

/-- A row of actions has a cell for every terminal. -/
theorem length_row_actions (hs : s.index < (tableOf symbols automaton).stateCount) :
    ((tableOf symbols automaton).actions.row s.index).length = symbols.terminals.length :=
  length_row_tableOf Row.actions (fun id state => by simp [rowOf, SymbolTable.terminalIds]) hs

/-- A row of gotos has a cell for every nonterminal. -/
theorem length_row_gotos (hs : s.index < (tableOf symbols automaton).stateCount) :
    ((tableOf symbols automaton).gotos.row s.index).length = symbols.nonterminals.length :=
  length_row_tableOf Row.gotos (fun id state => by simp [rowOf, SymbolTable.nonterminalIds]) hs

/-! ### Cells -/

/-- A cell of a row is the error, or stands for a move that the state records. -/
theorem mem_actions_rowOf (hsymbols : symbols.WellFormed) {state : State}
    (hvalid : state.Valid symbols automaton) {action : Action}
    (haction : action ∈ (rowOf symbols s state).actions) :
    action = .error ∨ ∃ terminal name move, symbols.terminalName? terminal = some name ∧
      move ∈ state.recorded name ∧ action = symbols.actionOf terminal move := by
  simp only [rowOf, List.map_map, List.mem_map, Function.comp_apply] at haction
  obtain ⟨terminal, hterminal, rfl⟩ := haction
  obtain ⟨name, hname⟩ :=
    SymbolTable.exists_terminalName (SymbolTable.mem_terminalIds.mp hterminal)
  -- the cell holds the first recorded move, or the error
  rw [candidates_actionsOf hsymbols hvalid hname, List.head?_map, head?_eraseDups]
  cases hrecorded : state.recorded name with
  | nil => exact .inl rfl
  | cons move later =>
    exact .inr ⟨terminal, name, move, hname, hrecorded ▸ List.mem_cons_self, rfl⟩

/-- A cell of a table is the error, or stands for a move that one of the states records. -/
theorem mem_cells_actions (hsymbols : symbols.WellFormed) (hencodable : automaton.Encodable symbols)
    {action : Action} (haction : action ∈ (tableOf symbols automaton).actions.cells) :
    action = .error ∨ ∃ s state terminal name move, automaton.state? s = some state ∧
      symbols.terminalName? terminal = some name ∧ move ∈ state.recorded name ∧
      symbols.Encodes terminal move action := by
  -- a cell of the table lies in the row of some state
  obtain ⟨cells, hcells, hmem⟩ := List.mem_flatten.mp haction
  obtain ⟨row, hrow, rfl⟩ := List.mem_map.mp hcells
  obtain ⟨s, state, hstate, rfl⟩ := mem_rowsOf hrow
  have hvalid := state_valid hencodable hstate
  rcases mem_actions_rowOf hsymbols hvalid hmem with herror |
    ⟨terminal, name, move, hname, hmove, rfl⟩
  · exact .inl herror
  · have hencodes : symbols.Encodes terminal move (symbols.actionOf terminal move) :=
      SymbolTable.encodes_actionOf hsymbols (valid_of_mem_recorded hvalid hmove)
    exact .inr ⟨s, state, terminal, name, move, hstate, hname, hmove, hencodes⟩

/-! ## Expected terminals -/

theorem length_filter_zipIdx (row : List Bool) (first : Nat) :
    ((row.zipIdx first).filter Prod.fst).length = row.countP id := by
  -- cell by cell; the places do not change what is counted
  induction row generalizing first with
  | nil => rfl
  | cons cell rest ih => cases cell <;> simp [ih]

/-- The actions of a state are counted by the cells that it occupies. -/
theorem length_stateActions (table : ParseTable) (s : StateId) :
    (table.stateActions s).length = (table.occupied.row s.index).countP id := by
  rw [stateActions, List.length_map, length_filter_zipIdx]

/-- The greatest number is not exceeded by any of the list, nor by the one started with. -/
theorem le_foldl_max (counts : List Nat) (least : Nat) :
    least ≤ counts.foldl max least ∧ ∀ count ∈ counts, count ≤ counts.foldl max least := by
  -- along the list, keeping the greatest number so far
  induction counts generalizing least with
  | nil => simp
  | cons count rest ih =>
    obtain ⟨hleast, hrest⟩ := ih (max least count)
    simp only [List.foldl_cons, List.mem_cons, forall_eq_or_imp]
    exact ⟨by omega, by omega, hrest⟩

/-- No row is fuller than the fullest one. -/
theorem countP_le_fullest {rows : List (List Bool)} {row : List Bool} (hrow : row ∈ rows) :
    row.countP id ≤ fullest rows :=
  (le_foldl_max _ 0).2 _ (List.mem_map_of_mem hrow)

theorem row_occupied_tableOf {state : State} (hstate : automaton.state? s = some state) :
    (tableOf symbols automaton).occupied.row s.index = (rowOf symbols s state).occupied :=
  row_tableOf Row.occupied (fun id state => by simp [rowOf, SymbolTable.terminalIds]) hstate

/-- No state has actions on more terminals than the fullest one. -/
theorem length_stateActions_le (hs : s.index < (tableOf symbols automaton).stateCount) :
    ((tableOf symbols automaton).stateActions s).length ≤ (tableOf symbols automaton).maxActions := by
  obtain ⟨state, hstate⟩ := exists_state hs
  have hmem : rowOf symbols s state ∈ rowsOf symbols 0 automaton.states :=
    List.mem_of_getElem? (getElem?_rowsOf hstate)
  rw [length_stateActions, row_occupied_tableOf hstate]
  exact countP_le_fullest (List.mem_map_of_mem hmem)

/-- All states expect the same number of terminals, padding included. -/
theorem length_expected (hs : s.index < (tableOf symbols automaton).stateCount) :
    ((tableOf symbols automaton).expected s).length = (tableOf symbols automaton).maxActions := by
  have hle := length_stateActions_le hs
  simp only [expected, List.length_append, List.length_take, List.length_map,
    List.length_replicate]
  omega

end ParseTable

end ParserFoundry
