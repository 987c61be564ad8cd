import ParserFoundry.Proofs.Parser.Cells
import ParserFoundry.Proofs.Table.Shape
/-!
# Expected Terminals

A table says three times on which terminals a state has an action: in its action cells, in the marks
beside them, and in the width to which the expected terminals are cut or padded. The three agree, so
a parser that tries the expected terminals only misses none and tries none in vain.

Main results:
- `stateActions_tableOf`: the marks of a row, read as terminals.
- `exists_countP_eq_fullest`: some row is as full as the fullest one.
- `stateActions_eq_filter`: the marked terminals are those with an action.
- `exists_length_stateActions_eq`: some state needs the whole width.
- `expects_exactly`: what the states of an encoded table expect.
-/

namespace ParserFoundry

/-! ## Marks in a row -/

/-- Filtering marks that are numbered in order filters the numbers. -/
theorem map_filter_zipIdx_range (mark : Nat → Bool) (count : Nat) :
    (((List.range count).map mark).zipIdx.filter Prod.fst).map Prod.snd =
      (List.range count).filter mark := by
  -- a mark stands beside its number, and that is what it was made from
  have hzip : ((List.range count).map mark).zipIdx =
      (List.range count).map fun i => (mark i, i) := by
    apply List.ext_getElem
    · simp
    · intro i hi hi'
      simp
  rw [hzip, List.filter_map, List.map_map]
  exact List.map_id _

/-- The largest of some numbers is one of them, unless the least that is allowed is larger. -/
theorem foldl_max_mem (counts : List Nat) (least : Nat) :
    counts.foldl max least ∈ least :: counts := by
  induction counts generalizing least with
  | nil => simp
  | cons count rest ih =>
    have hmem := ih (max least count)
    rw [List.foldl_cons]
    rcases List.mem_cons.mp hmem with heq | hrest
    · rw [heq]
      rcases Nat.le_total least count with hle | hle
      · rw [Nat.max_eq_right hle]
        simp
      · rw [Nat.max_eq_left hle]
        simp
    · exact List.mem_cons_of_mem _ (List.mem_cons_of_mem _ hrest)

namespace ParseTable

variable {symbols : SymbolTable} {automaton : Automaton} {s : StateId} {state : State}
  {terminal : TerminalId}

/-- Some row is as full as the fullest one. -/
theorem exists_countP_eq_fullest {rows : List (List Bool)} (hrows : rows ≠ []) :
    ∃ row ∈ rows, row.countP id = fullest rows := by
  have hmem := foldl_max_mem (rows.map fun row => row.countP id) 0
  rcases List.mem_cons.mp hmem with hzero | hcount
  · -- if not even the fullest row has a mark, any row will do
    obtain ⟨row, hrow⟩ := List.exists_mem_of_ne_nil rows hrows
    have hle := countP_le_fullest hrow
    have hfullest : fullest rows = 0 := hzero
    exact ⟨row, hrow, by omega⟩
  · obtain ⟨row, hrow, hcount⟩ := List.mem_map.mp hcount
    exact ⟨row, hrow, hcount⟩

/-- The marked terminals of a state are those with a candidate, in declaration order. -/
theorem stateActions_tableOf (hstate : automaton.state? s = some state) :
    (tableOf symbols automaton).stateActions s =
      symbols.terminalIds.filter fun terminal =>
        !(candidates (symbols.actionsOf state.actions) terminal).isEmpty := by
  -- the marks of the row are a function of the terminals' numbers
  let mark (i : Nat) : Bool := !(candidates (symbols.actionsOf state.actions) ⟨i⟩).isEmpty
  have hrow : (tableOf symbols automaton).occupied.row s.index =
      (List.range symbols.terminals.length).map mark := by
    rw [row_occupied_tableOf hstate]
    simp [rowOf, SymbolTable.terminalIds, mark]
  calc (tableOf symbols automaton).stateActions s
      = (((((List.range symbols.terminals.length).map mark).zipIdx).filter Prod.fst).map
          Prod.snd).map TerminalId.mk := by
        rw [stateActions, hrow, List.map_map]
        rfl
    _ = ((List.range symbols.terminals.length).filter mark).map TerminalId.mk := by
        rw [map_filter_zipIdx_range]
    _ = _ := by
        rw [SymbolTable.terminalIds, List.filter_map]
        rfl

/-! ## Marks and cells -/

/-- No move stands for the error. -/
theorem ne_error_of_encodes {move : Move} {action : Action}
    (h : symbols.Encodes terminal move action) : action ≠ .error := by
  cases h with
  | shift target => simp
  | reduce hproduction hentry => simp
  | accept => simp

/-- A cell is empty exactly if there is no candidate for it. -/
theorem head?_candidates_eq_error_iff (hsymbols : symbols.WellFormed)
    (hvalid : state.Valid symbols automaton) {name : String}
    (hname : symbols.terminalName? terminal = some name) :
    (candidates (symbols.actionsOf state.actions) terminal).head?.getD .error = .error ↔
      (candidates (symbols.actionsOf state.actions) terminal).isEmpty = true := by
  rw [candidates_actionsOf hsymbols hvalid hname, List.head?_map, head?_eraseDups]
  -- the first recorded move fills the cell, and no move is encoded as the error
  cases hrecorded : state.recorded name with
  | nil => simp
  | cons first later =>
    have hfirst : first.Valid symbols automaton name :=
      valid_of_mem_recorded hvalid (by simp [hrecorded])
    have hencodes : symbols.Encodes terminal first (symbols.actionOf terminal first) :=
      SymbolTable.encodes_actionOf hsymbols hfirst
    simp [ne_error_of_encodes hencodes, List.eraseDups_cons]

/-- Every terminal has a cell in every state, and it is marked unless the cell is empty. -/
theorem action?_eq_error_iff (hsymbols : symbols.WellFormed)
    (hencodable : automaton.Encodable symbols) (hstate : automaton.state? s = some state)
    (hterminal : symbols.Numbers (.terminal terminal)) :
    ∃ action, (tableOf symbols automaton).action? s terminal = some action ∧
      (action = .error ↔
        (candidates (symbols.actionsOf state.actions) terminal).isEmpty = true) := by
  obtain ⟨name, hname⟩ := SymbolTable.exists_terminalName hterminal
  exact ⟨_, action?_tableOf hstate hname,
    head?_candidates_eq_error_iff hsymbols (state_valid hencodable hstate) hname⟩

/-- The marked terminals of a state are those on which its cells are not empty. -/
theorem stateActions_eq_filter (hsymbols : symbols.WellFormed)
    (hencodable : automaton.Encodable symbols)
    (hs : s.index < (tableOf symbols automaton).stateCount) :
    (tableOf symbols automaton).stateActions s =
      symbols.terminalIds.filter fun terminal =>
        ¬ (tableOf symbols automaton).action? s terminal = some .error := by
  obtain ⟨state, hstate⟩ := exists_state hs
  rw [stateActions_tableOf hstate]
  -- the same terminals pass, since mark and cell agree on each of them
  apply List.filter_congr
  intro terminal hterminal
  obtain ⟨action, haction, hempty⟩ :=
    action?_eq_error_iff hsymbols hencodable hstate (SymbolTable.mem_terminalIds.mp hterminal)
  rw [haction, Bool.eq_iff_iff]
  simp only [Option.some.injEq, hempty]
  simp

theorem pairwise_terminalIds (symbols : SymbolTable) :
    symbols.terminalIds.Pairwise fun first second => first.index < second.index :=
  List.pairwise_map.mpr List.pairwise_lt_range

end ParseTable

/-! ## Trying terminals -/

namespace Parser

/-- Try all terminals in declaration order, but for those on which the state has no action. -/
def scan? (parser : Parser) (symbols : SymbolTable) (s : StateId) (input : List Char) :
    Option (TerminalId × List Char) :=
  symbols.terminalIds.findSome? fun terminal =>
    if parser.table.action? s terminal = some .error then none
    else
      (parser.matchers[terminal.index]?.bind fun matcher => matcher.recognize? input).map fun
        lexeme => (terminal, lexeme)

theorem recognizeFirst?_eq_findSome? (parser : Parser) (input : List Char)
    (terminals : List TerminalId) :
    parser.recognizeFirst? input terminals =
      terminals.findSome? fun terminal =>
        (parser.matchers[terminal.index]?.bind fun matcher => matcher.recognize? input).map fun
          lexeme => (terminal, lexeme) := by
  induction terminals with
  | nil => rfl
  | cons first rest ih =>
    rw [recognizeFirst?, List.findSome?_cons, ih]
    cases parser.matchers[first.index]?.bind fun matcher => matcher.recognize? input with
    | none => rfl
    | some lexeme => rfl

/-- Leaving terminals out beforehand, or passing over them, comes to the same. -/
theorem findSome?_filter {α β : Type} (keep : α → Prop) [DecidablePred keep] (find : α → Option β)
    (values : List α) :
    (values.filter fun value => ¬ keep value).findSome? find =
      values.findSome? fun value => if keep value then none else find value := by
  induction values with
  | nil => rfl
  | cons value rest ih =>
    rw [List.findSome?_cons]
    by_cases hkeep : keep value
    · rw [List.filter_cons_of_neg (by simpa using hkeep), if_pos hkeep]
      exact ih
    · rw [List.filter_cons_of_pos (by simpa using hkeep), if_neg hkeep, List.findSome?_cons, ih]

end Parser

namespace ParseTable

variable {symbols : SymbolTable} {automaton : Automaton} {s : StateId}

/-! ## What states expect -/

/-- What a state expects, said by its action cells. -/
structure Expects (table : ParseTable) (symbols : SymbolTable) (s : StateId) : Prop where
  /-- The marked terminals are those with an action. -/
  mem_stateActions_iff : ∀ terminal, terminal ∈ table.stateActions s ↔
    terminal.index < symbols.terminals.length ∧
      ∃ action, table.action? s terminal = some action ∧ action ≠ .error
  increasing : (table.stateActions s).Pairwise fun first second => first.index < second.index
  /-- None of them is cut off. -/
  expected_eq : ∃ padding,
    table.expected s = (table.stateActions s).map some ++ List.replicate padding none
  length_expected_eq : (table.expected s).length = table.maxActions
  /-- A parser that tries what is expected takes the terminal that it would take if it tried all
  terminals with an action, whatever is left of its input. -/
  lookahead?_eq : ∀ parser : Parser, parser.table = table → ∀ position rest,
    parser.lookahead? s position rest =
      (parser.scan? symbols s (rest.dropWhile isBlank)).map fun (terminal, lexeme) =>
        ⟨terminal, position + byteLength (rest.takeWhile isBlank), byteLength lexeme,
          rest.dropWhile isBlank⟩

/-- Trying what is marked is trying all terminals but for those without an action. -/
theorem recognizeFirst?_stateActions (hsymbols : symbols.WellFormed)
    (hencodable : automaton.Encodable symbols) {parser : Parser}
    (hparser : parser.table = tableOf symbols automaton)
    (hs : s.index < parser.table.stateCount) (input : List Char) :
    parser.recognizeFirst? input (parser.table.stateActions s) = parser.scan? symbols s input := by
  rw [Parser.recognizeFirst?_eq_findSome?, Parser.scan?]
  rw [hparser] at hs ⊢
  rw [stateActions_eq_filter hsymbols hencodable hs, Parser.findSome?_filter]

/-- Of the expected terminals none is cut off, since the fullest row was counted in. -/
theorem expected_eq_append (hs : s.index < (tableOf symbols automaton).stateCount) :
    (tableOf symbols automaton).expected s =
      ((tableOf symbols automaton).stateActions s).map some ++
        List.replicate ((tableOf symbols automaton).maxActions -
          ((tableOf symbols automaton).stateActions s).length) none := by
  have hle := length_stateActions_le hs
  -- so that cutting to the width cuts nothing
  unfold expected
  dsimp only
  rw [List.take_of_length_le (by rwa [List.length_map]), List.length_map]

/-- Without the padding the terminals remain. -/
theorem filterMap_padded (terminals : List TerminalId) (padding : Nat) :
    (terminals.map some ++ List.replicate padding none).filterMap id = terminals := by
  simp [List.filterMap_map]

theorem expects_tableOf (hsymbols : symbols.WellFormed) (hencodable : automaton.Encodable symbols)
    (hs : s.index < (tableOf symbols automaton).stateCount) :
    (tableOf symbols automaton).Expects symbols s := by
  have hactions := stateActions_eq_filter hsymbols hencodable hs
  constructor
  case mem_stateActions_iff =>
    intro terminal
    obtain ⟨state, hstate⟩ := exists_state hs
    -- of a terminal of the grammar the cell is there, and it decides
    rw [hactions, List.mem_filter, SymbolTable.mem_terminalIds]
    apply and_congr_right
    intro hterminal
    obtain ⟨action, haction, -⟩ := action?_eq_error_iff hsymbols hencodable hstate hterminal
    simp [haction]
  case increasing =>
    rw [hactions]
    exact (pairwise_terminalIds symbols).filter _
  case expected_eq => exact ⟨_, expected_eq_append hs⟩
  case length_expected_eq => exact length_expected hs
  case lookahead?_eq =>
    intro parser hparser position rest
    -- the padding behind the marks of a row is skipped
    have hmarked : (parser.table.expected s).filterMap id = parser.table.stateActions s := by
      rw [hparser, expected_eq_append hs, filterMap_padded]
    have hscan := recognizeFirst?_stateActions hsymbols hencodable hparser (hparser ▸ hs)
      (rest.dropWhile isBlank)
    simp only [Parser.lookahead?, hmarked, hscan]
    cases parser.scan? symbols s (rest.dropWhile isBlank) with
    | none => rfl
    | some found => rfl

/-- The width is that of the fullest row, and that row belongs to some state. -/
theorem exists_length_stateActions_eq (symbols : SymbolTable) (hne : automaton.states ≠ []) :
    ∃ s : StateId, s.index < (tableOf symbols automaton).stateCount ∧
      ((tableOf symbols automaton).stateActions s).length =
        (tableOf symbols automaton).maxActions := by
  have hrows : (rowsOf symbols 0 automaton.states).map Row.occupied ≠ [] := by
    simpa [rowsOf] using hne
  obtain ⟨occupied, hmem, hcount⟩ := exists_countP_eq_fullest hrows
  obtain ⟨i, hi, rfl⟩ := List.getElem_of_mem hmem
  have hlt : i < automaton.states.length := by simpa [length_rowsOf] using hi
  have hstate : automaton.state? ⟨i⟩ = some automaton.states[i] := List.getElem?_eq_getElem hlt
  -- the row is that of the state with its number
  have hrow : (rowsOf symbols 0 automaton.states)[i]? =
      some (rowOf symbols ⟨i⟩ automaton.states[i]) :=
    getElem?_rowsOf hstate
  obtain ⟨_, hget⟩ := List.getElem?_eq_some_iff.mp hrow
  rw [List.getElem_map, hget] at hcount
  refine ⟨⟨i⟩, by rwa [stateCount_tableOf], ?_⟩
  rw [length_stateActions, row_occupied_tableOf hstate]
  exact hcount

/-- **States expect what they have actions on**: in every state of an encoded table, the marked
terminals are those with an action, in declaration order, and no expected terminal is cut off. The
width of the expected terminals is not larger than some state needs. -/
theorem expects_exactly {grammar : Grammar} {errorOnConflicts : Bool} {table : ParseTable}
    (hsymbols : SymbolTable.ofGrammar grammar = .ok symbols)
    (htable : encode symbols automaton errorOnConflicts = .ok table) :
    (∀ s : StateId, s.index < table.stateCount → table.Expects symbols s) ∧
      ∃ s : StateId, s.index < table.stateCount ∧
        (table.stateActions s).length = table.maxActions := by
  have hwellFormed := SymbolTable.wellFormed_of_ofGrammar hsymbols
  obtain ⟨hencodable, rfl, -⟩ := (encode_eq_ok_iff hwellFormed).mp htable
  constructor
  · intro s hs
    exact expects_tableOf hwellFormed hencodable hs
  · exact exists_length_stateActions_eq symbols hencodable.has_state

/-- After a number only a semicolon is expected, and the place of a second terminal is padded. -/
theorem expects_exactly_statements :
    SymbolTable.ofGrammar Statements.grammar = .ok Statements.symbols ∧
    ∃ table, encode Statements.symbols Statements.automaton false = .ok table ∧
      table.Expects Statements.symbols ⟨2⟩ ∧ table.expected ⟨2⟩ = [some ⟨1⟩, none] := by
  have htable : encode Statements.symbols Statements.automaton false =
      .ok (tableOf Statements.symbols Statements.automaton) := rfl
  obtain ⟨hexpects, -⟩ := expects_exactly Statements.ofGrammar_grammar htable
  exact ⟨rfl, _, htable, hexpects ⟨2⟩ (by decide), by decide⟩

end ParseTable

end ParserFoundry
