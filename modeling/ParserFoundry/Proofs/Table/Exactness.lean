import Mathlib.Data.List.Induction
import ParserFoundry.Proofs.Table.Encoding
/-!
# Tables Hold What Automata Record

The cells of an encoded table, read back through their offsets, against the entries and gotos that
the automaton records for them.

Main results:
- `Grid.get?_ofRows`: a cell of a grid is the cell of its row.
- `candidates_actionsOf`: the candidates of a cell are the distinct moves recorded for it.
- `represents_of_encode`: an encoded table represents its automaton.
- `encode_exact`: the automata that are accepted, and the cells that they get.
-/

namespace ParserFoundry

/-! ## Reading grids -/

namespace Grid

variable {α : Type}

/-- A cell of a grid of equally wide rows is the cell of its row. -/
theorem get?_ofRows {width : Nat} {rows : List (List α)} (hrows : ∀ row ∈ rows, row.length = width)
    (i : Nat) {j : Nat} (hj : j < width) :
    (ofRows width rows).get? i j = rows[i]?.bind fun row => row[j]? := by
  simp only [get?, ofRows]
  -- each row in front of the cell's row takes `width` off the offset
  induction rows generalizing i with
  | nil => simp
  | cons row rest ih =>
    have hrow : row.length = width := hrows row (List.mem_cons_self ..)
    cases i with
    | zero => simp [List.getElem?_append_left (hrow ▸ hj : j < row.length)]
    | succ i =>
      have hoffset : (i + 1) * width + j - row.length = i * width + j := by
        rw [hrow, Nat.succ_mul]
        omega
      rw [List.flatten_cons, List.getElem?_append_right (by rw [hrow, Nat.succ_mul]; omega),
        hoffset, ih (fun row hmem => hrows row (List.mem_cons_of_mem _ hmem)),
        List.getElem?_cons_succ]

end Grid

/-! ## Distinct candidates -/

section Distinct

variable {α β : Type} [DecidableEq α] [DecidableEq β]

theorem eraseDups_concat (values : List α) (last : α) :
    (values ++ [last]).eraseDups =
      if last ∈ values then values.eraseDups else values.eraseDups ++ [last] := by
  by_cases hlast : last ∈ values
  · simp [List.eraseDups_append, List.removeAll, hlast]
  · simp [List.eraseDups_append, List.removeAll, hlast, List.eraseDups_cons]

/-- Keeping what is not kept yet, from the front, keeps the first of equal values. -/
theorem foldl_distinct (values : List α) :
    values.foldl (fun distinct value => if value ∈ distinct then distinct else distinct ++ [value])
      [] = values.eraseDups := by
  -- from the back, because the fold adds its values there
  induction values using List.reverseRecOn with
  | nil => rfl
  | append_singleton values last ih =>
    rw [List.foldl_append, ih, eraseDups_concat]
    simp

theorem nodup_eraseDups (values : List α) : values.eraseDups.Nodup := by
  induction values using List.reverseRecOn with
  | nil => exact List.nodup_nil
  | append_singleton values last ih =>
    rw [eraseDups_concat]
    split
    · exact ih
    · rename_i hlast
      refine List.nodup_append.mpr ⟨ih, List.nodup_singleton last, ?_⟩
      rintro value hvalue other hother rfl
      rw [List.mem_singleton.mp hother, List.mem_eraseDups] at hvalue
      exact hlast hvalue

theorem head?_eraseDups (values : List α) : values.eraseDups.head? = values.head? := by
  cases values with
  | nil => rfl
  | cons first rest => rw [List.eraseDups_cons]; rfl

theorem eraseDups_take_one (values : List α) :
    (values.take 1).eraseDups = values.eraseDups.take 1 := by
  cases values with
  | nil => rfl
  | cons first rest => simp [List.eraseDups_cons]

/-- A map that tells the values apart keeps the repeated ones repeated, and no others. -/
theorem eraseDups_map {f : α → β} {values : List α}
    (hf : ∀ first ∈ values, ∀ second ∈ values, f first = f second → first = second) :
    (values.map f).eraseDups = values.eraseDups.map f := by
  induction values using List.reverseRecOn with
  | nil => rfl
  | append_singleton values last ih =>
    have hvalues := ih fun first hfirst second hsecond =>
      hf first (List.mem_append_left _ hfirst) second (List.mem_append_left _ hsecond)
    -- whether the last value is a repeat can be seen from its image
    have hlast : f last ∈ values.map f ↔ last ∈ values := by
      refine ⟨fun hmem => ?_, List.mem_map_of_mem⟩
      obtain ⟨value, hvalue, heq⟩ := List.mem_map.mp hmem
      have hsame : value = last :=
        hf value (List.mem_append_left _ hvalue) last (List.mem_append_right _ (by simp)) heq
      exact hsame ▸ hvalue
    rw [List.map_append, List.map_singleton, eraseDups_concat, eraseDups_concat, hvalues]
    by_cases hmem : last ∈ values
    · rw [if_pos (hlast.mpr hmem), if_pos hmem]
    · rw [if_neg (hmem ∘ hlast.mp), if_neg hmem, List.map_append, List.map_singleton]

end Distinct

namespace ParseTable

variable {symbols : SymbolTable} {automaton : Automaton} {name : String} {state : State}
  {s : StateId} {terminal : TerminalId} {nonterminal : NonterminalId}

/-! ## Candidates of a cell -/

/-- Of the actions of all entries, those for a terminal are the actions of what is recorded for it. -/
theorem filter_actionsOf (hsymbols : symbols.WellFormed)
    (hname : symbols.terminalName? terminal = some name) (entries : List (String × List Move)) :
    ((symbols.actionsOf entries).filter fun entry => entry.1 = terminal).map Prod.snd =
      ((entries.filter fun entry => entry.1 = name).flatMap Prod.snd).map
        (symbols.actionOf terminal) := by
  induction entries with
  | nil => rfl
  | cons entry rest ih =>
    -- an entry of another name has another number, and adds nothing
    have hsplit : symbols.actionsOf (entry :: rest) =
        symbols.actionsOf [entry] ++ symbols.actionsOf rest := by
      simp [SymbolTable.actionsOf]
    rw [hsplit, List.filter_append, List.map_append, ih]
    by_cases hentry : entry.1 = name
    · have hid := (SymbolTable.terminalId?_eq_some_iff hsymbols).mpr hname
      simp [SymbolTable.actionsOf, hentry, hid, List.filter_map, Function.comp_def]
    · have hother : ∀ other, symbols.terminalId? entry.1 = some other → other ≠ terminal := by
        rintro other hother rfl
        exact hentry (Option.some.inj
          ((SymbolTable.terminalName?_of_terminalId? hother).symm.trans hname))
      have hnone : (symbols.actionsOf [entry]).filter (fun entry => entry.1 = terminal) = [] := by
        cases hid : symbols.terminalId? entry.1 with
        | none => simp [SymbolTable.actionsOf, hid]
        | some other => simp [SymbolTable.actionsOf, hid, hother other hid]
      simp [hentry, hnone]

theorem valid_of_mem_recorded (hvalid : state.Valid symbols automaton) {move : Move}
    (hmove : move ∈ state.recorded name) : move.Valid symbols automaton name := by
  obtain ⟨entry, hentry, hmem⟩ := List.mem_flatMap.mp hmove
  obtain ⟨hentry, hname⟩ := List.mem_filter.mp hentry
  have hsame : entry.1 = name := by simpa using hname
  exact hsame ▸ hvalid.moves_valid entry hentry move hmem

/-- The candidates of a cell are the distinct moves recorded for it, in recording order. -/
theorem candidates_actionsOf (hsymbols : symbols.WellFormed)
    (hvalid : state.Valid symbols automaton) (hname : symbols.terminalName? terminal = some name) :
    candidates (symbols.actionsOf state.actions) terminal =
      (state.recorded name).eraseDups.map (symbols.actionOf terminal) := by
  rw [candidates, foldl_distinct, filter_actionsOf hsymbols hname]
  -- repeats are dropped after encoding; encoding tells moves apart, so it could be done before
  refine eraseDups_map fun first hfirst second hsecond => ?_
  exact SymbolTable.actionOf_injective hsymbols (valid_of_mem_recorded hvalid hfirst)
    (valid_of_mem_recorded hvalid hsecond)

/-! ## Cells -/

/-- The cells of a table are what an automaton records for them. -/
structure Represents (table : ParseTable) (symbols : SymbolTable) (automaton : Automaton) :
    Prop where
  stateCount_eq : table.stateCount = automaton.stateCount
  action_unrecorded : ∀ {s state terminal name}, automaton.state? s = some state →
    symbols.terminalName? terminal = some name → state.recorded name = [] →
    table.action? s terminal = some .error
  action_recorded : ∀ {s state terminal name first later}, automaton.state? s = some state →
    symbols.terminalName? terminal = some name → state.recorded name = first :: later →
    ∃ action, symbols.Encodes terminal first action ∧ table.action? s terminal = some action
  goto_recorded : ∀ {s state nonterminal name target}, automaton.state? s = some state →
    symbols.nonterminalName? nonterminal = some name → (name, target) ∈ state.gotos →
    table.goto? s nonterminal = some (some target)
  goto_unrecorded : ∀ {s state nonterminal name}, automaton.state? s = some state →
    symbols.nonterminalName? nonterminal = some name → (∀ target, (name, target) ∉ state.gotos) →
    table.goto? s nonterminal = some none

/-- Rows stand in the order of the states. -/
theorem getElem?_rowsOf_eq (s : StateId) :
    (rowsOf symbols 0 automaton.states)[s.index]? =
      (automaton.state? s).map (rowOf symbols s) := by
  simp [rowsOf, List.getElem?_zipIdx, Automaton.state?, Function.comp_def]

theorem getElem?_rowsOf (hstate : automaton.state? s = some state) :
    (rowsOf symbols 0 automaton.states)[s.index]? = some (rowOf symbols s state) := by
  rw [getElem?_rowsOf_eq, hstate, Option.map_some]

theorem terminal_lt_of_name (hname : symbols.terminalName? terminal = some name) :
    terminal.index < symbols.terminals.length := by
  obtain ⟨found, hfound, -⟩ := Option.map_eq_some_iff.mp hname
  exact (List.getElem?_eq_some_iff.mp hfound).1

theorem nonterminal_lt_of_name (hname : symbols.nonterminalName? nonterminal = some name) :
    nonterminal.index < symbols.nonterminals.length :=
  (List.getElem?_eq_some_iff.mp hname).1

/-- The action cell of a state and a terminal holds the first candidate. -/
theorem action?_tableOf (hstate : automaton.state? s = some state)
    (hname : symbols.terminalName? terminal = some name) :
    (tableOf symbols automaton).action? s terminal =
      some ((candidates (symbols.actionsOf state.actions) terminal).head?.getD .error) := by
  have hlt := terminal_lt_of_name hname
  -- rows have one cell for each terminal, so a cell is found by its row and its column
  have hrows : ∀ row ∈ (rowsOf symbols 0 automaton.states).map Row.actions,
      row.length = symbols.terminals.length := by
    simp only [rowsOf, List.map_map, List.mem_map]
    rintro _ ⟨_, -, rfl⟩
    simp [rowOf, SymbolTable.terminalIds]
  simp only [action?, tableOf, ofRows, Grid.get?_ofRows hrows s.index hlt, List.getElem?_map,
    getElem?_rowsOf hstate, Option.map_some, Option.bind_some]
  simp [rowOf, SymbolTable.terminalIds, hlt]

/-- The gotos of a nonterminal stand in the rows of the states: those of a state show its first goto
on the nonterminal. -/
theorem goto?_tableOf_eq (s : StateId) (hname : symbols.nonterminalName? nonterminal = some name) :
    (tableOf symbols automaton).goto? s nonterminal =
      (automaton.state? s).map fun state =>
        ((symbols.gotosOf state.gotos).find? fun goto => goto.1 = nonterminal).map Prod.snd := by
  have hlt := nonterminal_lt_of_name hname
  have hrows : ∀ row ∈ (rowsOf symbols 0 automaton.states).map Row.gotos,
      row.length = symbols.nonterminals.length := by
    simp only [rowsOf, List.map_map, List.mem_map]
    rintro _ ⟨_, -, rfl⟩
    simp [rowOf, SymbolTable.nonterminalIds]
  simp only [goto?, tableOf, ofRows, Grid.get?_ofRows hrows s.index hlt, List.getElem?_map,
    getElem?_rowsOf_eq]
  cases automaton.state? s with
  | none => rfl
  | some state => simp [rowOf, SymbolTable.nonterminalIds, hlt]

/-- The goto cell of a state and a nonterminal holds the first goto on it. -/
theorem goto?_tableOf (hstate : automaton.state? s = some state)
    (hname : symbols.nonterminalName? nonterminal = some name) :
    (tableOf symbols automaton).goto? s nonterminal =
      some (((symbols.gotosOf state.gotos).find? fun goto => goto.1 = nonterminal).map Prod.snd) := by
  rw [goto?_tableOf_eq s hname, hstate, Option.map_some]

/-- A filled goto cell has been recorded, by an existing state. -/
theorem exists_goto_of_goto? {target : StateId}
    (hname : symbols.nonterminalName? nonterminal = some name)
    (hgoto : (tableOf symbols automaton).goto? s nonterminal = some (some target)) :
    ∃ state, automaton.state? s = some state ∧ (name, target) ∈ state.gotos := by
  rw [goto?_tableOf_eq s hname] at hgoto
  obtain ⟨state, hstate, hfirst⟩ := Option.map_eq_some_iff.mp hgoto
  obtain ⟨⟨other, _⟩, hfind, rfl⟩ := Option.map_eq_some_iff.mp hfirst
  obtain rfl : other = nonterminal := by simpa using List.find?_some hfind
  obtain ⟨name', hmem, hname'⟩ := mem_gotosOf_iff.mp (List.mem_of_find?_eq_some hfind)
  obtain rfl : name' = name :=
    Option.some.inj ((SymbolTable.nonterminalName?_of_nonterminalId? hname').symm.trans hname)
  exact ⟨state, hstate, hmem⟩

theorem state_valid (hencodable : automaton.Encodable symbols)
    (hstate : automaton.state? s = some state) : state.Valid symbols automaton :=
  hencodable.states_valid state (List.mem_of_getElem? hstate)

theorem represents_tableOf (hsymbols : symbols.WellFormed)
    (hencodable : automaton.Encodable symbols) :
    (tableOf symbols automaton).Represents symbols automaton := by
  constructor
  case stateCount_eq => simp [stateCount, tableOf, ofRows, Automaton.stateCount]
  case action_unrecorded =>
    intro s state terminal name hstate hname hrecorded
    rw [action?_tableOf hstate hname,
      candidates_actionsOf hsymbols (state_valid hencodable hstate) hname, hrecorded]
    rfl
  case action_recorded =>
    intro s state terminal name first later hstate hname hrecorded
    have hvalid := state_valid hencodable hstate
    have hfirst : first.Valid symbols automaton name :=
      valid_of_mem_recorded hvalid (by simp [hrecorded])
    refine ⟨symbols.actionOf terminal first, SymbolTable.encodes_actionOf hsymbols hfirst, ?_⟩
    rw [action?_tableOf hstate hname, candidates_actionsOf hsymbols hvalid hname, List.head?_map,
      head?_eraseDups, hrecorded]
    rfl
  case goto_recorded =>
    intro s state nonterminal name target hstate hname hgoto
    have hvalid := state_valid hencodable hstate
    rw [goto?_tableOf hstate hname]
    have hid := (SymbolTable.nonterminalId?_eq_some_iff hsymbols).mpr hname
    have hmem : (nonterminal, target) ∈ symbols.gotosOf state.gotos :=
      mem_gotosOf_iff.mpr ⟨name, hgoto, hid⟩
    cases hfind : (symbols.gotosOf state.gotos).find? fun goto => goto.1 = nonterminal with
    | none => exact absurd (List.find?_eq_none.mp hfind _ hmem) (by simp)
    | some found =>
      obtain ⟨other, target'⟩ := found
      obtain rfl : other = nonterminal := by simpa using List.find?_some hfind
      -- any goto on the nonterminal has the same target
      obtain ⟨name', hgoto', hname'⟩ := mem_gotosOf_iff.mp (List.mem_of_find?_eq_some hfind)
      have hsame : name' = name := Option.some.inj
        ((SymbolTable.nonterminalName?_of_nonterminalId? hname').symm.trans hname)
      have htarget := hvalid.gotos_agree _ hgoto' _ hgoto hsame
      simpa using htarget
  case goto_unrecorded =>
    intro s state nonterminal name hstate hname hgotos
    rw [goto?_tableOf hstate hname]
    -- a goto on the nonterminal would have been recorded under its name
    have hnone : ((symbols.gotosOf state.gotos).find? fun goto => goto.1 = nonterminal) = none := by
      refine List.find?_eq_none.mpr ?_
      rintro ⟨other, target⟩ hmem hother
      obtain rfl : other = nonterminal := by simpa using hother
      obtain ⟨name', hgoto, hname'⟩ := mem_gotosOf_iff.mp hmem
      have hsame : name' = name := Option.some.inj
        ((SymbolTable.nonterminalName?_of_nonterminalId? hname').symm.trans hname)
      exact hgotos target (hsame ▸ hgoto)
    rw [hnone]
    rfl

/-- An encoded table represents its automaton, whether or not conflicts are an error. -/
theorem represents_of_encode (hsymbols : symbols.WellFormed) {errorOnConflicts : Bool}
    {table : ParseTable} (h : encode symbols automaton errorOnConflicts = .ok table) :
    table.Represents symbols automaton := by
  obtain ⟨hencodable, rfl, -⟩ := (encode_eq_ok_iff hsymbols).mp h
  exact represents_tableOf hsymbols hencodable

/-- Equal records make equal action cells: nothing else of an automaton reaches them. -/
theorem Represents.action?_eq (hsymbols : symbols.WellFormed) {other : Automaton}
    {table otherTable : ParseTable} (h : table.Represents symbols automaton)
    (h' : otherTable.Represents symbols other) {s s' : StateId} {state state' : State}
    (hstate : automaton.state? s = some state) (hstate' : other.state? s' = some state')
    (hname : symbols.terminalName? terminal = some name)
    (hrecorded : state.recorded name = state'.recorded name) :
    table.action? s terminal = otherTable.action? s' terminal := by
  -- without a record the cells are empty; otherwise the first move fills both
  cases hmoves : state.recorded name with
  | nil =>
    rw [h.action_unrecorded hstate hname hmoves,
      h'.action_unrecorded hstate' hname (hrecorded ▸ hmoves)]
  | cons first later =>
    obtain ⟨action, hencodes, haction⟩ := h.action_recorded hstate hname hmoves
    obtain ⟨action', hencodes', haction'⟩ :=
      h'.action_recorded hstate' hname (hrecorded ▸ hmoves)
    rw [haction, haction', hencodes.eq_actionOf hsymbols, hencodes'.eq_actionOf hsymbols]

/-- Equal gotos on a nonterminal make equal goto cells. -/
theorem Represents.goto?_eq {other : Automaton} {table otherTable : ParseTable}
    (h : table.Represents symbols automaton) (h' : otherTable.Represents symbols other)
    {s s' : StateId} {state state' : State}
    (hstate : automaton.state? s = some state) (hstate' : other.state? s' = some state')
    (hname : symbols.nonterminalName? nonterminal = some name)
    (hgotos : ∀ target, (name, target) ∈ state.gotos ↔ (name, target) ∈ state'.gotos) :
    table.goto? s nonterminal = otherTable.goto? s' nonterminal := by
  -- the cells show the target if there is one, and nothing else
  by_cases hrecorded : ∃ target, (name, target) ∈ state.gotos
  · obtain ⟨target, hgoto⟩ := hrecorded
    rw [h.goto_recorded hstate hname hgoto,
      h'.goto_recorded hstate' hname ((hgotos target).mp hgoto)]
  · have hnone : ∀ target, (name, target) ∉ state.gotos := fun target hgoto =>
      hrecorded ⟨target, hgoto⟩
    rw [h.goto_unrecorded hstate hname hnone, h'.goto_unrecorded hstate' hname fun target =>
      (hgotos target).not.mp (hnone target)]

/-- **Encoding is exact.** The automata that are accepted are those that can be encoded. An accepted
automaton gets a table that represents it: an action cell is what the first move recorded for it
stands for, and a goto cell what is recorded for it. A cell depends on nothing else: two automata
that record the same for a terminal or a nonterminal get the same cell for it. -/
theorem encode_exact {grammar : Grammar} (hsymbols : SymbolTable.ofGrammar grammar = .ok symbols)
    (automaton : Automaton) :
    ((∃ table, encode symbols automaton false = .ok table) ↔ automaton.Encodable symbols) ∧
    ∀ table, encode symbols automaton false = .ok table →
      table.Represents symbols automaton ∧
      ∀ other otherTable, encode symbols other false = .ok otherTable →
        ∀ s s' state state', automaton.state? s = some state → other.state? s' = some state' →
          (∀ terminal name, symbols.terminalName? terminal = some name →
            state.recorded name = state'.recorded name →
            table.action? s terminal = otherTable.action? s' terminal) ∧
          (∀ nonterminal name, symbols.nonterminalName? nonterminal = some name →
            (∀ target, (name, target) ∈ state.gotos ↔ (name, target) ∈ state'.gotos) →
            table.goto? s nonterminal = otherTable.goto? s' nonterminal) := by
  have hwellFormed := SymbolTable.wellFormed_of_ofGrammar hsymbols
  refine ⟨⟨?_, ?_⟩, ?_⟩
  · rintro ⟨table, h⟩
    exact ((encode_eq_ok_iff hwellFormed).mp h).1
  · intro hencodable
    exact ⟨tableOf symbols automaton,
      (encode_eq_ok_iff hwellFormed).mpr ⟨hencodable, rfl, fun h => absurd h (by simp)⟩⟩
  · intro table h
    have hrepresents := represents_of_encode hwellFormed h
    refine ⟨hrepresents, ?_⟩
    -- a cell is determined by what is recorded for it, whatever else the automata hold
    intro other otherTable h' s s' state state' hstate hstate'
    have hrepresents' := represents_of_encode hwellFormed h'
    refine ⟨?_, ?_⟩
    · intro terminal name hname hrecorded
      exact hrepresents.action?_eq hwellFormed hrepresents' hstate hstate' hname hrecorded
    · intro nonterminal name hname hgotos
      exact hrepresents.goto?_eq hrepresents' hstate hstate' hname hgotos

/-- The automaton of statements can be encoded, and its table represents it. Where all that it
records for other terminals is left out, the cells of numbers stay as they are. -/
theorem encode_exact_statements :
    SymbolTable.ofGrammar Statements.grammar = .ok Statements.symbols ∧
    Statements.automaton.Encodable Statements.symbols ∧
    ∃ table otherTable,
      encode Statements.symbols Statements.automaton false = .ok table ∧
      encode Statements.symbols Statements.onNumbers false = .ok otherTable ∧
      table.Represents Statements.symbols Statements.automaton ∧
      table.action? ⟨1⟩ ⟨2⟩ = otherTable.action? ⟨1⟩ ⟨2⟩ := by
  have hexact := encode_exact Statements.ofGrammar_grammar Statements.automaton
  obtain ⟨hrepresents, hlocal⟩ := hexact.2 _ rfl
  have hcells := (hlocal Statements.onNumbers _ rfl ⟨1⟩ ⟨1⟩ _ _ rfl rfl).1 ⟨2⟩ "Num" rfl rfl
  exact ⟨rfl, hexact.1.mp ⟨_, rfl⟩, _, _, rfl, rfl, hrepresents, hcells⟩

end ParseTable

end ParserFoundry
