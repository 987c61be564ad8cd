import ParserFoundry.Artifact.ParserFile
import ParserFoundry.Artifact.Reading
import ParserFoundry.Proofs.Code.Items
import ParserFoundry.Proofs.Code.Names
import ParserFoundry.Proofs.Generation.Blueprint
import ParserFoundry.Proofs.Productions
import ParserFoundry.Proofs.Table.Shape
/-!
# Tables Read Back

The constants and the tables of a parser file are those of its blueprint: readers find them in the
text of the file, cell by cell.
-/

namespace ParserFoundry.Artifact

open Code
open Code.Reading (isPlainName)

variable {blueprint : Blueprint}

/-! ## Tables are data -/

/-- A number within its type is data. -/
theorem isData_numbered {type : String} (htype : isPlainName type) (index : Nat) :
    IsData (numbered type index) :=
  .apply (by simpa using htype) (by simpa using .number index)

/-- So is the cell of an action. -/
theorem isData_actionCell (symbols : SymbolTable) (action : Action) :
    IsData (actionCell symbols action) := by
  -- the four kinds of actions are variants, with numbers and texts for arguments
  cases action with
  | shift target terminal =>
    refine .apply (by decide) ?_
    simp only [List.forall_mem_cons]
    exact ⟨isData_numbered (by decide) _, isData_numbered (by decide) _, nofun⟩
  | reduce production length nonterminal =>
    refine .apply (by decide) ?_
    simp only [List.forall_mem_cons]
    exact ⟨isData_numbered (by decide) _, .number _, isData_numbered (by decide) _, .text _, nofun⟩
  | accept => exact .names (by decide)
  | error => exact .names (by decide)

/-- And a cell that may be empty, if its content is. -/
theorem isData_optionCell {cell? : Option Expr} (h : ∀ cell ∈ cell?, IsData cell) :
    IsData (optionCell cell?) := by
  cases cell? with
  | none => exact .names (by decide)
  | some cell => exact .apply (by decide) (by simpa using h cell rfl)

theorem isData_stateRows {row : StateId → List Expr} (h : ∀ state, ∀ cell ∈ row state, IsData cell) :
    IsData (stateRows blueprint row) := by
  refine .array ?_
  simp only [List.mem_map]
  rintro _ ⟨state, -, rfl⟩
  -- the rows are arrays of the given cells
  exact .array (h state)

theorem isData_terminalInfo (index : Nat) (terminal : Terminal) :
    IsData (terminalInfo index terminal) := by
  refine @IsData.record "TerminalInfo" [("id", numbered "TermIndex" index),
    ("name", .text terminal.name), ("location", .name "None")] (by decide) nofun ?_ ?_
  · simp only [List.forall_mem_cons]
    exact ⟨by decide, by decide, by decide, nofun⟩
  · simp only [List.forall_mem_cons]
    exact ⟨isData_numbered (by decide) _, .text _, .names (by decide), nofun⟩

/-- The value of the parser's definition. -/
def parserTables (blueprint : Blueprint) : Expr :=
  .record (blueprint.typeName "ParserDefinition")
    [.mk "actions" (stateRows blueprint (actionRow blueprint)),
      .mk "gotos" (stateRows blueprint (gotoRow blueprint))]

/-- The value of the lexer's definition. -/
def lexerTables (blueprint : Blueprint) : Expr :=
  .record (blueprint.typeName "LexerDefinition")
    [.mk "terminals" (.array (blueprint.symbols.terminals.mapIdx terminalInfo)),
      .mk "terminals_for_state" (stateRows blueprint (expectedRow blueprint)),
      .mk "recognizers" (.array (blueprint.names.recognizers.map Expr.name))]

/-- The parser's definition is data: actions and gotos, row by row. -/
theorem isData_parserTables (hname : isPlainName (blueprint.typeName "ParserDefinition")) :
    IsData (parserTables blueprint) := by
  refine @IsData.record _ [("actions", _), ("gotos", _)] hname nofun ?_ ?_
  -- the names of the fields are fixed, and their values are rows of cells
  · simp only [List.forall_mem_cons]
    exact ⟨by decide, by decide, nofun⟩
  · simp only [List.forall_mem_cons]
    refine ⟨isData_stateRows fun state => ?_, isData_stateRows fun state => ?_, nofun⟩
    · simp only [actionRow, List.mem_map]
      rintro _ ⟨action, -, rfl⟩
      exact isData_actionCell _ action
    · simp only [gotoRow, List.mem_map]
      rintro _ ⟨target?, -, rfl⟩
      refine isData_optionCell fun cell hcell => ?_
      obtain ⟨target, -, rfl⟩ := Option.map_eq_some_iff.mp hcell
      exact isData_numbered (by decide) _

/-- So is the lexer's: terminals, what each state expects, and the names of recognizers. -/
theorem isData_lexerTables (hname : isPlainName (blueprint.typeName "LexerDefinition"))
    (hrecognizers : ∀ name ∈ blueprint.names.recognizers, isPlainName name) :
    IsData (lexerTables blueprint) := by
  refine @IsData.record _ [("terminals", _), ("terminals_for_state", _), ("recognizers", _)] hname
    nofun ?_ ?_
  · simp only [List.forall_mem_cons]
    exact ⟨by decide, by decide, by decide, nofun⟩
  · simp only [List.forall_mem_cons]
    refine ⟨.array ?_, isData_stateRows fun state => ?_, .array ?_, nofun⟩
    · simp only [List.mem_mapIdx]
      rintro _ ⟨i, hi, rfl⟩
      exact isData_terminalInfo i _
    · simp only [expectedRow, List.mem_map]
      rintro _ ⟨terminal?, -, rfl⟩
      refine isData_optionCell fun cell hcell => ?_
      obtain ⟨terminal, -, rfl⟩ := Option.map_eq_some_iff.mp hcell
      exact .number _
    · simp only [List.mem_map]
      rintro _ ⟨name, hmem, rfl⟩
      exact .names (by simpa using hrecognizers name hmem)

/-! ## Items of the file -/

/-- The function of a matcher is hidden and has the given name. -/
theorem exists_recognizerFunction (name : String) (matcher : Matcher) :
    ∃ definition : Code.Function, recognizerFunction name matcher = .function definition ∧
      definition.name = name ∧ definition.visibility = .hidden := by
  cases matcher <;> exact ⟨_, rfl, rfl, rfl⟩

/-- The functions that recognize the terminals. -/
def recognizerFunctions (blueprint : Blueprint) : List Item :=
  (blueprint.names.recognizers.zip blueprint.matchers).map fun (name, matcher) =>
    recognizerFunction name matcher

theorem mem_recognizerFunctions {item : Item} (h : item ∈ recognizerFunctions blueprint) :
    ∃ name ∈ blueprint.names.recognizers, ∃ matcher, item = recognizerFunction name matcher := by
  obtain ⟨⟨name, matcher⟩, hmem, rfl⟩ := List.mem_map.mp h
  exact ⟨name, (List.of_mem_zip hmem).1, matcher, rfl⟩

/-- Nothing is taken from those functions by what takes nothing from functions. -/
theorem filterMap_recognizerFunctions {α : Type} (part? : Item → Option α)
    (hfunction : ∀ definition, part? (.function definition) = none) :
    (recognizerFunctions blueprint).filterMap part? = [] := by
  refine List.filterMap_eq_nil_iff.mpr fun item hitem => ?_
  obtain ⟨name, -, matcher, rfl⟩ := mem_recognizerFunctions hitem
  obtain ⟨definition, hdefinition, -⟩ := exists_recognizerFunction name matcher
  rw [hdefinition, hfunction]

/-- The constants of the file are the sizes of its tables. -/
theorem constants_parserFile (blueprint : Blueprint) :
    (parserFile blueprint).filterMap Item.constant? =
      [("TERMINAL_NO", .number blueprint.symbols.terminals.length),
        ("NONTERMINAL_NO", .number blueprint.symbols.nonterminals.length),
        ("STATE_NO", .number blueprint.table.stateCount),
        ("MAX_ACTIONS", .number blueprint.table.maxActions)] := by
  -- no import and no function is a constant, so only the sizes are left
  have himports : (imports blueprint).filterMap Item.constant? = [] := by
    rw [imports]
    split <;> rfl
  rw [parserFile, lexerItems, ← recognizerFunctions]
  simp only [List.filterMap_append, himports,
    filterMap_recognizerFunctions Item.constant? fun _ => rfl]
  rfl

/-- The static values of the file are the two definitions. -/
theorem statics_parserFile (blueprint : Blueprint) :
    (parserFile blueprint).filterMap Item.static? =
      [("PARSER_DEFINITION", parserTables blueprint),
        ("LEXER_DEFINITION", lexerTables blueprint)] := by
  have himports : (imports blueprint).filterMap Item.static? = [] := by
    rw [imports]
    split <;> rfl
  rw [parserFile, lexerItems, ← recognizerFunctions]
  simp only [List.filterMap_append, himports,
    filterMap_recognizerFunctions Item.static? fun _ => rfl]
  rfl

/-- The functions of the file recognize the terminals. -/
theorem functions_parserFile (blueprint : Blueprint) :
    (parserFile blueprint).filter (fun item => item.functionName?.isSome) =
      recognizerFunctions blueprint := by
  have himports : (imports blueprint).filter (fun item => item.functionName?.isSome) = [] := by
    rw [imports]
    split <;> rfl
  have hfunctions : (recognizerFunctions blueprint).filter (fun item => item.functionName?.isSome) =
      recognizerFunctions blueprint := by
    refine List.filter_eq_self.mpr fun item hitem => ?_
    obtain ⟨name, -, matcher, rfl⟩ := mem_recognizerFunctions hitem
    -- the recognizers are functions, and hidden ones
    obtain ⟨definition, hdefinition, -, hhidden⟩ := exists_recognizerFunction name matcher
    simp [hdefinition, Item.functionName?, hhidden]
  rw [parserFile, lexerItems, ← recognizerFunctions]
  simp only [List.filter_append, himports, hfunctions]
  change [] ++ [] ++ [] ++ ([] ++ recognizerFunctions blueprint ++ []) ++ [] = _
  simp

/-- In a list of values with different keys, a value is the only one with its key. -/
theorem filter_key_eq_singleton {α β : Type} [DecidableEq β] {key : α → β} {values : List α}
    (hnodup : (values.map key).Nodup) {value : α} (hvalue : value ∈ values) :
    (values.filter fun other => key other = key value) = [value] := by
  -- along the list: the value is first, or among those with other keys
  induction values with
  | nil => cases hvalue
  | cons first rest ih =>
    obtain ⟨hfirst, hrest⟩ := List.nodup_cons.mp hnodup
    rcases List.mem_cons.mp hvalue with rfl | hmem
    · have hothers : (rest.filter fun other => key other = key value) = [] := by
        refine List.filter_eq_nil_iff.mpr fun other hother heq => ?_
        exact hfirst (List.mem_map.mpr ⟨other, hother, of_decide_eq_true heq⟩)
      simp [hothers]
    · have hne : key first ≠ key value := fun heq =>
        hfirst (List.mem_map.mpr ⟨value, hmem, heq.symm⟩)
      simp [hne, ih hrest hmem]

theorem functionName?_recognizerFunction (name : String) (matcher : Matcher) :
    (recognizerFunction name matcher).functionName? = some name := by
  obtain ⟨definition, hdefinition, rfl, hhidden⟩ := exists_recognizerFunction name matcher
  rw [hdefinition]
  exact if_pos hhidden

/-- The functions have the names of the recognizers. -/
theorem map_functionName?_recognizerFunctions
    (hlength : blueprint.names.recognizers.length ≤ blueprint.matchers.length) :
    (recognizerFunctions blueprint).map Item.functionName? = blueprint.names.recognizers.map some := by
  calc (recognizerFunctions blueprint).map Item.functionName?
      = ((blueprint.names.recognizers.zip blueprint.matchers).map Prod.fst).map some := by
        rw [recognizerFunctions, List.map_map, List.map_map]
        exact List.map_congr_left fun _ _ => functionName?_recognizerFunction _ _
    _ = blueprint.names.recognizers.map some := by rw [List.map_fst_zip hlength]

/-- A name of a function is the name of one item. -/
theorem filter_functionName? (hnodup : blueprint.names.recognizers.Nodup)
    (hlength : blueprint.names.recognizers.length ≤ blueprint.matchers.length) {name : String}
    {matcher : Matcher} (hitem : recognizerFunction name matcher ∈ recognizerFunctions blueprint) :
    (parserFile blueprint).filter (fun item => item.functionName? = some name) =
      [recognizerFunction name matcher] := by
  -- the functions are told apart by their names, as recognizers are
  have hkeys : ((recognizerFunctions blueprint).map Item.functionName?).Nodup := by
    rw [map_functionName?_recognizerFunctions hlength]
    exact hnodup.map fun _ _ => Option.some.inj
  have honly := filter_key_eq_singleton hkeys hitem
  rw [functionName?_recognizerFunction, ← functions_parserFile, List.filter_filter] at honly
  rw [← honly]
  refine List.filter_congr fun item _ => ?_
  cases item.functionName? <;> simp

/-- Readers understand all items of the file. -/
theorem readable_parserFile (hstem : ∀ ending ∈ ["ParserDefinition", "LexerDefinition"],
      isPlainName (blueprint.typeName ending))
    (hrecognizers : ∀ name ∈ blueprint.names.recognizers, isPlainName name) :
    ∀ item ∈ parserFile blueprint, item.Readable := by
  have hparser := hstem "ParserDefinition" (by decide)
  have hlexer := hstem "LexerDefinition" (by decide)
  -- section by section; only the names that were derived are not known beforehand
  have himports : ∀ item ∈ imports blueprint, item.Readable := by
    rw [imports]
    split <;> simp only [List.forall_mem_append, List.forall_mem_cons] <;> simp [Item.Readable]
  have hsize : ∀ name value, isPlainName name →
      (Item.constant name (.named "usize") (.number value)).Readable :=
    fun name value hname => ⟨hname, ⟨_, rfl, by decide⟩, .number value⟩
  have hsizes : ∀ item ∈ sizes blueprint, item.Readable := by
    rw [sizes]
    simp only [List.forall_mem_cons]
    exact ⟨hsize _ _ (by decide), hsize _ _ (by decide), hsize _ _ (by decide),
      hsize _ _ (by decide), nofun⟩
  have hparserItems : ∀ item ∈ parserItems blueprint, item.Readable := by
    rw [parserItems]
    simp only [List.forall_mem_cons]
    exact ⟨trivial, ⟨by decide, ⟨_, rfl, hparser⟩, isData_parserTables hparser⟩, trivial, trivial,
      trivial, trivial, nofun⟩
  have hfunctions : ∀ item ∈ recognizerFunctions blueprint, item.Readable := by
    intro item hitem
    obtain ⟨name, hname, matcher, rfl⟩ := mem_recognizerFunctions hitem
    obtain ⟨definition, hdefinition, rfl, -⟩ := exists_recognizerFunction name matcher
    rw [hdefinition]
    exact hrecognizers _ hname
  have hlexerItems : ∀ item ∈ lexerItems blueprint, item.Readable := by
    rw [lexerItems, ← recognizerFunctions]
    simp only [List.forall_mem_append, List.forall_mem_cons]
    exact ⟨⟨⟨trivial, ⟨by decide, ⟨_, rfl, hlexer⟩, isData_lexerTables hlexer hrecognizers⟩, nofun⟩,
      hfunctions⟩, trivial, trivial, trivial, trivial, nofun⟩
  have hbuilderItems : ∀ item ∈ builderItems blueprint, item.Readable := by
    rw [builderItems]
    simp only [List.forall_mem_cons]
    exact ⟨trivial, trivial, nofun⟩
  rw [parserFile]
  simp only [List.forall_mem_append]
  exact ⟨⟨⟨⟨himports, hsizes⟩, hparserItems⟩, hlexerItems⟩, hbuilderItems⟩

/-! ## Tables out of data -/

theorem array?_map {α β : Type} {f : α → Expr} {item? : Expr → Option β} {k : α → β}
    {values : List α} (h : ∀ value ∈ values, item? (f value) = some (k value)) :
    Reading.array? item? (.array (values.map f)) = some (values.map k) :=
  mapM_map_eq_some h

theorem array?_map_self {α : Type} {f : α → Expr} {item? : Expr → Option α}
    (h : ∀ value, item? (f value) = some value) (values : List α) :
    Reading.array? item? (.array (values.map f)) = some values := by
  have hvalues : Reading.array? item? (.array (values.map f)) = some (values.map id) :=
    array?_map fun value _ => h value
  rwa [List.map_id] at hvalues

/-- The production that is shown in the cell of a reduction. -/
def shownProduction (symbols : SymbolTable) : Action → Option String
  | .reduce production _ _ => some ((symbols.display? production).getD "")
  | _ => none

/-- An action is read back from its cell, with the production that the cell shows. -/
theorem action?_actionCell (symbols : SymbolTable) (action : Action) :
    Reading.action? (actionCell symbols action) = some (action, shownProduction symbols action) := by
  -- each cell is spelled out, so it is computed back
  cases action <;> rfl

/-- A cell that may be empty is read back. -/
theorem option?_optionCell {α : Type} {cell : α → Expr} {content? : Expr → Option α}
    (h : ∀ value, content? (cell value) = some value) (value? : Option α) :
    Reading.option? content? (optionCell (value?.map cell)) = some value? := by
  cases value? with
  | none => rfl
  | some value =>
    have hnames : Reading.names? (.names ["Some"]) = some ["Some"] := rfl
    simp [Reading.option?, optionCell, Expr.apply, hnames, h]

/-- The tables of a blueprint. -/
def tablesOf (blueprint : Blueprint) : Tables where
  actions := blueprint.table.stateIds.map fun state =>
    (blueprint.table.actions.row state.index).map fun action =>
      (action, shownProduction blueprint.symbols action)
  gotos := blueprint.table.stateIds.map fun state => blueprint.table.gotos.row state.index
  expected := blueprint.table.stateIds.map blueprint.table.expected
  terminals := blueprint.symbols.terminals.mapIdx fun i terminal => (⟨i⟩, terminal.name)
  recognizers := blueprint.names.recognizers

/-- The tables of a blueprint are read back from the two definitions. -/
theorem ofDefinitions?_tables (blueprint : Blueprint) :
    Tables.ofDefinitions? (parserTables blueprint) (lexerTables blueprint) =
      some (tablesOf blueprint) := by
  have hactions : Reading.array? (Reading.array? Reading.action?)
      (stateRows blueprint (actionRow blueprint)) = some (tablesOf blueprint).actions :=
    array?_map fun state _ => array?_map fun action _ => action?_actionCell _ action
  have hgotos : Reading.array? (Reading.array? (Reading.option? Reading.state?))
      (stateRows blueprint (gotoRow blueprint)) = some (tablesOf blueprint).gotos := by
    refine array?_map fun state _ => array?_map_self ?_ _
    exact option?_optionCell fun _ => rfl
  have hexpected : Reading.array? (Reading.array? (Reading.option? Reading.terminal?))
      (stateRows blueprint (expectedRow blueprint)) = some (tablesOf blueprint).expected := by
    refine array?_map fun state _ => array?_map_self ?_ _
    exact option?_optionCell fun _ => rfl
  have hterminals : Reading.array? Reading.terminalInfo?
      (.array (blueprint.symbols.terminals.mapIdx terminalInfo)) =
        some (tablesOf blueprint).terminals := by
    rw [tablesOf, List.mapIdx_eq_zipIdx_map, List.mapIdx_eq_zipIdx_map]
    exact array?_map fun _ _ => rfl
  have hrecognizers : Reading.array? Reading.function?
      (.array (blueprint.names.recognizers.map Expr.name)) =
        some (tablesOf blueprint).recognizers := by
    refine array?_map_self ?_ _
    exact fun _ => rfl
  -- each field is found under its name, whatever the other fields are
  have hparser : Reading.field? "actions" (parserTables blueprint) = some _ ∧
      Reading.field? "gotos" (parserTables blueprint) = some _ := ⟨rfl, rfl⟩
  have hlexer : Reading.field? "terminals_for_state" (lexerTables blueprint) = some _ ∧
      Reading.field? "terminals" (lexerTables blueprint) = some _ ∧
      Reading.field? "recognizers" (lexerTables blueprint) = some _ := ⟨rfl, rfl, rfl⟩
  simp only [Tables.ofDefinitions?, hparser, hlexer, hactions, hgotos, hexpected, hterminals,
    hrecognizers, Option.bind_eq_bind, Option.bind_some]
  rfl

/-! ## Cells of the tables -/

/-- What the cell of an action shows beside it: the production that it reduces, if it is a
reduction. -/
inductive Shown (symbols : SymbolTable) : Action → Option String → Prop
  | shift (target : StateId) (terminal : TerminalId) : Shown symbols (.shift target terminal) none
  | reduce {production : ProductionId} {text : String} (length : Nat)
      (nonterminal : NonterminalId) (h : symbols.display? production = some text) :
      Shown symbols (.reduce production length nonterminal) (some text)
  | accept : Shown symbols .accept none
  | error : Shown symbols .error none

/-- The tables are those of an automaton's table, row by row and cell by cell. -/
structure Tables.Shows (tables : Tables) (symbols : SymbolTable) (table : ParseTable) : Prop where
  length_actions : tables.actions.length = table.stateCount
  length_action_row : ∀ row ∈ tables.actions, row.length = symbols.terminals.length
  length_gotos : tables.gotos.length = table.stateCount
  length_goto_row : ∀ row ∈ tables.gotos, row.length = symbols.nonterminals.length
  length_expected : tables.expected.length = table.stateCount
  length_expected_row : ∀ row ∈ tables.expected, row.length = table.maxActions
  length_terminals : tables.terminals.length = symbols.terminals.length
  length_recognizers : tables.recognizers.length = symbols.terminals.length
  action_cell : ∀ (state : StateId) (terminal : TerminalId), state.index < table.stateCount →
    terminal.index < symbols.terminals.length →
    ∃ action shown, table.action? state terminal = some action ∧
      tables.action? state terminal = some (action, shown) ∧ Shown symbols action shown
  goto_cell : ∀ (state : StateId) (nonterminal : NonterminalId), state.index < table.stateCount →
    nonterminal.index < symbols.nonterminals.length →
    ∃ target?, table.goto? state nonterminal = some target? ∧
      tables.goto? state nonterminal = some target?
  expected_row : ∀ state : StateId, state.index < table.stateCount →
    tables.expected[state.index]? = some (table.expected state)
  terminal_entry : ∀ (id : TerminalId) (terminal : Terminal), symbols.terminal? id = some terminal →
    tables.terminals[id.index]? = some (id, terminal.name)

section Cells

variable {options : GenerationOptions} {grammar : Grammar} {automaton : Automaton}
variable {library : Library} (made : blueprint.MadeFrom options grammar automaton library)

include made

theorem table_eq_tableOf :
    blueprint.table = ParseTable.tableOf blueprint.symbols automaton :=
  ((ParseTable.encode_eq_ok_iff (SymbolTable.wellFormed_of_ofGrammar made.symbols_eq)).mp
    made.table_eq).2.1

theorem derivedFrom : blueprint.names.DerivedFrom blueprint.symbols :=
  NameTable.derivedFrom_of_ofSymbols made.names_eq

/-- A reduction in the table has the length and the nonterminal of its production. -/
theorem reduce_cell {state : StateId} {terminal : TerminalId} {production : ProductionId}
    {length : Nat} {nonterminal : NonterminalId}
    (hstate : state.index < blueprint.table.stateCount)
    (hterminal : terminal.index < blueprint.symbols.terminals.length)
    (haction : blueprint.table.action? state terminal =
      some (.reduce production length nonterminal)) :
    ∃ entry, blueprint.symbols.production? production = some entry ∧
      length = entry.rhs.length ∧ nonterminal = entry.nonterminal := by
  -- the parser on the same parts, of which only the table and the handlers matter
  have hparser : (⟨blueprint.table, blueprint.matchers, .ofSymbols blueprint.symbols⟩ :
      Parser).MadeFrom blueprint.symbols automaton options.errorOnConflicts :=
    ⟨made.table_eq, ⟨_, made.matchers_eq⟩, rfl⟩
  have hhas : automaton.HasState state := by
    rw [table_eq_tableOf made, ParseTable.stateCount_tableOf] at hstate
    exact ⟨automaton.states[state.index], List.getElem?_eq_getElem hstate⟩
  exact hparser.reduce_cell (SymbolTable.wellFormed_of_ofGrammar made.symbols_eq) hhas hterminal
    haction

/-- The production of a reduction can be shown. -/
theorem shown_shownProduction {state : StateId} {terminal : TerminalId} {action : Action}
    (hstate : state.index < blueprint.table.stateCount)
    (hterminal : terminal.index < blueprint.symbols.terminals.length)
    (haction : blueprint.table.action? state terminal = some action) :
    Shown blueprint.symbols action (shownProduction blueprint.symbols action) := by
  -- only reductions show something, and their production is one of the grammar
  cases action with
  | shift target shifted => exact .shift target shifted
  | accept => exact .accept
  | error => exact .error
  | reduce production length nonterminal =>
    obtain ⟨entry, hentry, -⟩ := reduce_cell made hstate hterminal haction
    obtain ⟨text, htext⟩ := SymbolTable.exists_display made.symbols_eq hentry
    have hshown := Shown.reduce length nonterminal htext
    rwa [shownProduction, htext, Option.getD_some]

/-- The tables of a blueprint are those of its automaton. -/
theorem shows_tablesOf : (tablesOf blueprint).Shows blueprint.symbols blueprint.table := by
  have htable := table_eq_tableOf made
  -- rows are cut out of the grids, so their widths are the numbers of symbols
  have hactions : ∀ state : StateId, state.index < blueprint.table.stateCount →
      (blueprint.table.actions.row state.index).length = blueprint.symbols.terminals.length := by
    rw [htable]
    exact fun _ => ParseTable.length_row_actions
  have hgotos : ∀ state : StateId, state.index < blueprint.table.stateCount →
      (blueprint.table.gotos.row state.index).length = blueprint.symbols.nonterminals.length := by
    rw [htable]
    exact fun _ => ParseTable.length_row_gotos
  have hexpected : ∀ state : StateId, state.index < blueprint.table.stateCount →
      (blueprint.table.expected state).length = blueprint.table.maxActions := by
    rw [htable]
    exact fun _ => ParseTable.length_expected
  have hactionCell : ∀ (state : StateId) (terminal : TerminalId),
      terminal.index < blueprint.symbols.terminals.length →
      (blueprint.table.actions.row state.index)[terminal.index]? =
        blueprint.table.action? state terminal := by
    rw [htable]
    exact fun state _ hterminal => Grid.getElem?_row _ _ hterminal
  have hgotoCell : ∀ (state : StateId) (nonterminal : NonterminalId),
      nonterminal.index < blueprint.symbols.nonterminals.length →
      (blueprint.table.gotos.row state.index)[nonterminal.index]? =
        blueprint.table.goto? state nonterminal := by
    rw [htable]
    exact fun state _ hnonterminal => Grid.getElem?_row _ _ hnonterminal
  constructor
  case length_actions => simp [tablesOf, ParseTable.stateIds]
  case length_gotos => simp [tablesOf, ParseTable.stateIds]
  case length_expected => simp [tablesOf, ParseTable.stateIds]
  case length_terminals => simp [tablesOf]
  case length_recognizers => exact (derivedFrom made).length_recognizers
  case length_action_row =>
    rintro _ hrow
    obtain ⟨state, hstate, rfl⟩ := List.mem_map.mp hrow
    rw [List.length_map, hactions state (ParseTable.mem_stateIds.mp hstate)]
  case length_goto_row =>
    rintro _ hrow
    obtain ⟨state, hstate, rfl⟩ := List.mem_map.mp hrow
    exact hgotos state (ParseTable.mem_stateIds.mp hstate)
  case length_expected_row =>
    rintro _ hrow
    obtain ⟨state, hstate, rfl⟩ := List.mem_map.mp hrow
    exact hexpected state (ParseTable.mem_stateIds.mp hstate)
  -- inside the row, the cell of the file is the one that the parser looks up
  case action_cell =>
    intro state terminal hstate hterminal
    have hlt : terminal.index < (blueprint.table.actions.row state.index).length :=
      hactions state hstate ▸ hterminal
    have haction := hactionCell state terminal hterminal
    rw [List.getElem?_eq_getElem hlt] at haction
    refine ⟨_, _, haction.symm, ?_, shown_shownProduction made hstate hterminal haction.symm⟩
    simp [Tables.action?, tablesOf, ParseTable.getElem?_stateIds hstate, hlt]
  case goto_cell =>
    intro state nonterminal hstate hnonterminal
    have hlt : nonterminal.index < (blueprint.table.gotos.row state.index).length :=
      hgotos state hstate ▸ hnonterminal
    have hgoto := hgotoCell state nonterminal hnonterminal
    rw [List.getElem?_eq_getElem hlt] at hgoto
    refine ⟨_, hgoto.symm, ?_⟩
    simp [Tables.goto?, tablesOf, ParseTable.getElem?_stateIds hstate, hlt]
  case expected_row =>
    intro state hstate
    simp [tablesOf, ParseTable.getElem?_stateIds hstate]
  case terminal_entry =>
    intro id terminal hterminal
    have hget : blueprint.symbols.terminals[id.index]? = some terminal := hterminal
    simp [tablesOf, hget]

end Cells

end ParserFoundry.Artifact
