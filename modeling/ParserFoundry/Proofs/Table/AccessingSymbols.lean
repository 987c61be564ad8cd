import ParserFoundry.Proofs.Table.Strictness
/-!
# Accessing Symbols

A state may record the name of the symbol on which it is entered. Encoding checks the record against
every shift and goto to the state, and does nothing else with it.

Main results:
- `encode_withoutSymbols`: records that are left out make a difference to the error only.
- `Enters.symbolName?_eq`: the cells that go to a state are on symbols of the recorded name.
- `entered_on_one_name`: a state with a record is entered on one symbol, up to a terminal and a
  nonterminal of the same name.
-/

namespace ParserFoundry

/-! ## Automata without records -/

/-- The state without its accessing symbol, if that is erased. -/
def State.withoutSymbol (state : State) (erase : Bool) : State :=
  { state with symbol? := if erase then none else state.symbol? }

/-- The automaton without the accessing symbols of the states that are `erased`. -/
def Automaton.withoutSymbols (automaton : Automaton) (erased : StateId → Bool) : Automaton :=
  automaton.mapStates fun s state => state.withoutSymbol (erased s)

/-- The table without the accessing symbols of the states that are `erased`. -/
def ParseTable.withoutSymbols (table : ParseTable) (erased : StateId → Bool) : ParseTable :=
  { table with
    stateSymbols := table.stateSymbols.mapIdx fun i symbol? =>
      if erased ⟨i⟩ then none else symbol? }

/-! ## Moves between states -/

/-- A shift or a goto on the symbol to `target` is recorded. -/
def State.MovesOn (state : State) (symbol : String) (target : StateId) : Prop :=
  .shift target ∈ state.recorded symbol ∨ (symbol, target) ∈ state.gotos

/-- `source` records a shift or a goto on `symbol` to `target`, and `target` records that it is
entered on another symbol. -/
def Automaton.Misenters (automaton : Automaton) (source : StateId) (symbol : String)
    (target : StateId) : Prop :=
  ∃ state reached entered, automaton.state? source = some state ∧ state.MovesOn symbol target ∧
    automaton.state? target = some reached ∧ reached.symbol? = some entered ∧ entered ≠ symbol

/-- The error for a transition to a state that records another accessing symbol. -/
def Automaton.Misentry (automaton : Automaton) (cause : EncodingError) : Prop :=
  ∃ source symbol target, automaton.Misenters source symbol target ∧
    cause = .inconsistentTransition source symbol target

section Records

variable {symbols : SymbolTable} {automaton : Automaton} {erased : StateId → Bool} {state : State}
  {s source target : StateId} {name : String}

/-- A valid state moves to states that may be entered. -/
theorem State.Valid.entersOn (hvalid : state.Valid symbols automaton)
    (hmoves : state.MovesOn name target) : automaton.EntersOn target name := by
  rcases hmoves with hshift | hgoto
  · exact ParseTable.valid_of_mem_recorded hvalid hshift
  · exact hvalid.gotos_enter _ hgoto

/-- An automaton that can be encoded has no transition to a state that records another symbol. -/
theorem Automaton.Encodable.not_misenters (hencodable : automaton.Encodable symbols) :
    ¬ automaton.Misenters source name target := by
  rintro ⟨state, reached, entered, hstate, hmoves, hreached, hsymbol, hother⟩
  obtain ⟨found, hfound, hentered⟩ := (ParseTable.state_valid hencodable hstate).entersOn hmoves
  cases hfound.symm.trans hreached
  exact hother (hentered entered hsymbol)

namespace ParseTable

/-! ## Encoding without records -/

/-- A transition is checked in the same way without the records, unless it goes against one. -/
theorem checkTransition_withoutSymbols (hstate : automaton.state? source = some state)
    (hmoves : state.MovesOn name target) :
    EqualUnless automaton.Misentry (checkTransition automaton source name target)
      (checkTransition (automaton.withoutSymbols erased) source name target) := by
  simp only [checkTransition, Automaton.withoutSymbols, Automaton.state?_mapStates]
  cases hreached : automaton.state? target with
  | none => exact .refl _
  | some reached =>
    simp only [Option.map_some, State.withoutSymbol]
    -- only a record can make the checks differ
    cases hsymbol : reached.symbol? with
    | none =>
      rw [ite_self]
      exact .refl _
    | some entered =>
      by_cases hentered : entered = name
      · -- the record is right, and may as well be missing
        simp only [hentered, if_true]
        cases erased target with
        | true => exact .refl _
        | false =>
          simp only [Bool.false_eq_true, if_false, if_true]
          exact .refl _
      · have hmisenters : automaton.Misenters source name target :=
          ⟨state, reached, entered, hstate, hmoves, hreached, hsymbol, hentered⟩
        simp only [hentered, if_false]
        exact .of_error ⟨source, name, target, hmisenters, rfl⟩ _

theorem encodeState_withoutSymbols (hstate : automaton.state? s = some state) :
    EqualUnless automaton.Misentry (encodeState symbols automaton s state)
      (encodeState symbols (automaton.withoutSymbols erased) s
        (state.withoutSymbol (erased s))) := by
  -- all entries and all gotos are kept
  have hactions : (state.withoutSymbol (erased s)).actions =
      state.actions.map fun entry => (entry.1, entry.2.filter fun _ => true) := by
    simp [State.withoutSymbol]
  have hgotos : (state.withoutSymbol (erased s)).gotos = state.gotos.filter fun _ => true := by
    simp [State.withoutSymbol]
  refine encodeState_equalUnless ?_ ?_
  · rw [hactions]
    refine encodeEntries_equalUnless ?_ nofun
    intro entry hentry move hmove _ terminal
    cases move with
    | shift target =>
      have hmoves : state.MovesOn entry.1 target := .inl (State.mem_recorded hentry hmove)
      exact (checkTransition_withoutSymbols hstate hmoves).bind fun _ => .refl _
    | reduce reference => exact .refl _
    | accept => exact .refl _
  · rw [hgotos]
    refine encodeGotos_equalUnless ?_ nofun
    intro goto hgoto _
    exact checkTransition_withoutSymbols hstate (.inr hgoto)

theorem map_symbol?_withoutSymbols (automaton : Automaton) (erased : StateId → Bool) :
    (automaton.withoutSymbols erased).states.map State.symbol? =
      (automaton.states.map State.symbol?).mapIdx fun i symbol? =>
        if erased ⟨i⟩ then none else symbol? := by
  refine List.ext_getElem (by simp [Automaton.withoutSymbols, Automaton.mapStates]) ?_
  intro i hi hi'
  simp [Automaton.withoutSymbols, Automaton.mapStates, State.withoutSymbol]

/-- Without some of its records, an automaton gets the same table without these records, unless it
is rejected for a transition that goes against one. -/
theorem encode_withoutSymbols (symbols : SymbolTable) (automaton : Automaton)
    (errorOnConflicts : Bool) (erased : StateId → Bool) :
    EqualUnless automaton.Misentry
      ((encode symbols automaton errorOnConflicts).map fun table => table.withoutSymbols erased)
      (encode symbols (automaton.withoutSymbols erased) errorOnConflicts) := by
  have hencode : EqualUnless automaton.Misentry
      ((encode symbols automaton errorOnConflicts).map fun table =>
        { table with stateSymbols := (automaton.withoutSymbols erased).states.map State.symbol? })
      (encode symbols (automaton.withoutSymbols erased) errorOnConflicts) :=
    encode_equalUnless errorOnConflicts fun _ _ hstate => encodeState_withoutSymbols hstate
  rw [map_symbol?_withoutSymbols] at hencode
  -- with the error of the record there is no table; otherwise its symbols are those recorded
  cases htable : encode symbols automaton errorOnConflicts with
  | error cause =>
    rw [htable] at hencode
    exact hencode
  | ok table =>
    rw [htable, ← stateSymbols_of_encode htable] at hencode
    exact hencode

/-! ## Entered states -/

/-- Some cell of the table goes to the state on the symbol. -/
inductive Enters (table : ParseTable) (symbols : SymbolTable) (target : StateId) :
    Symbol → Prop where
  | shift {terminal : TerminalId} :
      .shift target terminal ∈ table.actions.cells →
      Enters table symbols target (.terminal terminal)
  | goto {source : StateId} {nonterminal : NonterminalId} :
      symbols.Numbers (.nonterminal nonterminal) →
      table.goto? source nonterminal = some (some target) →
      Enters table symbols target (.nonterminal nonterminal)

variable {errorOnConflicts : Bool} {table : ParseTable} {X Y : Symbol} {entered : String}

/-- What enters a state has been recorded by one of the states. -/
theorem Enters.exists_movesOn (hsymbols : symbols.WellFormed)
    (hencodable : automaton.Encodable symbols)
    (h : (tableOf symbols automaton).Enters symbols target X) :
    ∃ source state name, automaton.state? source = some state ∧ symbols.symbolName? X = some name ∧
      state.MovesOn name target := by
  cases h with
  | shift hcell =>
    -- the cell stands for a recorded move, and only a shift stands for a shift
    rcases mem_cells_actions hsymbols hencodable hcell with herror |
      ⟨source, state, _, name, move, hstate, hname, hmove, hencodes⟩
    · cases herror
    · cases hencodes
      exact ⟨source, state, name, hstate, hname, .inl hmove⟩
  | goto hnumbered hgoto =>
    obtain ⟨name, hname⟩ := SymbolTable.exists_nonterminalName hnumbered
    obtain ⟨state, hstate, hmem⟩ := exists_goto_of_goto? hname hgoto
    exact ⟨_, state, name, hstate, hname, .inr hmem⟩

/-- A state with a record is entered on symbols of the recorded name. -/
theorem Enters.symbolName?_eq (hsymbols : symbols.WellFormed)
    (htable : encode symbols automaton errorOnConflicts = .ok table)
    (hentered : table.stateSymbol? target = some (some entered))
    (h : table.Enters symbols target X) : symbols.symbolName? X = some entered := by
  obtain ⟨hencodable, rfl, -⟩ := (encode_eq_ok_iff hsymbols).mp htable
  obtain ⟨source, state, name, hstate, hname, hmoves⟩ := h.exists_movesOn hsymbols hencodable
  -- the name that was recorded with the move is the one that the target records
  obtain ⟨reached, hreached, hagrees⟩ := (state_valid hencodable hstate).entersOn hmoves
  have hrecord : (automaton.state? target).map State.symbol? = some (some entered) := by
    rw [← hentered, Automaton.state?, ← List.getElem?_map]
    rfl
  rw [hreached] at hrecord
  rw [hname, hagrees entered (Option.some.inj hrecord)]

/-- Symbols of one name are the same, or a terminal and a nonterminal. -/
theorem eq_or_shared_of_symbolName? (hsymbols : symbols.WellFormed)
    (hX : symbols.symbolName? X = some name) (hY : symbols.symbolName? Y = some name) :
    X = Y ∨ ∃ terminal nonterminal, symbols.terminalName? terminal = some name ∧
      symbols.nonterminalName? nonterminal = some name ∧
      (X = .terminal terminal ∧ Y = .nonterminal nonterminal ∨
        X = .nonterminal nonterminal ∧ Y = .terminal terminal) := by
  -- within a class, a name has one number
  cases X with
  | terminal first =>
    cases Y with
    | terminal second =>
      have hfirst := (SymbolTable.terminalId?_eq_some_iff hsymbols).mpr hX
      have hsecond := (SymbolTable.terminalId?_eq_some_iff hsymbols).mpr hY
      exact .inl (congrArg Symbol.terminal (Option.some.inj (hfirst.symm.trans hsecond)))
    | nonterminal second => exact .inr ⟨first, second, hX, hY, .inl ⟨rfl, rfl⟩⟩
  | nonterminal first =>
    cases Y with
    | terminal second => exact .inr ⟨second, first, hY, hX, .inr ⟨rfl, rfl⟩⟩
    | nonterminal second =>
      have hfirst := (SymbolTable.nonterminalId?_eq_some_iff hsymbols).mpr hX
      have hsecond := (SymbolTable.nonterminalId?_eq_some_iff hsymbols).mpr hY
      exact .inl (congrArg Symbol.nonterminal (Option.some.inj (hfirst.symm.trans hsecond)))

/-- **One name for each state.** If a state of an accepted table records its accessing symbol, all
shifts and gotos to it are on symbols of that name, so they are on one symbol, or else on a terminal
and a nonterminal that share the name. An automaton with a transition to a state that records
another name is rejected: for such a transition, or for what it would be rejected for without any
record. -/
theorem entered_on_one_name {grammar : Grammar}
    (hsymbols : SymbolTable.ofGrammar grammar = .ok symbols) (automaton : Automaton)
    (errorOnConflicts : Bool) :
    (∀ table, encode symbols automaton errorOnConflicts = .ok table →
      ∀ target entered, table.stateSymbol? target = some (some entered) →
        (∀ X, table.Enters symbols target X → symbols.symbolName? X = some entered) ∧
        ∀ X Y, table.Enters symbols target X → table.Enters symbols target Y →
          X = Y ∨ ∃ terminal nonterminal, symbols.terminalName? terminal = some entered ∧
            symbols.nonterminalName? nonterminal = some entered ∧
            (X = .terminal terminal ∧ Y = .nonterminal nonterminal ∨
              X = .nonterminal nonterminal ∧ Y = .terminal terminal)) ∧
    ∀ source symbol target, automaton.Misenters source symbol target →
      (∃ source' symbol' target', automaton.Misenters source' symbol' target' ∧
        encode symbols automaton errorOnConflicts =
          .error (.inconsistentTransition source' symbol' target')) ∨
      ∃ cause, encode symbols automaton errorOnConflicts = .error cause ∧
        encode symbols (automaton.withoutSymbols fun _ => true) false = .error cause := by
  have hwellFormed := SymbolTable.wellFormed_of_ofGrammar hsymbols
  constructor
  -- the names are known from the cells, and names tell symbols apart within a class
  · intro table htable target entered hentered
    have hname : ∀ X, table.Enters symbols target X → symbols.symbolName? X = some entered :=
      fun X hX => hX.symbolName?_eq hwellFormed htable hentered
    exact ⟨hname, fun X Y hX hY =>
      eq_or_shared_of_symbolName? hwellFormed (hname X hX) (hname Y hY)⟩
  · intro source symbol target hmisenters
    -- the automaton is not accepted, and the other errors do not depend on what is recorded
    have hrejected : ∀ table, encode symbols automaton false ≠ .ok table := by
      intro table htable
      exact ((encode_eq_ok_iff hwellFormed).mp htable).1.not_misenters hmisenters
    have hcauses : ∀ cause, encode symbols automaton false = .error cause →
        automaton.Misentry cause ∨
          encode symbols (automaton.withoutSymbols fun _ => true) false = .error cause := by
      intro cause hcause
      have hequal := encode_withoutSymbols symbols automaton false fun _ => true
      rw [hcause] at hequal
      exact hequal.eq_error rfl
    rcases rejected_of_causes hcauses hrejected errorOnConflicts with
      ⟨_, ⟨source', symbol', target', hmisenters', rfl⟩, herror⟩ | hother
    · exact .inl ⟨source', symbol', target', hmisenters', herror⟩
    · exact .inr hother

end ParseTable

end Records

namespace Statements

/-- The automaton of statements, but the semicolon behind a number leads to the state that follows
a statement. -/
def misled : Automaton where
  states := automaton.states.set 2 { symbol? := some "Num", actions := [(";", [.shift ⟨3⟩])] }

end Statements

namespace ParseTable

/-- The state after a number is entered on numbers only. When the semicolon behind a number leads to
the state that is entered on a statement, this is the error. -/
theorem entered_on_one_name_statements :
    SymbolTable.ofGrammar Statements.grammar = .ok Statements.symbols ∧
    (∃ table, encode Statements.symbols Statements.automaton true = .ok table ∧
      table.stateSymbol? ⟨2⟩ = some (some "Num") ∧
      table.Enters Statements.symbols ⟨2⟩ (.terminal ⟨2⟩) ∧
      ∀ X, table.Enters Statements.symbols ⟨2⟩ X → X = .terminal ⟨2⟩) ∧
    Statements.misled.Misenters ⟨2⟩ ";" ⟨3⟩ ∧
    ∃ source symbol target, Statements.misled.Misenters source symbol target ∧
      encode Statements.symbols Statements.misled true =
        .error (.inconsistentTransition source symbol target) := by
  have hnamed := entered_on_one_name Statements.ofGrammar_grammar
  have hshift : (tableOf Statements.symbols Statements.automaton).Enters Statements.symbols ⟨2⟩
      (.terminal ⟨2⟩) := .shift (by decide)
  have hmisenters : Statements.misled.Misenters ⟨2⟩ ";" ⟨3⟩ :=
    ⟨_, _, "Stmt", rfl, .inl (by decide), rfl, rfl, by decide⟩
  refine ⟨rfl, ⟨_, rfl, rfl, hshift, ?_⟩, hmisenters, ?_⟩
  · intro X hX
    rcases ((hnamed Statements.automaton true).1 _ rfl ⟨2⟩ "Num" rfl).2 X _ hX hshift with hsame |
      ⟨terminal, nonterminal, -, hshared, -⟩
    · exact hsame
    · exact absurd (List.mem_of_getElem? hshared) (by decide)
  · rcases (hnamed Statements.misled true).2 _ _ _ hmisenters with hfound | ⟨cause, -, hother⟩
    · exact hfound
    · cases hother

end ParseTable

/-! ## Names that are shared -/

namespace SharedName

/-- A terminal and a nonterminal of the same name, and one more terminal. -/
def grammar : Grammar where
  terminals := [⟨"x", .literal "x"⟩, ⟨"y", .literal "y"⟩]
  nonterminals := [⟨"x", [⟨[.terminal "x"]⟩]⟩]

def symbols : SymbolTable where
  terminals := grammar.terminals
  nonterminals := ["x"]
  productions := [⟨⟨0⟩, 0, [.terminal ⟨0⟩]⟩]
  augmentedStart? := none

/-- The terminal and the nonterminal lead to the same state. -/
def automaton : Automaton where
  states := [
    { actions := [("x", [.shift ⟨1⟩])]
      gotos := [("x", ⟨1⟩)] },
    { symbol? := some "x" }]

/-- Two terminals lead to the same state, and an entry in front of them is not for a terminal. -/
def masked : Automaton where
  states := [
    { actions := [("z", []), ("x", [.shift ⟨1⟩]), ("y", [.shift ⟨1⟩])] },
    { symbol? := some "x" }]

end SharedName

namespace ParseTable

/-- A state that records an accessing symbol is entered on a terminal and on a nonterminal, and an
automaton whose state is entered on two terminals is rejected for something else. -/
theorem entered_on_two_symbols :
    SymbolTable.ofGrammar SharedName.grammar = .ok SharedName.symbols ∧
    (∃ table, encode SharedName.symbols SharedName.automaton true = .ok table ∧
      table.stateSymbol? ⟨1⟩ = some (some "x") ∧
      table.Enters SharedName.symbols ⟨1⟩ (.terminal ⟨0⟩) ∧
      table.Enters SharedName.symbols ⟨1⟩ (.nonterminal ⟨0⟩)) ∧
    SharedName.masked.Misenters ⟨0⟩ "y" ⟨1⟩ ∧
    encode SharedName.symbols SharedName.masked true = .error (.unknownSymbol "z") := by
  have hshift : (tableOf SharedName.symbols SharedName.automaton).Enters SharedName.symbols ⟨1⟩
      (.terminal ⟨0⟩) := .shift (by decide)
  have hgoto : (tableOf SharedName.symbols SharedName.automaton).goto? ⟨0⟩ ⟨0⟩ = some (some ⟨1⟩) :=
    rfl
  have hmisenters : SharedName.masked.Misenters ⟨0⟩ "y" ⟨1⟩ :=
    ⟨_, _, "x", rfl, .inl (by decide), rfl, rfl, by decide⟩
  exact ⟨rfl, ⟨_, rfl, rfl, hshift, .goto Nat.zero_lt_one hgoto⟩, hmisenters, rfl⟩

end ParseTable

end ParserFoundry
