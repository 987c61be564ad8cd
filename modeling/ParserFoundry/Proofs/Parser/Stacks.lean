import ParserFoundry.Proofs.Parser.Safety
import ParserFoundry.Proofs.Table.AccessingSymbols
/-!
# Stacks of Runs

A parser cuts and grows its states and its values apart from each other, by lengths from different
tables. Whatever the automaton is, the states stay one more than the values, each state above the
start stands on the value with whose symbol it has been entered, and whatever the next move looks up
is there. All that may be missing is a state to go back to, a goto, or a value of the right shape.

Main results:
- `ParseTable.Path.exists_transition`: which value a state stands on.
- `Parser.Aligned`: the invariant of the runs.
- `Parser.EquippedFor`: what the moves look up.
- `Parser.parse_aligned`: both hold in every run.
-/

namespace ParserFoundry

/-! ## Places on a path -/

namespace ParseTable

variable {table : ParseTable} {symbols : SymbolTable} {states : List StateId} {labels : List Symbol}

/-- A path has one state more than it has labels. -/
theorem Path.length_eq (h : table.Path symbols states labels) :
    states.length = labels.length + 1 := by
  induction h with
  | start => rfl
  | step _ _ ih => rw [List.length_cons, ih, List.length_cons]

/-- A path starts at the start state, which is the last one of the list. -/
theorem Path.getLast?_eq (h : table.Path symbols states labels) :
    states.getLast? = some ⟨0⟩ := by
  induction h with
  | start => rfl
  | step _ _ ih => rw [List.getLast?_cons_cons, ih]

/-- From the end, each label is that of the transition to the state at its place. -/
theorem Path.exists_transition (h : table.Path symbols states labels) {i : Nat} {s : StateId}
    {X : Symbol} (hstate : states[i]? = some s) (hlabel : labels[i]? = some X) :
    ∃ source, table.Transition symbols source X s := by
  induction h generalizing i with
  | start => cases hlabel
  | step _ htransition ih =>
    cases i with
    | zero =>
      cases hstate
      cases hlabel
      exact ⟨_, htransition⟩
    | succ i => exact ih hstate hlabel

/-- A transition is one of the moves that enter its target. -/
theorem Transition.enters {source target : StateId} {X : Symbol}
    (h : table.Transition symbols source X target) : table.Enters symbols target X := by
  cases h with
  | shift _ haction => exact .shift (List.mem_of_getElem? haction)
  | goto hnumbers hgoto => exact .goto hnumbers hgoto

end ParseTable

namespace Parser

variable {parser : Parser} {symbols : SymbolTable} {automaton : Automaton}
variable {errorOnConflicts : Bool} {before after : Configuration} {event : ParseEvent}

/-! ## The invariant -/

/-- The two stacks of a configuration belong together, and the lookahead to what has been read. Both
stacks are listed with the latest entry first, so their places are counted from the other end. -/
structure Aligned (parser : Parser) (symbols : SymbolTable) (configuration : Configuration) :
    Prop where
  starts : configuration.states.getLast? = some ⟨0⟩
  states_lt : ∀ s ∈ configuration.states, s.index < parser.table.stateCount
  length_eq : configuration.states.length = configuration.values.length + 1
  lookahead_numbered : symbols.Numbers (.terminal configuration.lookahead.terminal)
  position_le : configuration.position ≤ configuration.lookahead.start
  /-- A state with a recorded accessing symbol stands on a value of the symbol. -/
  accessed : ∀ i s value entered, configuration.states.reverse[i + 1]? = some s →
    configuration.values.reverse[i]? = some value →
    parser.table.stateSymbol? s = some (some entered) →
    symbols.symbolName? value.symbol = some entered

/-- What the moves preserve: a sound configuration, whose states are a path labelled with the
symbols of the values, and a lookahead that is not behind what has been read. -/
structure OnPath (parser : Parser) (symbols : SymbolTable) (automaton : Automaton)
    (configuration : Configuration) : Prop where
  sound : Sound symbols automaton configuration
  path : parser.table.Path symbols configuration.states
    (configuration.values.map ParseTree.symbol)
  position_le : configuration.position ≤ configuration.lookahead.start

theorem position_le_of_lookahead? {state : StateId} {position : Nat} {input : List Char}
    {ahead : Lookahead} (h : parser.lookahead? state position input = some ahead) :
    position ≤ ahead.start := by
  rw [(lookahead?_eq_some h).2.start_eq]
  exact Nat.le_add_right ..

theorem onPath_begin (hsymbols : symbols.WellFormed)
    (made : parser.MadeFrom symbols automaton errorOnConflicts) {input : List Char}
    {ahead : Lookahead} (hahead : parser.lookahead? ⟨0⟩ 0 input = some ahead) :
    parser.OnPath symbols automaton ⟨[⟨0⟩], [], 0, ahead⟩ where
  sound := sound_begin hsymbols made hahead
  path := .start
  position_le := Nat.zero_le _

theorem OnPath.step (hsymbols : symbols.WellFormed)
    (made : parser.MadeFrom symbols automaton errorOnConflicts)
    (onPath : parser.OnPath symbols automaton before) (h : parser.Step before event after) :
    parser.OnPath symbols automaton after := by
  -- the step of the grammar behind the move keeps the first two
  have hgrammar := onPath.sound.grammarStep hsymbols made h
  constructor
  case sound => exact hgrammar.sound hsymbols made onPath.sound
  case path => exact hgrammar.path hsymbols onPath.sound.lookahead_numbered onPath.path
  case position_le =>
    -- a shift reads on from the end of its token, and a reduction reads nothing
    cases h with
    | shift _ _ _ _ hahead => exact position_le_of_lookahead? hahead
    | reduce => exact onPath.position_le

theorem OnPath.length_eq (onPath : parser.OnPath symbols automaton before) :
    before.states.length = before.values.length + 1 := by
  rw [onPath.path.length_eq, List.length_map]

theorem OnPath.aligned (hsymbols : symbols.WellFormed)
    (made : parser.MadeFrom symbols automaton errorOnConflicts)
    (onPath : parser.OnPath symbols automaton before) : parser.Aligned symbols before := by
  constructor
  case starts => exact onPath.path.getLast?_eq
  case states_lt =>
    exact fun s hs => (canRead_of_hasState hsymbols made (onPath.sound.states_exist s hs)).has_row
  case length_eq => exact onPath.length_eq
  case lookahead_numbered => exact onPath.sound.lookahead_numbered
  case position_le => exact onPath.position_le
  case accessed =>
    intro i s value entered hstate hvalue hentered
    have hlength := onPath.length_eq
    have hi : i < before.values.length := by
      simpa using (List.getElem?_eq_some_iff.mp hvalue).1
    -- counted from the latest entries, the state and the value have the same place
    rw [List.getElem?_reverse (by omega)] at hstate hvalue
    have hplace : before.states.length - 1 - (i + 1) = before.values.length - 1 - i := by omega
    rw [hplace] at hstate
    have hlabel : (before.values.map ParseTree.symbol)[before.values.length - 1 - i]? =
        some value.symbol := by
      rw [List.getElem?_map, hvalue, Option.map_some]
    obtain ⟨source, htransition⟩ := onPath.path.exists_transition hstate hlabel
    exact htransition.enters.symbolName?_eq hsymbols made.table_eq hentered

/-! ## What moves look up -/

/-- Whatever the next move looks up is there. -/
structure EquippedFor (parser : Parser) (configuration : Configuration) : Prop where
  action : ∃ state below action, configuration.states = state :: below ∧
    parser.table.action? state configuration.lookahead.terminal = some action
  shift : ∀ {state below target terminal}, configuration.states = state :: below →
    parser.table.action? state configuration.lookahead.terminal =
      some (.shift target terminal) →
    (∃ handler, parser.handlers.shift? terminal = some handler) ∧ parser.CanRead target
  /-- The handler of a reduction takes as many values as are popped, and hands on as many as its
  action takes. If a state is left behind those that are popped, it has a cell for the goto, and
  there are as many values as are popped. -/
  reduce : ∀ {state below production length nonterminal}, configuration.states = state :: below →
    parser.table.action? state configuration.lookahead.terminal =
      some (.reduce production length nonterminal) →
    ∃ handler, parser.handlers.reduce? production = some handler ∧ handler.arity = length ∧
      ∀ source deeper, configuration.states.drop length = source :: deeper →
        (∃ target?, parser.table.goto? source nonterminal = some target?) ∧
        length ≤ configuration.values.length ∧
        (handler.arguments (configuration.values.take length).reverse).length =
          handler.argumentCount

theorem OnPath.equippedFor (hsymbols : symbols.WellFormed)
    (made : parser.MadeFrom symbols automaton errorOnConflicts)
    (onPath : parser.OnPath symbols automaton before) : parser.EquippedFor before := by
  have hterminal := onPath.sound.lookahead_numbered
  have hexists : ∀ {state below}, before.states = state :: below → automaton.HasState state :=
    fun {state below} hstates => onPath.sound.states_exist state (by simp [hstates])
  constructor
  case action =>
    obtain ⟨state, below, hstates⟩ := onPath.path.exists_cons
    obtain ⟨action, haction⟩ := made.exists_action? hsymbols (hexists hstates) hterminal
    exact ⟨state, below, action, hstates, haction⟩
  case shift =>
    intro state below target terminal hstates haction
    obtain ⟨rfl, htarget⟩ := made.shift_cell hsymbols (hexists hstates) hterminal haction
    exact ⟨⟨_, made.shift?_eq hterminal⟩, canRead_of_hasState hsymbols made htarget⟩
  case reduce =>
    intro state below production length nonterminal hstates haction
    obtain ⟨entry, hentry, rfl, rfl⟩ :=
      made.reduce_cell hsymbols (hexists hstates) hterminal haction
    refine ⟨_, made.reduce?_eq hentry, by simp [ReduceHandler.arity], ?_⟩
    intro source deeper hdrop
    have hkept : source ∈ before.states.drop entry.rhs.length := hdrop ▸ List.mem_cons_self
    have hsource := onPath.sound.states_exist source (List.mem_of_mem_drop hkept)
    -- a state is left, so fewer states than there are have been popped
    have hlength : entry.rhs.length ≤ before.values.length := by
      have hleft := congrArg List.length hdrop
      rw [List.length_drop, onPath.length_eq, List.length_cons] at hleft
      omega
    refine ⟨made.exists_goto? hsymbols hsource (hsymbols.numbers_nonterminal hentry), hlength, ?_⟩
    exact ReduceHandler.length_arguments (by simp [ReduceHandler.arity, hlength])

/-- Going back among the states looks up one goto. -/
theorem ne_of_reduceStates_eq_error {states : List StateId} {length : Nat}
    {nonterminal : NonterminalId} {fault : ParseFault}
    (hgoto : ∀ source deeper, states.drop length = source :: deeper →
      ∃ target?, parser.table.goto? source nonterminal = some target?)
    (h : parser.reduceStates states length nonterminal = .error fault) :
    fault ≠ .missingEntry ∧ fault ≠ .arityMismatch := by
  simp only [reduceStates] at h
  split at h
  -- fewer states than are popped: an underflow
  · cases h
    simp
  · split at h
    · cases h
      simp
    · rename_i source deeper hdrop
      obtain ⟨target?, hcell⟩ := hgoto source deeper hdrop
      rw [hcell] at h
      cases target? with
      -- the cell is there but empty: a goto that is missing
      | none =>
        cases h
        simp
      | some target => cases h

/-- Popping the values looks up one handler. -/
theorem ne_of_reduceValues_eq_error {values : List ParseTree} {production : ProductionId}
    {handler : ReduceHandler} {fault : ParseFault}
    (hhandler : parser.handlers.reduce? production = some handler)
    (h : parser.reduceValues values production handler.arity = .error fault) :
    fault ≠ .missingEntry ∧ fault ≠ .arityMismatch := by
  simp only [reduceValues, hhandler, ne_eq, not_true_eq_false, if_false] at h
  split at h
  · cases h
    simp
  · split at h
    · cases h
    · cases h
      simp

/-- Where the parser is equipped for a move, the move does not fail for want of an entry, nor for a
handler that takes another number of values. -/
theorem EquippedFor.ne_of_step_failed (equipped : parser.EquippedFor before) {fault : ParseFault}
    (h : parser.step before = .done (.failed fault)) :
    fault ≠ .missingEntry ∧ fault ≠ .arityMismatch := by
  obtain ⟨state, below, action, hstates, haction⟩ := equipped.action
  simp only [Parser.step, hstates, haction] at h
  cases action with
  | error => cases h
  | accept =>
    simp only [accept] at h
    split at h
    · cases h
    · cases h
      simp
  | shift target terminal =>
    obtain ⟨⟨handler, hhandler⟩, -⟩ := equipped.shift hstates haction
    simp only [Parser.shift, hhandler] at h
    cases hsplit : splitBytes? before.lookahead.length before.lookahead.rest with
    | none =>
      rw [hsplit] at h
      cases h
      simp
    | some parts =>
      rw [hsplit] at h
      exact absurd h (readToken_ne_failed fault)
  | reduce production length nonterminal =>
    obtain ⟨handler, hhandler, rfl, hleft⟩ := equipped.reduce hstates haction
    -- the states are reduced first, and the values only if that leads somewhere
    simp only [Parser.reduce] at h
    split at h
    · rename_i cause hcause
      cases h
      exact ne_of_reduceStates_eq_error (fun source deeper hdrop => (hleft source deeper hdrop).1)
        hcause
    · split at h
      · rename_i cause hcause
        cases h
        exact ne_of_reduceValues_eq_error hhandler hcause
      · cases h

/-! ## Runs of any automaton -/

theorem Reaches.onPath (hsymbols : symbols.WellFormed)
    (made : parser.MadeFrom symbols automaton errorOnConflicts) {input : List Char}
    {events : List ParseEvent} {configuration : Configuration}
    (h : parser.Reaches input events configuration) :
    parser.OnPath symbols automaton configuration :=
  h.preserved (I := fun _ => parser.OnPath symbols automaton)
    (fun _ hahead => onPath_begin hsymbols made hahead)
    fun _ _ _ _ onPath hstep => onPath.step hsymbols made hstep

/-- **The stacks of every run belong together.** On a parser made for any automaton that is
accepted, every configuration that an input leads to has the start state at the bottom and states of
the table only, one state more than values, and a lookahead at a numbered terminal that starts where
or after the input has been read; and a state that records its accessing symbol stands on a value of
it. So whatever is looked up is there, handlers take the values that are popped and hand on as many
as they say, and there are enough values whenever there are enough states. No run fails for want of
an entry or for the number of values. -/
theorem parse_aligned {grammar : Grammar} (hsymbols : SymbolTable.ofGrammar grammar = .ok symbols)
    (made : parser.MadeFrom symbols automaton errorOnConflicts) (input : String) :
    (∀ events configuration, parser.Reaches input.toList events configuration →
      parser.Aligned symbols configuration ∧ parser.EquippedFor configuration) ∧
    parser.CanRead ⟨0⟩ ∧
    ∀ moves, parser.parse moves input ≠ .failed .missingEntry ∧
      parser.parse moves input ≠ .failed .arityMismatch := by
  have hwellFormed := SymbolTable.wellFormed_of_ofGrammar hsymbols
  refine ⟨?_, canRead_of_hasState hwellFormed made (made.hasState_start hwellFormed), ?_⟩
  · intro events configuration hreaches
    have onPath := hreaches.onPath hwellFormed made
    exact ⟨onPath.aligned hwellFormed made, onPath.equippedFor hwellFormed made⟩
  · intro moves
    have hfaults : ∀ fault, parser.parse moves input = .failed fault →
        fault ≠ .missingEntry ∧ fault ≠ .arityMismatch := by
      intro fault hfailed
      -- a run that fails has come to a configuration whose move fails
      rcases parser.parse_reaches moves input with
        ⟨-, hrejected, -⟩ | ⟨made', last, hreaches, ⟨hunfinished, -⟩ | ⟨hdone, -⟩⟩
      · rw [hfailed] at hrejected
        cases hrejected
      · rw [hfailed] at hunfinished
        cases hunfinished
      · rw [hfailed] at hdone
        exact ((hreaches.onPath hwellFormed made).equippedFor hwellFormed made).ne_of_step_failed
          hdone
    exact ⟨fun hfailed => (hfaults _ hfailed).1 rfl, fun hfailed => (hfaults _ hfailed).2 rfl⟩

end Parser

/-! ## A parser that goes back too far

An automaton that reduces two symbols behind a semicolon, where only one has been read. -/

namespace Semicolons

def hastyAutomaton : Automaton where
  states := [
    { actions := [(";", [.shift ⟨1⟩])] },
    { symbol? := some ";"
      actions := [("EOF", [.reduce ⟨"List", 0⟩]), (";", [.reduce ⟨"List", 0⟩])] }]

def hastyParser : Parser where
  table := ParseTable.tableOf symbols hastyAutomaton
  matchers := [.endOfInput, .literal ";"]
  handlers := .ofSymbols symbols

theorem hastyParser_madeFrom : hastyParser.MadeFrom symbols hastyAutomaton true where
  table_eq := rfl
  exists_compiler := ⟨Pattern.Program.ofPattern, rfl⟩
  handlers_eq := rfl

end Semicolons

/-- The stacks belong together until the states run out. The semicolon is the value that the state
entered on a semicolon stands on. -/
theorem Parser.parse_aligned_hasty :
    SymbolTable.ofGrammar Semicolons.grammar = .ok Semicolons.symbols ∧
    Semicolons.hastyParser.MadeFrom Semicolons.symbols Semicolons.hastyAutomaton true ∧
    Semicolons.hastyParser.parse 2 ";" = .failed .stackUnderflow ∧
    ∃ events configuration,
      Semicolons.hastyParser.Reaches ";".toList events configuration ∧
      Semicolons.hastyParser.step configuration = .done (.failed .stackUnderflow) ∧
      configuration.states = [⟨1⟩, ⟨0⟩] ∧
      configuration.states.length = configuration.values.length + 1 ∧
      ∀ value, configuration.values.reverse[0]? = some value →
        Semicolons.symbols.symbolName? value.symbol = some ";" := by
  have hreaches : Semicolons.hastyParser.Reaches ";".toList _ _ :=
    .step (.start rfl) (.shift rfl rfl rfl rfl rfl)
  obtain ⟨aligned, -⟩ := (parse_aligned Semicolons.ofGrammar_grammar
    Semicolons.hastyParser_madeFrom ";").1 _ _ hreaches
  exact ⟨rfl, Semicolons.hastyParser_madeFrom, rfl, _, _, hreaches, rfl, rfl, aligned.length_eq,
    fun value hvalue => aligned.accessed 0 ⟨1⟩ value ";" rfl hvalue rfl⟩

end ParserFoundry
