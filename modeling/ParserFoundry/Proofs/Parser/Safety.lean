import ParserFoundry.Proofs.Parser.Soundness
/-!
# Safety of Runs

When the paths of a table agree with its reductions, no move of the parser fails. The states and
the values are kept on separate stacks, and the shapes of values come from the handlers; what ties
them together is that the states are always a path of transitions from the start, labelled with the
symbols of the values.

Main results:
- `ParseTable.Path`, `ParseTable.Coherent`: paths, and tables whose reductions can be made on them.
- `Parser.Safe`: the invariant of the runs.
- `Parser.parse_safe`: runs do not fail.
-/

namespace ParserFoundry

/-! ## Paths -/

namespace ParseTable

/-- A move of the table between states, on a terminal that is shifted or a nonterminal that has
been reduced to. -/
inductive Transition (table : ParseTable) (symbols : SymbolTable) :
    StateId → Symbol → StateId → Prop where
  | shift {source target : StateId} {terminal : TerminalId} :
      symbols.Numbers (.terminal terminal) →
      table.action? source terminal = some (.shift target terminal) →
      Transition table symbols source (.terminal terminal) target
  | goto {source target : StateId} {nonterminal : NonterminalId} :
      symbols.Numbers (.nonterminal nonterminal) →
      table.goto? source nonterminal = some (some target) →
      Transition table symbols source (.nonterminal nonterminal) target

/-- The states and the labels of a path of transitions from the start, the latest ones first. -/
inductive Path (table : ParseTable) (symbols : SymbolTable) :
    List StateId → List Symbol → Prop where
  | start : Path table symbols [⟨0⟩] []
  | step {source target : StateId} {below : List StateId} {X : Symbol} {labels : List Symbol} :
      Path table symbols (source :: below) labels →
      table.Transition symbols source X target →
      Path table symbols (target :: source :: below) (X :: labels)

/-- On every path to a state, the reductions of the state can be made: the latest labels spell the
right-hand side, and the state in front of them has a goto. A path to a state that accepts has one
transition. -/
structure Coherent (table : ParseTable) (symbols : SymbolTable) : Prop where
  reduce : ∀ {s below labels terminal production length nonterminal},
    table.Path symbols (s :: below) labels → symbols.Numbers (.terminal terminal) →
    table.action? s terminal = some (.reduce production length nonterminal) →
    length ≤ labels.length ∧
    (∃ entry, symbols.production? production = some entry ∧
      (labels.take length).reverse = entry.rhs) ∧
    ∃ source target, (s :: below)[length]? = some source ∧
      table.goto? source nonterminal = some (some target)
  accept : ∀ {s below labels terminal},
    table.Path symbols (s :: below) labels → symbols.Numbers (.terminal terminal) →
    table.action? s terminal = some .accept → labels.length = 1

variable {table : ParseTable} {symbols : SymbolTable} {states : List StateId} {labels : List Symbol}

/-- A path has at least the start on it. -/
theorem Path.exists_cons (h : table.Path symbols states labels) :
    ∃ s below, states = s :: below := by
  cases h with
  | start => exact ⟨_, _, rfl⟩
  | step _ _ => exact ⟨_, _, rfl⟩

/-- What is left of a path without its latest transitions is a path. -/
theorem Path.drop (h : table.Path symbols states labels) (count : Nat)
    (hcount : count ≤ labels.length) :
    table.Path symbols (states.drop count) (labels.drop count) := by
  -- along the path, from its latest transition on
  induction h generalizing count with
  | start =>
    -- no label, so nothing is left out
    obtain rfl := Nat.le_zero.mp hcount
    exact .start
  | step hpath htransition ih =>
    cases count with
    | zero => exact .step hpath htransition
    | succ count => exact ih count (Nat.le_of_succ_le_succ hcount)

/-- A path with one label is one transition from the start. -/
theorem Path.transition_of_singleton {s : StateId} {below : List StateId} {X : Symbol}
    (h : table.Path symbols (s :: below) [X]) : table.Transition symbols ⟨0⟩ X s := by
  cases h with
  | step hpath htransition =>
    cases hpath
    exact htransition

end ParseTable

/-! ## The invariant -/

/-- What a recognizer finds in a text stands at the front of the text. -/
def Matcher.FindsPrefixes (matcher : Matcher) : Prop :=
  ∀ text lexeme, matcher.recognize? text = some lexeme → lexeme <+: text

/-- A literal is found where the text starts with it. -/
theorem Matcher.findsPrefixes_literal (text : String) : (literal text).FindsPrefixes := by
  intro input lexeme h
  simp only [recognize?] at h
  split at h
  · rename_i hprefix
    cases h
    exact List.isPrefixOf_iff_prefix.mp hprefix
  · cases h

/-- The end of the input is found as nothing, in front of nothing. -/
theorem Matcher.findsPrefixes_endOfInput : endOfInput.FindsPrefixes := by
  intro input lexeme h
  simp only [recognize?] at h
  split at h
  · cases h
    exact List.nil_prefix
  · cases h

namespace Parser

/-- The states are a path labelled with the symbols of the values, the lookahead ends at the end of
a character, and the shifts among `events` have led to states of the automaton. -/
structure Safe (parser : Parser) (symbols : SymbolTable) (automaton : Automaton)
    (events : List ParseEvent) (configuration : Configuration) : Prop where
  sound : Sound symbols automaton configuration
  path : parser.table.Path symbols configuration.states
    (configuration.values.map ParseTree.symbol)
  lookahead_splits : ∃ lexeme rest,
    splitBytes? configuration.lookahead.length configuration.lookahead.rest = some (lexeme, rest)
  targets_exist : ∀ target token, .shifted target token ∈ events → automaton.HasState target

variable {parser : Parser} {symbols : SymbolTable} {automaton : Automaton}
variable {errorOnConflicts : Bool} {before after : Configuration} {event : ParseEvent}
variable {events : List ParseEvent}

/-- Where recognizers find prefixes, a token can be cut off. -/
theorem StandsAt.splits (hprefixes : ∀ matcher ∈ parser.matchers, matcher.FindsPrefixes)
    {ahead : Lookahead} {position : Nat} {input gap : List Char}
    (h : parser.StandsAt ahead position input gap) :
    ∃ lexeme rest, splitBytes? ahead.length ahead.rest = some (lexeme, rest) := by
  -- what has been recognized is a prefix, so its length ends at the end of a character
  obtain ⟨lexeme, ⟨matcher, hmatcher, hrecognize⟩, hlength⟩ := h.recognized
  obtain ⟨rest, hrest⟩ := hprefixes matcher (List.mem_of_getElem? hmatcher) _ _ hrecognize
  exact ⟨lexeme, rest, splitBytes?_eq_some_iff.mpr ⟨hrest.symm, hlength.symm⟩⟩

/-- A run starts safely: on the empty path, with a lookahead that was found in the input. -/
theorem safe_begin (hsymbols : symbols.WellFormed)
    (made : parser.MadeFrom symbols automaton errorOnConflicts)
    (hprefixes : ∀ matcher ∈ parser.matchers, matcher.FindsPrefixes) {input : List Char}
    {ahead : Lookahead} (hahead : parser.lookahead? ⟨0⟩ 0 input = some ahead) :
    parser.Safe symbols automaton [] ⟨[⟨0⟩], [], 0, ahead⟩ where
  sound := sound_begin hsymbols made hahead
  path := .start
  lookahead_splits := (lookahead?_eq_some hahead).2.splits hprefixes
  targets_exist := fun _ _ hmem => absurd hmem List.not_mem_nil

/-- The next move, too, shifts into a state of the automaton, if it shifts. -/
theorem Safe.targets_exist_concat (hsymbols : symbols.WellFormed)
    (made : parser.MadeFrom symbols automaton errorOnConflicts)
    (safe : parser.Safe symbols automaton events before) (h : parser.event? before = some event) :
    ∀ target token, .shifted target token ∈ events ++ [event] → automaton.HasState target := by
  intro target token hmem
  rcases List.mem_append.mp hmem with hearlier | hlast
  · exact safe.targets_exist target token hearlier
  · obtain rfl := List.mem_singleton.mp hlast
    -- only a shift tells a target, and that of its cell is a state
    obtain ⟨state, below, hstates⟩ := safe.path.exists_cons
    have hstate := safe.sound.states_exist state (by simp [hstates])
    simp only [event?, hstates] at h
    split at h
    · rename_i entered shifted haction
      obtain ⟨_, _, hevent⟩ := Option.map_eq_some_iff.mp h
      cases hevent
      exact (made.shift_cell hsymbols hstate safe.sound.lookahead_numbered haction).2
    · cases h
    · cases h

/-- A shift extends the path, and a reduction goes back on it and then extends it. -/
theorem GrammarStep.path (hsymbols : symbols.WellFormed)
    (hlookahead : symbols.Numbers (.terminal before.lookahead.terminal))
    (hpath : parser.table.Path symbols before.states (before.values.map ParseTree.symbol))
    (h : parser.GrammarStep symbols before event after) :
    parser.table.Path symbols after.states (after.values.map ParseTree.symbol) := by
  -- the labels are the symbols of the values, of which a shift adds one
  cases h with
  | @shift state below target ahead lexeme rest hstates haction hrest hlength hahead =>
    rw [hstates] at hpath ⊢
    exact hpath.step (.shift hlookahead haction)
  | @reduce state below production source deeper target entry popped kept hstates haction hentry
      hvalues hrhs hdrop hgoto =>
    have hlabels : before.values.map ParseTree.symbol =
        entry.rhs.reverse ++ kept.map ParseTree.symbol := by
      rw [hvalues, List.map_append, List.map_reverse, hrhs]
    rw [hlabels] at hpath
    -- the labels of the right-hand side are gone; the goto follows what is left
    have hback := hpath.drop entry.rhs.length (by simp)
    rw [hdrop, List.drop_left' (List.length_reverse ..)] at hback
    exact hback.step (.goto (hsymbols.numbers_nonterminal hentry) hgoto)

/-- Steps from safe configurations are safe. -/
theorem Safe.step (hsymbols : symbols.WellFormed)
    (made : parser.MadeFrom symbols automaton errorOnConflicts)
    (hprefixes : ∀ matcher ∈ parser.matchers, matcher.FindsPrefixes)
    (safe : parser.Safe symbols automaton events before) (h : parser.Step before event after) :
    parser.Safe symbols automaton (events ++ [event]) after := by
  have hgrammar := safe.sound.grammarStep hsymbols made h
  constructor
  case sound => exact hgrammar.sound hsymbols made safe.sound
  case path => exact hgrammar.path hsymbols safe.sound.lookahead_numbered safe.path
  case lookahead_splits =>
    -- a shift looks for the next token, and a reduction keeps the one it has
    cases hgrammar with
    | shift _ _ _ _ hahead => exact (lookahead?_eq_some hahead).2.splits hprefixes
    | reduce => exact safe.lookahead_splits
  case targets_exist => exact safe.targets_exist_concat hsymbols made h.event?_eq

/-! ## Progress -/

/-- Where no token is found the input is rejected, which is no failure. -/
theorem readToken_ne_failed {states : List StateId} {values : List ParseTree} {state : StateId}
    {position : Nat} {rest : List Char} (fault : ParseFault) :
    parser.readToken states values state position rest ≠ .done (.failed fault) := by
  simp only [readToken]
  split <;> simp

/-- On a path that spells the right-hand side, the values of its symbols can be reduced. -/
theorem Safe.reduceValues_ok (made : parser.MadeFrom symbols automaton errorOnConflicts)
    (safe : parser.Safe symbols automaton events before) {production : ProductionId}
    {entry : NumberedProduction} (hentry : symbols.production? production = some entry)
    (hlength : entry.rhs.length ≤ before.values.length)
    (hlabels : ((before.values.map ParseTree.symbol).take entry.rhs.length).reverse = entry.rhs) :
    ∃ values, parser.reduceValues before.values production entry.rhs.length = .ok values := by
  have hpopped : ∀ value ∈ (before.values.take entry.rhs.length).reverse,
      value.WellFormed symbols := fun value hvalue =>
    safe.sound.values_wellFormed value (List.mem_of_mem_take (List.mem_reverse.mp hvalue))
  have hrhs : (before.values.take entry.rhs.length).reverse.map ParseTree.symbol = entry.rhs := by
    rw [List.map_reverse, List.map_take, hlabels]
  -- what is popped is well formed and spells the right-hand side, so the handler takes it
  have hshapes := (ParseTree.admitted_iff hpopped (by simp [hlength])).mpr hrhs
  exact ⟨_, reduceValues_eq_ok_iff.mpr
    ⟨_, made.reduce?_eq hentry, by simp [ReduceHandler.arity], hlength, hshapes, rfl⟩⟩

/-- No move from a safe configuration fails. -/
theorem Safe.step_ne_failed (hsymbols : symbols.WellFormed)
    (made : parser.MadeFrom symbols automaton errorOnConflicts)
    (hcoherent : parser.table.Coherent symbols)
    (safe : parser.Safe symbols automaton events before) (fault : ParseFault) :
    parser.step before ≠ .done (.failed fault) := by
  have hpath := safe.path
  have hterminal := safe.sound.lookahead_numbered
  obtain ⟨state, below, hstates⟩ := hpath.exists_cons
  have hstate := safe.sound.states_exist state (by simp [hstates])
  -- the cell exists, because the state and the terminal do
  obtain ⟨action, haction⟩ := made.exists_action? hsymbols hstate hterminal
  rw [hstates] at hpath
  simp only [Parser.step, hstates, haction]
  cases action with
  | error => simp
  | shift target shifted =>
    obtain ⟨rfl, -⟩ := made.shift_cell hsymbols hstate hterminal haction
    obtain ⟨lexeme, rest, hsplit⟩ := safe.lookahead_splits
    simp only [shift, hsplit, made.shift?_eq hterminal]
    exact readToken_ne_failed fault
  | reduce production length nonterminal =>
    obtain ⟨entry, hentry, rfl, rfl⟩ := made.reduce_cell hsymbols hstate hterminal haction
    obtain ⟨hlength, ⟨spelled, hspelled, hlabels⟩, source, target, hsource, hgoto⟩ :=
      hcoherent.reduce hpath hterminal haction
    cases hspelled.symm.trans hentry
    rw [List.length_map] at hlength
    -- neither the states nor the values run out, and the values are those of the right-hand side
    have hreduceStates : parser.reduceStates before.states entry.rhs.length entry.nonterminal =
        .ok (target :: before.states.drop entry.rhs.length) := by
      rw [hstates]
      obtain ⟨hlt, rfl⟩ := List.getElem?_eq_some_iff.mp hsource
      rw [List.drop_eq_getElem_cons hlt]
      exact reduceStates_eq_ok_iff.mpr
        ⟨_, _, target, List.drop_eq_getElem_cons hlt, hgoto, rfl⟩
    obtain ⟨values, hvalues⟩ := safe.reduceValues_ok made hentry hlength hlabels
    simp [reduce, hreduceStates, hvalues]
  | accept =>
    -- as many values as labels: one
    have hlength := hcoherent.accept hpath hterminal haction
    rw [List.length_map] at hlength
    obtain ⟨value, hvalue⟩ := List.length_eq_one_iff.mp hlength
    simp [accept, hvalue]

end Parser

/-! ## A parser of semicolons

Lists of semicolons, whose paths are few enough to be listed. -/

namespace Semicolons

def grammar : Grammar where
  terminals := [⟨"EOF", .endOfInput⟩, ⟨";", .literal ";"⟩]
  nonterminals := [
    ⟨"S'", [⟨[.nonterminal "List"]⟩]⟩,
    ⟨"List", [⟨[.nonterminal "List", .terminal ";"]⟩, ⟨[]⟩]⟩]
  augmentedStart? := some "S'"

def symbols : SymbolTable where
  terminals := grammar.terminals
  nonterminals := ["List"]
  productions := [⟨⟨0⟩, 0, [.nonterminal ⟨0⟩, .terminal ⟨1⟩]⟩, ⟨⟨0⟩, 1, []⟩]
  augmentedStart? := some "S'"

def automaton : Automaton where
  states := [
    { actions := [("EOF", [.reduce ⟨"List", 1⟩]), (";", [.reduce ⟨"List", 1⟩])]
      gotos := [("List", ⟨1⟩)] },
    { symbol? := some "List"
      actions := [("EOF", [.accept]), (";", [.shift ⟨2⟩])] },
    { symbol? := some ";"
      actions := [("EOF", [.reduce ⟨"List", 0⟩]), (";", [.reduce ⟨"List", 0⟩])] }]

def parser : Parser where
  table := ParseTable.tableOf symbols automaton
  matchers := [.endOfInput, .literal ";"]
  handlers := .ofSymbols symbols

theorem ofGrammar_grammar : SymbolTable.ofGrammar grammar = .ok symbols := rfl

theorem parser_madeFrom : parser.MadeFrom symbols automaton true where
  table_eq := rfl
  exists_compiler := ⟨Pattern.Program.ofPattern, rfl⟩
  handlers_eq := rfl

theorem parser_actions : parser.table.actions = ⟨2, [
    .reduce ⟨1⟩ 0 ⟨0⟩, .reduce ⟨1⟩ 0 ⟨0⟩,
    .accept, .shift ⟨2⟩ ⟨1⟩,
    .reduce ⟨0⟩ 2 ⟨0⟩, .reduce ⟨0⟩ 2 ⟨0⟩]⟩ := rfl

theorem parser_gotos : parser.table.gotos = ⟨1, [some ⟨1⟩, none, none]⟩ := rfl

theorem terminal_cases {terminal : TerminalId} (h : symbols.Numbers (.terminal terminal)) :
    terminal = ⟨0⟩ ∨ terminal = ⟨1⟩ := by
  obtain ⟨index⟩ := terminal
  have hlt : index < 2 := h
  simp only [TerminalId.mk.injEq]
  omega

theorem nonterminal_eq {nonterminal : NonterminalId}
    (h : symbols.Numbers (.nonterminal nonterminal)) : nonterminal = ⟨0⟩ := by
  obtain ⟨index⟩ := nonterminal
  have hlt : index < 1 := h
  simp only [NonterminalId.mk.injEq]
  omega

/-- A list of semicolons has three paths: the start, a list, and a list with a semicolon. -/
theorem path_cases {states : List StateId} {labels : List Symbol}
    (h : parser.table.Path symbols states labels) :
    states = [⟨0⟩] ∧ labels = [] ∨
    states = [⟨1⟩, ⟨0⟩] ∧ labels = [.nonterminal ⟨0⟩] ∨
    states = [⟨2⟩, ⟨1⟩, ⟨0⟩] ∧ labels = [.terminal ⟨1⟩, .nonterminal ⟨0⟩] := by
  induction h with
  | start => simp
  | @step source target below X labels hpath htransition ih =>
    -- a transition needs a shift or a goto in its cell, and the tables have few
    cases htransition with
    | shift hnumbers haction =>
      simp only [ParseTable.action?, parser_actions, Grid.get?] at haction
      rcases terminal_cases hnumbers with rfl | rfl <;>
        rcases ih with ⟨hstates, rfl⟩ | ⟨hstates, rfl⟩ | ⟨hstates, rfl⟩ <;> cases hstates <;>
        simp at haction
      simp [haction]
    | goto hnumbers hgoto =>
      obtain rfl := nonterminal_eq hnumbers
      simp only [ParseTable.goto?, parser_gotos, Grid.get?] at hgoto
      rcases ih with ⟨hstates, rfl⟩ | ⟨hstates, rfl⟩ | ⟨hstates, rfl⟩ <;> cases hstates <;>
        simp at hgoto
      simp [hgoto]

theorem coherent_table : parser.table.Coherent symbols where
  reduce := by
    intro s below labels terminal production length nonterminal hpath hnumbers haction
    simp only [ParseTable.action?, parser_actions, Grid.get?] at haction
    simp only [ParseTable.goto?, parser_gotos, Grid.get?]
    rcases path_cases hpath with ⟨hstates, rfl⟩ | ⟨hstates, rfl⟩ | ⟨hstates, rfl⟩ <;>
      cases hstates <;> rcases terminal_cases hnumbers with rfl | rfl <;> simp at haction <;>
      obtain ⟨rfl, rfl, rfl⟩ := haction <;> simp [SymbolTable.production?, symbols]
  accept := by
    intro s below labels terminal hpath hnumbers haction
    simp only [ParseTable.action?, parser_actions, Grid.get?] at haction
    rcases path_cases hpath with ⟨hstates, rfl⟩ | ⟨hstates, rfl⟩ | ⟨hstates, rfl⟩ <;>
      cases hstates <;> rcases terminal_cases hnumbers with rfl | rfl <;> simp at haction ⊢

theorem findsPrefixes_matchers : ∀ matcher ∈ parser.matchers, matcher.FindsPrefixes := by
  simp only [parser, List.forall_mem_cons]
  exact ⟨Matcher.findsPrefixes_endOfInput, Matcher.findsPrefixes_literal ";",
    fun _ hmem => absurd hmem List.not_mem_nil⟩

end Semicolons

/-! ## Safe runs -/

namespace Parser

variable {parser : Parser} {symbols : SymbolTable} {automaton : Automaton}
variable {errorOnConflicts : Bool}

/-- A token can be looked for in the state: the table has a row for it, and every terminal that it
expects has a matcher. -/
structure CanRead (parser : Parser) (s : StateId) : Prop where
  has_row : s.index < parser.table.stateCount
  has_matchers : ∀ terminal, some terminal ∈ parser.table.expected s →
    ∃ matcher, parser.matchers[terminal.index]? = some matcher

/-- Tokens can be looked for in every state of the automaton. -/
theorem canRead_of_hasState (hsymbols : symbols.WellFormed)
    (made : parser.MadeFrom symbols automaton errorOnConflicts) {s : StateId}
    (hstate : automaton.HasState s) : parser.CanRead s where
  has_row := by
    -- the table has a row for every state
    obtain ⟨state, hstate⟩ := hstate
    rw [(ParseTable.represents_of_encode hsymbols made.table_eq).stateCount_eq]
    exact (List.getElem?_eq_some_iff.mp hstate).1
  has_matchers := fun terminal hexpected =>
    made.exists_matcher (made.expected_lt hsymbols hexpected)

/-- A run ends in a safe configuration, or before it has found a token. -/
theorem safe_parse (hsymbols : symbols.WellFormed)
    (made : parser.MadeFrom symbols automaton errorOnConflicts)
    (hprefixes : ∀ matcher ∈ parser.matchers, matcher.FindsPrefixes) (moves : Nat)
    (input : String) :
    parser.parse moves input = .rejected 0 ∧
        parser.events moves (parser.begin_ input.toList) = [] ∨
      ∃ events last, parser.Safe symbols automaton events last ∧
        (parser.parse moves input = .unfinished ∧
            parser.events moves (parser.begin_ input.toList) = events ∨
          parser.step last = .done (parser.parse moves input) ∧
            parser.events moves (parser.begin_ input.toList) =
              events ++ (parser.event? last).toList) :=
  parse_of_preserved (fun _ hahead => safe_begin hsymbols made hprefixes hahead)
    (fun _ _ _ _ safe h => safe.step hsymbols made hprefixes h) moves

/-- All shifts of a run lead to states of the automaton. -/
theorem hasState_of_mem_events (hsymbols : symbols.WellFormed)
    (made : parser.MadeFrom symbols automaton errorOnConflicts)
    (hprefixes : ∀ matcher ∈ parser.matchers, matcher.FindsPrefixes) {moves : Nat}
    {input : String} {target : StateId} {token : Token}
    (hmem : .shifted target token ∈ parser.events moves (parser.begin_ input.toList)) :
    automaton.HasState target := by
  -- no event before the first token; then those of safe configurations, and perhaps one more
  rcases safe_parse hsymbols made hprefixes moves input with
    ⟨-, hnone⟩ | ⟨events, last, safe, ⟨-, hall⟩ | ⟨-, hall⟩⟩
  · rw [hnone] at hmem
    cases hmem
  · exact safe.targets_exist target token (hall ▸ hmem)
  · -- the last move may be a shift behind which no token is found
    rw [hall] at hmem
    cases hlast : parser.event? last with
    | none => exact safe.targets_exist target token (by simpa [hlast] using hmem)
    | some event =>
      rw [hlast] at hmem
      exact safe.targets_exist_concat hsymbols made hlast target token hmem

/-- **Runs are safe.** On a table whose paths agree with its reductions, with recognizers that find
prefixes, no input makes a move fail: neither stack runs out, every reduction has a goto and the
values of its symbols, as many as its handler takes, no token ends inside a character, and exactly
one value is left on acceptance. That value is one of a symbol on which the start state is left.
Tokens are only looked for in states of the table, among terminals with a matcher. -/
theorem parse_safe {grammar : Grammar} (hsymbols : SymbolTable.ofGrammar grammar = .ok symbols)
    (made : parser.MadeFrom symbols automaton errorOnConflicts)
    (hprefixes : ∀ matcher ∈ parser.matchers, matcher.FindsPrefixes)
    (hcoherent : parser.table.Coherent symbols) (moves : Nat) (input : String) :
    (∀ fault, parser.parse moves input ≠ .failed fault) ∧
    (∀ tree, parser.parse moves input = .accepted tree → tree.WellFormed symbols ∧
      ∃ target, parser.table.Transition symbols ⟨0⟩ tree.symbol target) ∧
    (∀ s, (s = ⟨0⟩ ∨ ∃ token,
      .shifted s token ∈ parser.events moves (parser.begin_ input.toList)) → parser.CanRead s) ∧
    ∀ production handler values, parser.handlers.reduce? production = some handler →
      values.length = handler.arity →
      (handler.arguments values).length = handler.argumentCount := by
  have hwellFormed := SymbolTable.wellFormed_of_ofGrammar hsymbols
  refine ⟨?_, ?_, ?_, fun production handler values _ hvalues =>
    ReduceHandler.length_arguments hvalues⟩
  · intro fault hfailed
    have hend := safe_parse hwellFormed made hprefixes moves input
    rw [hfailed] at hend
    rcases hend with ⟨hrejected, -⟩ | ⟨events, last, safe, ⟨hunfinished, -⟩ | ⟨hdone, -⟩⟩
    · cases hrejected
    · cases hunfinished
    · exact safe.step_ne_failed hwellFormed made hcoherent fault hdone
  · intro tree haccepted
    obtain ⟨last, state, below, safe, hstates, -, hvalues⟩ :=
      accepted_of_preserved (I := parser.Safe symbols automaton)
        (fun _ hahead => safe_begin hwellFormed made hprefixes hahead)
        (fun _ _ _ _ safe h => safe.step hwellFormed made hprefixes h) haccepted
    -- the one value left is that of the only step from the start state
    have hpath := safe.path
    rw [hstates, hvalues] at hpath
    exact ⟨safe.sound.values_wellFormed tree (by simp [hvalues]), state,
      hpath.transition_of_singleton⟩
  · rintro s (rfl | ⟨token, hmem⟩)
    · exact canRead_of_hasState hwellFormed made (made.hasState_start hwellFormed)
    · exact canRead_of_hasState hwellFormed made
        (hasState_of_mem_events hwellFormed made hprefixes hmem)

/-- The list of two semicolons is accepted safely. -/
theorem parse_safe_semicolons :
    SymbolTable.ofGrammar Semicolons.grammar = .ok Semicolons.symbols ∧
    Semicolons.parser.MadeFrom Semicolons.symbols Semicolons.automaton true ∧
    (∀ matcher ∈ Semicolons.parser.matchers, matcher.FindsPrefixes) ∧
    Semicolons.parser.table.Coherent Semicolons.symbols ∧
    (∀ fault, Semicolons.parser.parse 6 "; ;" ≠ .failed fault) ∧
    ∃ tree, Semicolons.parser.parse 6 "; ;" = .accepted tree ∧
      ∃ target, Semicolons.parser.table.Transition Semicolons.symbols ⟨0⟩ tree.symbol target := by
  have hsafe := parse_safe Semicolons.ofGrammar_grammar Semicolons.parser_madeFrom
    Semicolons.findsPrefixes_matchers Semicolons.coherent_table 6 "; ;"
  have haccepted : Semicolons.parser.parse 6 "; ;" = .accepted
      (.node ⟨0⟩ ⟨0⟩ [.node ⟨0⟩ ⟨0⟩ [.node ⟨0⟩ ⟨1⟩ []]]) := rfl
  exact ⟨rfl, Semicolons.parser_madeFrom, Semicolons.findsPrefixes_matchers,
    Semicolons.coherent_table, hsafe.1, _, haccepted, (hsafe.2.1 _ haccepted).2⟩

end Parser

end ParserFoundry
