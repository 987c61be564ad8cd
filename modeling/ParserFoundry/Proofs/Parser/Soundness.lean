import ParserFoundry.Proofs.Parser.Trees
/-!
# Sound Configurations

A parser made from a grammar only ever holds trees of that grammar, whatever its automaton is. In
such configurations its moves are moves of the grammar: a shift pushes the token that was read, and
a reduction replaces values of the symbols of a right-hand side by the tree of their production.

Main results:
- `Sound.grammarStep`: steps from sound configurations are steps of the grammar.
- `GrammarStep.sound`: they lead to sound configurations.
-/

namespace ParserFoundry

/-- The tree of a shifted token. -/
def Token.value (symbols : SymbolTable) (token : Token) : ParseTree :=
  .token token.terminal
    (if symbols.hasPayload token.terminal then some (String.ofList token.lexeme) else none)

namespace Parser

/-! ## Steps of a grammar -/

/-- What a step does in terms of the grammar. -/
inductive GrammarStep (parser : Parser) (symbols : SymbolTable) (before : Configuration) :
    ParseEvent → Configuration → Prop where
  | shift {state below target ahead} {lexeme rest : List Char} :
      before.states = state :: below →
      parser.table.action? state before.lookahead.terminal =
        some (.shift target before.lookahead.terminal) →
      before.lookahead.rest = lexeme ++ rest →
      byteLength lexeme = before.lookahead.length →
      parser.lookahead? target (before.lookahead.start + before.lookahead.length) rest =
        some ahead →
      GrammarStep parser symbols before
        (.shifted target ⟨before.lookahead.terminal, before.lookahead.start, lexeme⟩)
        ⟨target :: before.states,
          Token.value symbols ⟨before.lookahead.terminal, before.lookahead.start, lexeme⟩ ::
            before.values,
          before.lookahead.start + before.lookahead.length, ahead⟩
  | reduce {state below production source deeper target} {entry : NumberedProduction}
      {popped kept : List ParseTree} :
      before.states = state :: below →
      parser.table.action? state before.lookahead.terminal =
        some (.reduce production entry.rhs.length entry.nonterminal) →
      symbols.production? production = some entry →
      before.values = popped.reverse ++ kept →
      popped.map ParseTree.symbol = entry.rhs →
      before.states.drop entry.rhs.length = source :: deeper →
      parser.table.goto? source entry.nonterminal = some (some target) →
      GrammarStep parser symbols before (.reduced production)
        { before with
          states := target :: source :: deeper
          values := .node entry.nonterminal production
            (popped.filter fun value => symbols.isArgument value.symbol) :: kept }

/-- The states are those of the automaton, the lookahead is one of the numbered terminals, and the
values are trees of the grammar. -/
structure Sound (symbols : SymbolTable) (automaton : Automaton) (configuration : Configuration) :
    Prop where
  states_exist : ∀ s ∈ configuration.states, automaton.HasState s
  lookahead_numbered : symbols.Numbers (.terminal configuration.lookahead.terminal)
  values_wellFormed : ∀ value ∈ configuration.values, value.WellFormed symbols

variable {parser : Parser} {symbols : SymbolTable} {automaton : Automaton}
variable {errorOnConflicts : Bool} {before after : Configuration} {event : ParseEvent}

/-- The tree of a shifted token is a tree of the grammar. -/
theorem wellFormed_tokenValue {token : Token} (h : symbols.Numbers (.terminal token.terminal)) :
    (token.value symbols).WellFormed symbols := by
  refine .token h ?_
  cases symbols.hasPayload token.terminal <;> simp

/-- The first lookahead stands in a sound configuration. -/
theorem sound_begin (hsymbols : symbols.WellFormed)
    (made : parser.MadeFrom symbols automaton errorOnConflicts) {input : List Char}
    {ahead : Lookahead} (hahead : parser.lookahead? ⟨0⟩ 0 input = some ahead) :
    Sound symbols automaton ⟨[⟨0⟩], [], 0, ahead⟩ := by
  constructor
  case states_exist =>
    intro s hs
    obtain rfl := List.mem_singleton.mp hs
    exact made.hasState_start hsymbols
  case lookahead_numbered => exact made.expected_lt hsymbols (lookahead?_eq_some hahead).1
  case values_wellFormed => exact fun value hvalue => absurd hvalue List.not_mem_nil

/-- Steps from sound configurations are steps of the grammar. -/
theorem Sound.grammarStep (hsymbols : symbols.WellFormed)
    (made : parser.MadeFrom symbols automaton errorOnConflicts)
    (sound : Sound symbols automaton before) (h : parser.Step before event after) :
    parser.GrammarStep symbols before event after := by
  cases h with
  | @shift state below target terminal lexeme rest handler ahead hstates haction hsplit hhandler
      hahead =>
    have hstate := sound.states_exist state (by simp [hstates])
    -- the terminal that is shifted is the one that was read
    obtain ⟨rfl, -⟩ := made.shift_cell hsymbols hstate sound.lookahead_numbered haction
    cases hhandler.symm.trans (made.shift?_eq sound.lookahead_numbered)
    obtain ⟨hrest, hlength⟩ := splitBytes?_eq_some_iff.mp hsplit
    exact .shift hstates haction hrest hlength hahead
  | @reduce state below production length nonterminal source deeper target handler hstates haction
      hdrop hgoto hhandler harity hlength hshapes =>
    have hstate := sound.states_exist state (by simp [hstates])
    obtain ⟨entry, hentry, rfl, rfl⟩ :=
      made.reduce_cell hsymbols hstate sound.lookahead_numbered haction
    cases hhandler.symm.trans (made.reduce?_eq hentry)
    have hpopped : ∀ value ∈ (before.values.take entry.rhs.length).reverse,
        value.WellFormed symbols := fun value hvalue =>
      sound.values_wellFormed value (List.mem_of_mem_take (List.mem_reverse.mp hvalue))
    -- the shapes have been checked, so the values are those of the right-hand side
    have hrhs := (ParseTree.admitted_iff hpopped (by simp [hlength])).mp hshapes
    rw [ParseTree.arguments_eq (by rw [hrhs])]
    exact .reduce hstates haction hentry (by simp) hrhs hdrop hgoto

/-- A step of the grammar leads to a sound configuration. -/
theorem GrammarStep.sound (hsymbols : symbols.WellFormed)
    (made : parser.MadeFrom symbols automaton errorOnConflicts)
    (sound : Sound symbols automaton before) (h : parser.GrammarStep symbols before event after) :
    Sound symbols automaton after := by
  cases h with
  | @shift state below target ahead lexeme rest hstates haction hrest hlength hahead =>
    have hstate := sound.states_exist state (by simp [hstates])
    have htarget := (made.shift_cell hsymbols hstate sound.lookahead_numbered haction).2
    constructor
    case states_exist => exact List.forall_mem_cons.mpr ⟨htarget, sound.states_exist⟩
    case lookahead_numbered => exact made.expected_lt hsymbols (lookahead?_eq_some hahead).1
    case values_wellFormed =>
      exact List.forall_mem_cons.mpr
        ⟨wellFormed_tokenValue sound.lookahead_numbered, sound.values_wellFormed⟩
  | @reduce state below production source deeper target entry popped kept hstates haction hentry
      hvalues hrhs hdrop hgoto =>
    -- what is left of both stacks is as sound as before
    have hdeeper : ∀ s ∈ source :: deeper, automaton.HasState s := fun s hs =>
      sound.states_exist s (List.mem_of_mem_drop (hdrop ▸ hs))
    have htarget := made.goto_cell hsymbols (hsymbols.numbers_nonterminal hentry) hgoto
    have hpopped : ∀ value ∈ popped, value.WellFormed symbols := fun value hvalue =>
      sound.values_wellFormed value (by simp [hvalues, hvalue])
    have hkept : ∀ value ∈ kept, value.WellFormed symbols := fun value hvalue =>
      sound.values_wellFormed value (by simp [hvalues, hvalue])
    constructor
    case states_exist => exact List.forall_mem_cons.mpr ⟨htarget, hdeeper⟩
    case lookahead_numbered => exact sound.lookahead_numbered
    case values_wellFormed =>
      exact List.forall_mem_cons.mpr
        ⟨ParseTree.wellFormed_reduced hpopped hentry hrhs, hkept⟩

end Parser

end ParserFoundry
