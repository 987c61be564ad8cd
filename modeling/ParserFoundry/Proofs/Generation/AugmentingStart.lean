import ParserFoundry.Generation.Generate
import ParserFoundry.Proofs.Numbering.Declarations
import ParserFoundry.Proofs.Table.Strictness
/-!
# The Augmenting Start Symbol

The nonterminal that augments a grammar has to be declared, and that is all: where it stands and
what productions it has makes no difference to the numbering, and so to nothing that is made from
it. No cell of a table refers to it.

Main results:
- `ofGrammar_withStart`: the numbering.
- `reduces_other_of_mem_cells`: the reductions in tables.
- `rejected_of_reducesTo`, `rejected_of_goto`: automata that refer to the symbol.
- `augmenting_untraced`: all of it.
-/

namespace ParserFoundry

/-! ## Numbering -/

/-- The grammar with the augmenting start symbol behind the first `position` of the other
nonterminals, and with the given productions for it. -/
def Grammar.withStart (grammar : Grammar) (start : String) (position : Nat)
    (productions : List Production) : Grammar :=
  { grammar with
    nonterminals := grammar.coreNonterminals.take position ++
      ⟨start, productions⟩ :: grammar.coreNonterminals.drop position }

section Numbering

variable {grammar : Grammar} {symbols : SymbolTable} {start : String}

theorem Grammar.coreNonterminals_withStart (hstart : grammar.augmentedStart? = some start)
    (position : Nat) (productions : List Production) :
    (grammar.withStart start position productions).coreNonterminals = grammar.coreNonterminals := by
  have hcore : ∀ nonterminal ∈ grammar.coreNonterminals,
      (!grammar.isAugmentedStart nonterminal.name) = true :=
    fun nonterminal hmem => (List.mem_filter.mp hmem).2
  have hself : grammar.isAugmentedStart start = true := by simp [isAugmentedStart, hstart]
  -- only the symbol itself is filtered out again
  calc (grammar.withStart start position productions).coreNonterminals
      = (grammar.coreNonterminals.take position ++
          ⟨start, productions⟩ :: grammar.coreNonterminals.drop position).filter
            fun nonterminal => !grammar.isAugmentedStart nonterminal.name := rfl
    _ = grammar.coreNonterminals.take position ++ grammar.coreNonterminals.drop position := by
        rw [List.filter_append, List.filter_cons_of_neg (by simp [hself]),
          List.filter_eq_self.mpr fun nonterminal hmem => hcore _ (List.mem_of_mem_take hmem),
          List.filter_eq_self.mpr fun nonterminal hmem => hcore _ (List.mem_of_mem_drop hmem)]
    _ = grammar.coreNonterminals := List.take_append_drop ..

theorem Grammar.start_not_mem_core (hstart : grammar.augmentedStart? = some start) :
    start ∉ grammar.coreNonterminals.map Nonterminal.name := by
  intro hmem
  obtain ⟨nonterminal, hcore, rfl⟩ := List.mem_map.mp hmem
  have hother := (List.mem_filter.mp hcore).2
  simp [isAugmentedStart, hstart] at hother

/-- A numbered grammar with an augmenting start symbol is of this form. -/
theorem SymbolTable.exists_eq_withStart (h : ofGrammar grammar = .ok symbols)
    (hstart : grammar.augmentedStart? = some start) :
    ∃ position productions, grammar = grammar.withStart start position productions := by
  obtain ⟨-, hnames, -⟩ := ofGrammar_ok h
  have hnodup := nodup_iff_firstRepeated.mpr hnames
  obtain ⟨⟨name, productions⟩, hmem, hname⟩ :=
    List.mem_map.mp (start_declared_of_ofGrammar h hstart)
  obtain rfl : name = start := hname
  obtain ⟨before, after, hsplit⟩ := List.append_of_mem hmem
  -- no other nonterminal has the name
  rw [hsplit, List.map_append, List.map_cons, List.nodup_middle, List.nodup_cons,
    List.mem_append, not_or] at hnodup
  have hothers : ∀ part : List Nonterminal, name ∉ part.map Nonterminal.name →
      part.filter (fun nonterminal => !grammar.isAugmentedStart nonterminal.name) = part := by
    intro part hpart
    refine List.filter_eq_self.mpr fun nonterminal hnonterminal => ?_
    simp only [Grammar.isAugmentedStart, hstart, Option.some.injEq, Bool.not_eq_true',
      decide_eq_false_iff_not]
    exact fun heq => hpart (heq ▸ List.mem_map_of_mem hnonterminal)
  have hcore : grammar.coreNonterminals = before ++ after := by
    rw [Grammar.coreNonterminals, hsplit, List.filter_append, List.filter_cons_of_neg,
      hothers before hnodup.1.1, hothers after hnodup.1.2]
    simp [Grammar.isAugmentedStart, hstart]
  refine ⟨before.length, productions, ?_⟩
  rw [Grammar.withStart, hcore, List.take_left, List.drop_left, ← hsplit]

/-- Where the augmenting start symbol stands and what productions it has does not show in the
numbering. -/
theorem SymbolTable.ofGrammar_withStart (h : ofGrammar grammar = .ok symbols)
    (hstart : grammar.augmentedStart? = some start) (position : Nat)
    (productions : List Production) :
    ofGrammar (grammar.withStart start position productions) = .ok symbols := by
  obtain ⟨hterminals, hnames, numbered, hnumbered, rfl⟩ := ofGrammar_ok h
  have hcore := Grammar.coreNonterminals_withStart hstart position productions
  -- the checks of names pass, and the productions are those that were numbered before
  have hnodup : ((grammar.withStart start position productions).nonterminals.map
      Nonterminal.name).Nodup := by
    rw [Grammar.withStart, List.map_append, List.map_cons, List.nodup_middle, ← List.map_append,
      List.take_append_drop, List.nodup_cons]
    -- the names of the others are as different as they were, and the symbol is not among them
    refine ⟨Grammar.start_not_mem_core hstart, ?_⟩
    exact (nodup_iff_firstRepeated.mpr hnames).sublist (List.filter_sublist.map _)
  have hdeclared : ∀ name, grammar.augmentedStart? = some name →
      name ∈ (grammar.withStart start position productions).nonterminals.map Nonterminal.name := by
    intro name hname
    cases hstart.symm.trans hname
    simp [Grammar.withStart]
  have hnumbered' : numberAll (grammar.terminals.map Terminal.name)
      ((grammar.withStart start position productions).coreNonterminals.map Nonterminal.name) 0
        (grammar.withStart start position productions).coreNonterminals = .ok numbered := by
    rw [hcore, hnumbered]
  have hok : ofGrammar (grammar.withStart start position productions) = .ok _ :=
    ofGrammar_eq_ok hdeclared hterminals (nodup_iff_firstRepeated.mp hnodup) hnumbered'
  rw [hok, hcore]
  rfl

theorem SymbolTable.augmentedStart?_of_ofGrammar (h : ofGrammar grammar = .ok symbols) :
    symbols.augmentedStart? = grammar.augmentedStart? := by
  obtain ⟨-, -, productions, -, rfl⟩ := ofGrammar_ok h
  rfl

end Numbering

/-! ## Tables -/

/-- Whether the move reduces a production of the nonterminal. -/
def Move.reducesTo (name : String) : Move → Bool
  | .reduce reference => reference.nonterminal = name
  | _ => false

theorem Move.reducesTo_iff {move : Move} {name : String} :
    move.reducesTo name = true ↔ ∃ ordinal, move = .reduce ⟨name, ordinal⟩ := by
  cases move with
  | shift target => simp [reducesTo]
  | accept => simp [reducesTo]
  | reduce reference =>
    cases reference
    simp [reducesTo]

/-- A state records a reduction to the nonterminal. -/
def Automaton.ReducesTo (automaton : Automaton) (s : StateId) (name : String) : Prop :=
  ∃ state terminal ordinal, automaton.state? s = some state ∧
    .reduce ⟨name, ordinal⟩ ∈ state.recorded terminal

/-- A state records a goto on the nonterminal. -/
def Automaton.HasGotoOn (automaton : Automaton) (s : StateId) (name : String) : Prop :=
  ∃ state target, automaton.state? s = some state ∧ (name, target) ∈ state.gotos

/-- The automaton without the reductions to the nonterminal. -/
def Automaton.withoutReductionsTo (automaton : Automaton) (name : String) : Automaton :=
  automaton.keeping (fun move => !move.reducesTo name) fun _ => true

/-- The automaton without the gotos on the nonterminal. -/
def Automaton.withoutGotosOn (automaton : Automaton) (name : String) : Automaton :=
  automaton.keeping (fun _ => true) fun goto => goto.1 ≠ name

namespace ParseTable

variable {symbols : SymbolTable} {automaton : Automaton} {start : String} {s : StateId}

/-- A nonterminal with a number is not the augmenting one. -/
theorem nonterminalName?_ne_start (hsymbols : symbols.WellFormed)
    (hstart : symbols.augmentedStart? = some start) (nonterminal : NonterminalId) :
    symbols.nonterminalName? nonterminal ≠ some start := fun hname =>
  hsymbols.not_augmenting start (List.mem_of_getElem? hname) hstart

/-- A reduction in a table is to the nonterminal of its production, which is not the augmenting
one. -/
theorem reduces_other_of_mem_cells (hsymbols : symbols.WellFormed)
    (hstart : symbols.augmentedStart? = some start) (hencodable : automaton.Encodable symbols)
    {production : ProductionId} {length : Nat} {nonterminal : NonterminalId}
    (hcell : .reduce production length nonterminal ∈ (tableOf symbols automaton).actions.cells) :
    ∃ entry name, symbols.production? production = some entry ∧
      entry.nonterminal = nonterminal ∧ symbols.nonterminalName? nonterminal = some name ∧
      name ≠ start := by
  rcases mem_cells_actions hsymbols hencodable hcell with herror |
    ⟨-, -, terminal, -, move, -, -, -, hencodes⟩
  · cases herror
  · cases hencodes with
    | @reduce reference _ entry hproduction hentry =>
      obtain ⟨name, hname⟩ := SymbolTable.exists_nonterminalName
        (hsymbols.numbers_nonterminal hentry)
      refine ⟨entry, name, hentry, rfl, hname, ?_⟩
      rintro rfl
      exact nonterminalName?_ne_start hsymbols hstart _ hname

/-! ## Rejected automata -/

theorem encodeMove_reduce_start (hstart : symbols.augmentedStart? = some start) (s : StateId)
    (name : String) (terminal : TerminalId) (ordinal : Nat) :
    encodeMove symbols automaton s name terminal (.reduce ⟨start, ordinal⟩) =
      .error (.augmentingReduce s) := by
  simp [encodeMove, SymbolTable.isAugmentedStart, hstart, throw, throwThe, MonadExceptOf.throw,
    bind, Except.bind]

/-- An automaton that reduces to the augmenting symbol is rejected for that, or for what it would be
rejected for without these reductions. -/
theorem rejected_of_reducesTo (hsymbols : symbols.WellFormed)
    (hstart : symbols.augmentedStart? = some start) (hreduces : automaton.ReducesTo s start)
    (errorOnConflicts : Bool) :
    (∃ s', automaton.ReducesTo s' start ∧
        encode symbols automaton errorOnConflicts = .error (.augmentingReduce s')) ∨
      ∃ cause, encode symbols automaton errorOnConflicts = .error cause ∧
        encode symbols (automaton.withoutReductionsTo start) false = .error cause := by
  -- a move that is accepted reduces a numbered production, and those of the symbol have none
  have hrejected : ∀ table, encode symbols automaton false ≠ .ok table := by
    intro table htable
    obtain ⟨state, terminal, ordinal, hstate, hmove⟩ := hreduces
    have hencodable := ((encode_eq_ok_iff hsymbols).mp htable).1
    exact (valid_of_mem_recorded (state_valid hencodable hstate) hmove).1 hstart
  have hequal : EqualUnless
      (fun cause => ∃ s', automaton.ReducesTo s' start ∧ cause = .augmentingReduce s')
      (encode symbols automaton false)
      (encode symbols (automaton.withoutReductionsTo start) false) := by
    -- the moves that are left out are errors wherever they stand
    refine encode_keeping ?_ ?_ false
    · intro s state name move hstate hmove hdropped terminal
      obtain ⟨ordinal, rfl⟩ := Move.reducesTo_iff.mp (by simpa using hdropped)
      exact ⟨.augmentingReduce s, encodeMove_reduce_start hstart s name terminal ordinal, s,
        ⟨state, name, ordinal, hstate, hmove⟩, rfl⟩
    · intro s state goto _ _ hdropped
      cases hdropped
  -- what is tolerated or refused only concerns conflicts, which come behind these errors
  rcases rejected_of_causes (fun cause => hequal.eq_error) hrejected errorOnConflicts with
    ⟨_, ⟨s', hreduces', rfl⟩, herror⟩ | hother
  · exact .inl ⟨s', hreduces', herror⟩
  · exact .inr hother

/-- An automaton with a goto on the augmenting symbol is rejected for that, or for what it would be
rejected for without these gotos. -/
theorem rejected_of_goto (hsymbols : symbols.WellFormed)
    (hstart : symbols.augmentedStart? = some start) (hgoto : automaton.HasGotoOn s start)
    (errorOnConflicts : Bool) :
    encode symbols automaton errorOnConflicts = .error (.unknownSymbol start) ∨
      ∃ cause, encode symbols automaton errorOnConflicts = .error cause ∧
        encode symbols (automaton.withoutGotosOn start) false = .error cause := by
  have hunnumbered : symbols.nonterminalId? start = none :=
    (SymbolTable.nonterminalId?_eq_none_iff hsymbols).mpr
      (nonterminalName?_ne_start hsymbols hstart)
  -- the gotos of an automaton that is accepted are all on numbered nonterminals
  have hrejected : ∀ table, encode symbols automaton false ≠ .ok table := by
    intro table htable
    obtain ⟨state, target, hstate, hmem⟩ := hgoto
    have hencodable := ((encode_eq_ok_iff hsymbols).mp htable).1
    obtain ⟨nonterminal, hname⟩ := (state_valid hencodable hstate).nonterminal_numbered _ hmem
    exact nonterminalName?_ne_start hsymbols hstart nonterminal hname
  have hequal : EqualUnless (fun cause => cause = .unknownSymbol start)
      (encode symbols automaton false)
      (encode symbols (automaton.withoutGotosOn start) false) := by
    refine encode_keeping ?_ ?_ false
    · intro s state name move _ _ hdropped
      cases hdropped
    · intro s state goto hstate hmem hdropped
      obtain rfl : goto.1 = start := by simpa using hdropped
      exact ⟨hunnumbered, rfl⟩
  rcases rejected_of_causes (fun cause => hequal.eq_error) hrejected errorOnConflicts with
    ⟨_, rfl, herror⟩ | hother
  · exact .inl herror
  · exact .inr hother

end ParseTable

/-! ## Generation -/

/-- **The augmenting start symbol leaves no trace.** A numbered grammar with such a symbol is one in
which the symbol stands somewhere among the other nonterminals and has some productions. With the
symbol in any place and with any productions, the grammar gets the same numbering, and with every
automaton it generates the same and makes the same parser. No nonterminal with a number has the name
of the symbol: neither a column of gotos nor a reduction in a table is for it. An automaton that
reduces to it is rejected for that, and one that has a goto on it for an unknown symbol, or else for
what there is to object to without these. -/
theorem augmenting_untraced {grammar : Grammar} {symbols : SymbolTable} {start : String}
    (h : SymbolTable.ofGrammar grammar = .ok symbols)
    (hstart : grammar.augmentedStart? = some start) :
    (∃ position productions, grammar = grammar.withStart start position productions) ∧
    (∀ position productions,
      SymbolTable.ofGrammar (grammar.withStart start position productions) = .ok symbols ∧
      ∀ automaton,
        (∀ options library,
          Generation.generate options (grammar.withStart start position productions) automaton
              library =
            Generation.generate options grammar automaton library) ∧
        ∀ errorOnConflicts library,
          Generation.parser (grammar.withStart start position productions) automaton
              errorOnConflicts library =
            Generation.parser grammar automaton errorOnConflicts library) ∧
    (∀ nonterminal, symbols.nonterminalName? nonterminal ≠ some start) ∧
    ∀ automaton errorOnConflicts,
      (∀ table, ParseTable.encode symbols automaton errorOnConflicts = .ok table →
        table.gotos.width = symbols.nonterminals.length ∧
        ∀ production length nonterminal,
          .reduce production length nonterminal ∈ table.actions.cells →
          ∃ entry name, symbols.production? production = some entry ∧
            entry.nonterminal = nonterminal ∧ symbols.nonterminalName? nonterminal = some name ∧
            name ≠ start) ∧
      (∀ s, automaton.ReducesTo s start →
        (∃ s', automaton.ReducesTo s' start ∧
          ParseTable.encode symbols automaton errorOnConflicts = .error (.augmentingReduce s')) ∨
        ∃ cause, ParseTable.encode symbols automaton errorOnConflicts = .error cause ∧
          ParseTable.encode symbols (automaton.withoutReductionsTo start) false = .error cause) ∧
      ∀ s, automaton.HasGotoOn s start →
        ParseTable.encode symbols automaton errorOnConflicts = .error (.unknownSymbol start) ∨
        ∃ cause, ParseTable.encode symbols automaton errorOnConflicts = .error cause ∧
          ParseTable.encode symbols (automaton.withoutGotosOn start) false = .error cause := by
  have hsymbols := SymbolTable.wellFormed_of_ofGrammar h
  have hstart' : symbols.augmentedStart? = some start :=
    (SymbolTable.augmentedStart?_of_ofGrammar h).trans hstart
  refine ⟨SymbolTable.exists_eq_withStart h hstart, fun position productions => ?_,
    ParseTable.nonterminalName?_ne_start hsymbols hstart', fun automaton errorOnConflicts => ?_⟩
  · have hother := SymbolTable.ofGrammar_withStart h hstart position productions
    -- a grammar is numbered, and from then on only the numbering is looked at
    have hnumber : Generation.number (grammar.withStart start position productions) =
        Generation.number grammar := by
      rw [Generation.number, Generation.number, h, hother]
    refine ⟨hother, fun automaton =>
      ⟨fun options library => ?_, fun errorOnConflicts library => ?_⟩⟩
    · rw [Generation.generate, Generation.generate, hnumber]
    · rw [Generation.parser, Generation.parser, hnumber]
  · refine ⟨fun table htable => ?_, fun s hreduces => ?_, fun s hgoto => ?_⟩
    · obtain ⟨hencodable, rfl, -⟩ := (ParseTable.encode_eq_ok_iff hsymbols).mp htable
      exact ⟨rfl, fun production length nonterminal hcell =>
        ParseTable.reduces_other_of_mem_cells hsymbols hstart' hencodable hcell⟩
    · exact ParseTable.rejected_of_reducesTo hsymbols hstart' hreduces errorOnConflicts
    · exact ParseTable.rejected_of_goto hsymbols hstart' hgoto errorOnConflicts

namespace Statements

/-- The automaton of statements, but it reduces the augmenting symbol instead of accepting. -/
def reducing : Automaton where
  states := automaton.states.set 1
    { symbol? := some "Stmts"
      actions := [("EOF", [.reduce ⟨"S'", 0⟩]), ("Num", [.shift ⟨2⟩])]
      gotos := [("Stmt", ⟨3⟩)] }

/-- The automaton of statements, but its start has a goto on the augmenting symbol. -/
def leaving : Automaton where
  states := automaton.states.set 0
    { actions := [("EOF", [.reduce ⟨"Stmts", 1⟩]), ("Num", [.reduce ⟨"Stmts", 1⟩])]
      gotos := [("S'", ⟨1⟩), ("Stmts", ⟨1⟩)] }

end Statements

/-- The grammar of statements may have its augmenting symbol at the end, with a production that
refers to nothing. -/
theorem augmenting_untraced_statements :
    SymbolTable.ofGrammar Statements.grammar = .ok Statements.symbols ∧
    Statements.grammar.augmentedStart? = some "S'" ∧
    SymbolTable.ofGrammar (Statements.grammar.withStart "S'" 2 [⟨[.nonterminal "missing"]⟩]) =
      .ok Statements.symbols ∧
    (∃ s, ParseTable.encode Statements.symbols Statements.reducing true =
      .error (.augmentingReduce s)) ∧
    ParseTable.encode Statements.symbols Statements.leaving true =
      .error (.unknownSymbol "S'") := by
  obtain ⟨-, hnumbered, -, htables⟩ := augmenting_untraced Statements.ofGrammar_grammar rfl
  have hreduces : Statements.reducing.ReducesTo ⟨1⟩ "S'" := ⟨_, "EOF", 0, rfl, by decide⟩
  have hgoto : Statements.leaving.HasGotoOn ⟨0⟩ "S'" := ⟨_, ⟨1⟩, rfl, by decide⟩
  refine ⟨rfl, rfl, (hnumbered 2 _).1, ?_, ?_⟩
  · rcases (htables Statements.reducing true).2.1 ⟨1⟩ hreduces with ⟨s, -, herror⟩ |
      ⟨cause, -, hother⟩
    · exact ⟨s, herror⟩
    · cases hother
  · rcases (htables Statements.leaving true).2.2 ⟨0⟩ hgoto with herror | ⟨cause, -, hother⟩
    · exact herror
    · cases hother

end ParserFoundry
