import ParserFoundry.Proofs.Parser.Cells
import ParserFoundry.Proofs.Table.Changes
import ParserFoundry.Proofs.Table.ConflictAccounting
/-!
# Tolerated and Refused Conflicts

What changes where conflicts are an error: a malformed automaton is reported in the same way, an
automaton without conflicts gets the same table, and the conflicts that would be tolerated are the
ones reported. An automaton whose cells are decided in advance, each for the move that is recorded
first, has the same table without the conflicts.

Main results:
- `encode_true`: refusing conflicts is tolerating them first.
- `malformed_encode`: no malformation is reported as conflicts.
- `tableOf_decided`: the table of a decided automaton.
- `conflicts_only_refused`: both ways of encoding compared.
-/

namespace ParserFoundry

/-! ## Decided automata -/

namespace State

/-- Entries that keep the first move for each terminal only; the terminals in `settled` have had
theirs. -/
def firstMoves (settled : List String) : List (String × List Move) → List (String × List Move)
  | [] => []
  | (name, moves) :: rest =>
    (name, if name ∈ settled then [] else moves.take 1) ::
      firstMoves (if moves.isEmpty then settled else name :: settled) rest

/-- The state with only the first move recorded for each terminal. -/
def decided (state : State) : State :=
  { state with actions := firstMoves [] state.actions }

end State

/-- The automaton with only the first move recorded for each state and terminal. -/
def Automaton.decided (automaton : Automaton) : Automaton :=
  automaton.mapStates fun _ => State.decided

variable {symbols : SymbolTable} {automaton : Automaton} {state : State} {name : String}

/-- Of entries that keep the first moves, nothing is recorded for a settled terminal, and the first
move for any other. -/
theorem recorded_firstMoves (name : String) (settled : List String)
    (entries : List (String × List Move)) :
    ((State.firstMoves settled entries).filter fun entry => entry.1 = name).flatMap Prod.snd =
      if name ∈ settled then []
      else ((entries.filter fun entry => entry.1 = name).flatMap Prod.snd).take 1 := by
  -- an entry of the terminal settles it, unless the entry has no moves
  induction entries generalizing settled with
  | nil => simp [State.firstMoves]
  | cons entry rest ih =>
    obtain ⟨other, moves⟩ := entry
    rw [State.firstMoves]
    by_cases hname : other = name
    · subst hname
      cases moves with
      | nil => simp [ih]
      | cons first later => by_cases hsettled : other ∈ settled <;> simp [ih, hsettled]
    · -- what is settled by an entry of another terminal does not matter
      cases moves with
      | nil => simp [ih, hname]
      | cons first later => simp [ih, hname, Ne.symm hname]

/-- Of what is recorded for a terminal, the first move is left. -/
theorem State.recorded_decided (state : State) (name : String) :
    state.decided.recorded name = (state.recorded name).take 1 := by
  have h := recorded_firstMoves name [] state.actions
  rwa [if_neg List.not_mem_nil] at h

/-- The states that are decided keep their accessing symbols. -/
theorem State.symbol?_decided (_ : StateId) (state : State) :
    state.decided.symbol? = state.symbol? :=
  rfl

/-- Terminals are kept, and moves are only taken away. -/
theorem mem_firstMoves {settled : List String} {entries : List (String × List Move)}
    {entry : String × List Move} (h : entry ∈ State.firstMoves settled entries) :
    ∃ moves, (entry.1, moves) ∈ entries ∧ entry.2 ⊆ moves := by
  -- along the entries, whatever has been settled before them
  induction entries generalizing settled with
  | nil => cases h
  | cons first rest ih =>
    obtain ⟨other, moves⟩ := first
    rw [State.firstMoves] at h
    rcases List.mem_cons.mp h with rfl | hrest
    · refine ⟨moves, List.mem_cons_self, ?_⟩
      dsimp only
      split
      · exact List.nil_subset _
      · exact List.take_subset 1 moves
    · obtain ⟨moves', hmem, hsubset⟩ := ih hrest
      exact ⟨moves', List.mem_cons_of_mem _ hmem, hsubset⟩

/-- A move stays valid, as the states keep their symbols. -/
theorem Move.valid_decided {move : Move} (hvalid : move.Valid symbols automaton name) :
    move.Valid symbols automaton.decided name :=
  (Move.valid_mapStates State.symbol?_decided).mpr hvalid

/-- A state stays valid when moves are taken away. -/
theorem State.Valid.decided (hvalid : state.Valid symbols automaton) :
    state.decided.Valid symbols automaton.decided := by
  constructor
  case terminal_numbered =>
    intro entry hentry
    obtain ⟨moves, hmem, -⟩ := mem_firstMoves hentry
    exact hvalid.terminal_numbered (entry.1, moves) hmem
  case moves_valid =>
    intro entry hentry move hmove
    obtain ⟨moves, hmem, hsubset⟩ := mem_firstMoves hentry
    exact Move.valid_decided (hvalid.moves_valid (entry.1, moves) hmem move (hsubset hmove))
  case nonterminal_numbered => exact hvalid.nonterminal_numbered
  case gotos_enter =>
    intro goto hgoto
    exact (entersOn_mapStates State.symbol?_decided).mpr (hvalid.gotos_enter goto hgoto)
  case gotos_agree => exact hvalid.gotos_agree

/-- So what could be encoded still can be. -/
theorem Automaton.Encodable.decided (hencodable : automaton.Encodable symbols) :
    automaton.decided.Encodable symbols := by
  constructor
  case has_state => exact mt Automaton.mapStates_eq_nil_iff.mp hencodable.has_state
  case states_valid =>
    intro state hstate
    obtain ⟨i, hi, rfl⟩ := List.mem_mapIdx.mp hstate
    exact (hencodable.states_valid _ (List.getElem_mem hi)).decided

namespace ParseTable

/-! ## Tables of decided automata -/

/-- A single candidate is in conflict with nothing. -/
theorem cellConflicts_take_one (s : StateId) (terminal : TerminalId) (actions : List Action) :
    cellConflicts s terminal (actions.take 1) = {} := by
  cases actions <;> rfl

/-- Cells without conflicts have none together. -/
theorem foldl_append_empty {β : Type} (values : List β) :
    values.foldl (fun found _ => found ++ ({} : Conflicts)) {} = {} := by
  induction values with
  | nil => rfl
  | cons value rest ih => exact ih

/-- The candidate of a decided cell is the first one of the cell before. -/
theorem candidates_decided (hsymbols : symbols.WellFormed) (hvalid : state.Valid symbols automaton)
    {terminal : TerminalId} (hname : symbols.terminalName? terminal = some name) :
    candidates (symbols.actionsOf state.decided.actions) terminal =
      (candidates (symbols.actionsOf state.actions) terminal).take 1 := by
  rw [candidates_actionsOf hsymbols hvalid hname,
    candidates_actionsOf hsymbols hvalid.decided hname, State.recorded_decided, eraseDups_take_one,
    List.map_take]

/-- The row of a decided state has the same cells, and no conflicts. -/
theorem rowOf_decided (hsymbols : symbols.WellFormed) (hvalid : state.Valid symbols automaton)
    (s : StateId) :
    rowOf symbols s state.decided = { rowOf symbols s state with conflicts := {} } := by
  have hcells : symbols.terminalIds.map (fun terminal =>
      (terminal, candidates (symbols.actionsOf state.decided.actions) terminal)) =
      symbols.terminalIds.map fun terminal =>
        (terminal, (candidates (symbols.actionsOf state.actions) terminal).take 1) := by
    refine List.map_congr_left fun terminal hterminal => ?_
    obtain ⟨name, hname⟩ :=
      SymbolTable.exists_terminalName (SymbolTable.mem_terminalIds.mp hterminal)
    rw [candidates_decided hsymbols hvalid hname]
  -- a cell shows the first of its candidates, and whether there is one
  have hempty : ∀ actions : List Action, (actions.take 1).isEmpty = actions.isEmpty := by
    intro actions
    cases actions <;> rfl
  simp only [rowOf, hcells, List.map_map, Function.comp_def, List.head?_take, hempty,
    List.foldl_map, cellConflicts_take_one, foldl_append_empty]
  rfl

/-- Row by row, only the conflicts are gone. -/
theorem rowsOf_decided (hsymbols : symbols.WellFormed) (hencodable : automaton.Encodable symbols) :
    rowsOf symbols 0 automaton.decided.states =
      (rowsOf symbols 0 automaton.states).map fun row => { row with conflicts := {} } := by
  refine List.ext_getElem? fun i => ?_
  have hdecided := Automaton.state?_mapStates automaton (fun _ => State.decided) ⟨i⟩
  rw [List.getElem?_map, getElem?_rowsOf_eq ⟨i⟩, getElem?_rowsOf_eq ⟨i⟩, Automaton.decided,
    hdecided]
  -- at every number there is a row in both tables or in neither
  cases hstate : automaton.state? ⟨i⟩ with
  | none => rfl
  | some state =>
    simp only [Option.map_some, rowOf_decided hsymbols (state_valid hencodable hstate)]

/-- A decided automaton has no conflicts. -/
theorem conflictsOf_decided (hsymbols : symbols.WellFormed)
    (hencodable : automaton.Encodable symbols) : conflictsOf symbols automaton.decided = {} := by
  rw [conflictsOf, rowsOf_decided hsymbols hencodable, List.foldl_map]
  exact foldl_append_empty _

/-- The table of a decided automaton lacks the conflicts, and is the same otherwise. -/
theorem tableOf_decided (hsymbols : symbols.WellFormed) (hencodable : automaton.Encodable symbols) :
    tableOf symbols automaton.decided = { tableOf symbols automaton with conflicts? := none } := by
  have hsymbol : automaton.decided.states.map State.symbol? =
      automaton.states.map State.symbol? :=
    Automaton.map_symbol?_mapStates State.symbol?_decided
  rw [tableOf, conflictsOf_decided hsymbols hencodable, ofRows, rowsOf_decided hsymbols hencodable,
    hsymbol]
  simp only [List.map_map]
  rfl

/-! ## Malformations -/

/-- An error that is not about conflicts. -/
def Malformed : EncodingError → Prop
  | .conflicts _ => False
  | _ => True

/-- A malformation is not about conflicts. -/
theorem Malformed.ne_conflicts {cause : EncodingError} (h : Malformed cause) (found : Conflicts) :
    cause ≠ .conflicts found := by
  rintro rfl
  exact h

/-- A transition is refused for what it leads to. -/
theorem malformed_checkTransition (source : StateId) (name : String) (target : StateId) :
    ErrorsIn Malformed (checkTransition automaton source name target) := by
  rw [checkTransition]
  cases automaton.state? target with
  | none => exact .of_error trivial
  | some reached =>
    dsimp only
    cases reached.symbol? with
    | none => exact .of_ok _
    | some entered =>
      dsimp only
      by_cases hentered : entered = name
      · rw [if_pos hentered]
        exact .of_ok _
      · rw [if_neg hentered]
        exact .of_error trivial

/-- A move is refused for its transition or its production. -/
theorem malformed_encodeMove (source : StateId) (terminal : TerminalId) (move : Move) :
    ErrorsIn Malformed (encodeMove symbols automaton source name terminal move) := by
  -- only reductions look anything up besides the state that they lead to
  cases move with
  | shift target => exact (malformed_checkTransition source name target).bind fun _ => .of_ok _
  | accept => exact .of_ok _
  | reduce reference =>
    rw [encodeMove]
    cases symbols.isAugmentedStart reference.nonterminal with
    | true => exact .of_error trivial
    | false =>
      cases symbols.productionRef? reference.nonterminal reference.ordinal with
      | none => exact .of_error trivial
      | some id =>
        dsimp only
        cases symbols.production? id with
        | none => exact .of_error trivial
        | some entry => exact .of_ok _

/-- Entries are refused for a terminal or for one of their moves. -/
theorem malformed_encodeEntries (source : StateId) (entries : List (String × List Move)) :
    ErrorsIn Malformed (encodeEntries symbols automaton source entries) := by
  -- entry by entry, and within it move by move
  induction entries with
  | nil => exact .of_ok _
  | cons entry rest ih =>
    obtain ⟨name, moves⟩ := entry
    rw [encodeEntries]
    cases symbols.terminalId? name with
    | none => exact .of_error trivial
    | some terminal =>
      have hown : ErrorsIn Malformed
          (moves.mapM (encodeMove symbols automaton source name terminal)) :=
        ErrorsIn.mapM (malformed_encodeMove source terminal) moves
      exact hown.bind fun _ => ih.bind fun _ => .of_ok _

/-- Gotos are refused for a nonterminal, a transition, or a goto before them. -/
theorem malformed_encodeGotos (source : StateId) (earlier : List (NonterminalId × StateId))
    (gotos : List (String × StateId)) :
    ErrorsIn Malformed (encodeGotos symbols automaton source earlier gotos) := by
  induction gotos generalizing earlier with
  | nil => exact .of_ok _
  | cons goto rest ih =>
    obtain ⟨name, target⟩ := goto
    rw [encodeGotos]
    cases symbols.nonterminalId? name with
    | none => exact .of_error trivial
    | some nonterminal =>
      refine (malformed_checkTransition source name target).bind fun _ => ?_
      cases earlier.any fun goto => goto.1 = nonterminal ∧ goto.2 ≠ target with
      | true => exact .of_error trivial
      | false => exact ih _

/-- States are refused for one of their entries or gotos. -/
theorem malformed_encodeStates (first : Nat) (states : List State) :
    ErrorsIn Malformed (encodeStates symbols automaton first states) := by
  -- state by state; the first that is refused decides
  induction states generalizing first with
  | nil => exact .of_ok _
  | cons state rest ih =>
    have hstate : ErrorsIn Malformed (encodeState symbols automaton ⟨first⟩ state) :=
      (malformed_encodeEntries _ _).bind fun _ =>
        (malformed_encodeGotos _ _ _).bind fun _ => .of_ok _
    exact hstate.bind fun _ => (ih _).bind fun _ => .of_ok _

/-- Where conflicts are tolerated, all errors are malformations. -/
theorem malformed_encode : ErrorsIn Malformed (encode symbols automaton false) := by
  by_cases hstates : automaton.states = []
  · rw [encode_of_eq_nil hstates]
    exact .of_error trivial
  · rw [encode_of_ne_nil hstates]
    refine (malformed_encodeStates _ _).bind fun rows => ?_
    -- the conflicts are found last, and tolerated
    simp only [ofEncodedRows]
    split
    · exact .of_ok _
    · exact .of_ok _

/-! ## Both ways of encoding -/

/-- The table, if no conflicts were tolerated. -/
def refuseConflicts (table : ParseTable) : Except EncodingError ParseTable :=
  match table.conflicts? with
  | none => .ok table
  | some found => .error (.conflicts found)

/-- Of the finished rows, conflicts alone are looked at once more. -/
theorem ofEncodedRows_true (rows : List Row) :
    ofEncodedRows symbols automaton true rows =
      ofEncodedRows symbols automaton false rows >>= refuseConflicts := by
  simp only [ofEncodedRows]
  split
  · rfl
  · rfl

/-- Conflicts are looked at when all else has been checked: to refuse them is to tolerate them
first. -/
theorem encode_true (symbols : SymbolTable) (automaton : Automaton) :
    encode symbols automaton true = encode symbols automaton false >>= refuseConflicts := by
  -- without states both modes fail alike, and with states they differ in the last check
  by_cases hstates : automaton.states = []
  · simp only [encode_of_eq_nil hstates]
    rfl
  · have hrows : ofEncodedRows symbols automaton true = fun rows =>
        ofEncodedRows symbols automaton false rows >>= refuseConflicts :=
      funext ofEncodedRows_true
    rw [encode_of_ne_nil hstates, encode_of_ne_nil hstates, bind_assoc, hrows]

/-- A malformation is reported in either mode. -/
theorem encode_eq_error {cause : EncodingError}
    (h : encode symbols automaton false = .error cause) (errorOnConflicts : Bool) :
    encode symbols automaton errorOnConflicts = .error cause := by
  cases errorOnConflicts with
  | false => exact h
  | true =>
    rw [encode_true, h]
    rfl

/-- If the errors of an automaton are of one kind, or else those of another automaton, this goes for
the way in which it is rejected where conflicts are refused, too. -/
theorem rejected_of_causes {kind : EncodingError → Prop} {other : Automaton}
    (hcauses : ∀ cause, encode symbols automaton false = .error cause →
      kind cause ∨ encode symbols other false = .error cause)
    (hrejected : ∀ table, encode symbols automaton false ≠ .ok table) (errorOnConflicts : Bool) :
    (∃ cause, kind cause ∧ encode symbols automaton errorOnConflicts = .error cause) ∨
      ∃ cause, encode symbols automaton errorOnConflicts = .error cause ∧
        encode symbols other false = .error cause := by
  cases htolerant : encode symbols automaton false with
  | ok table => exact absurd htolerant (hrejected table)
  | error cause =>
    have herror := encode_eq_error htolerant errorOnConflicts
    rcases hcauses cause htolerant with hkind | hother
    · exact .inl ⟨cause, hkind, herror⟩
    · exact .inr ⟨cause, herror, hother⟩

/-- **Refused conflicts.** What is an error where conflicts are tolerated is the same error where
they are refused, and never an error about conflicts. An automaton without conflicts gets the same
table. The conflicts of any other automaton are reported as they would have been tolerated; when
all moves of the automaton but the first one recorded for each cell are left out, it gets the same
table, without the conflicts. -/
theorem conflicts_only_refused {grammar : Grammar}
    (hsymbols : SymbolTable.ofGrammar grammar = .ok symbols) (automaton : Automaton) :
    (∀ cause, encode symbols automaton false = .error cause →
      encode symbols automaton true = .error cause ∧ ∀ found, cause ≠ .conflicts found) ∧
    ∀ table, encode symbols automaton false = .ok table →
      (table.conflicts? = none → encode symbols automaton true = .ok table) ∧
      ∀ found, table.conflicts? = some found →
        encode symbols automaton true = .error (.conflicts found) ∧
        (∀ state name, State.recorded (State.decided state) name =
          (State.recorded state name).take 1) ∧
        encode symbols automaton.decided true = .ok { table with conflicts? := none } := by
  have hwellFormed := SymbolTable.wellFormed_of_ofGrammar hsymbols
  refine ⟨fun cause hcause => ⟨encode_eq_error hcause true,
    (malformed_encode cause hcause).ne_conflicts⟩, ?_⟩
  intro table htable
  -- the two modes differ in one check, which is made of the finished table
  have hstrict : encode symbols automaton true = refuseConflicts table := by
    rw [encode_true, htable]
    rfl
  refine ⟨fun hnone => by rw [hstrict, refuseConflicts, hnone], fun found hfound => ?_⟩
  refine ⟨by rw [hstrict, refuseConflicts, hfound], State.recorded_decided, ?_⟩
  obtain ⟨hencodable, rfl, -⟩ := (encode_eq_ok_iff hwellFormed).mp htable
  refine (encode_eq_ok_iff hwellFormed).mpr ⟨hencodable.decided, ?_, fun _ => ?_⟩
  · exact (tableOf_decided hwellFormed hencodable).symm
  · rw [conflictsOf_decided hwellFormed hencodable]
    rfl

/-- The automaton with three moves on a number in one cell is refused for its three conflicts, and
accepted with the first of the moves alone. -/
theorem conflicts_only_refused_ambiguous :
    SymbolTable.ofGrammar Statements.grammar = .ok Statements.symbols ∧
    ∃ table, encode Statements.symbols Statements.ambiguous false = .ok table ∧
      encode Statements.symbols Statements.ambiguous true = .error (.conflicts
        { shiftReduce := [(⟨2⟩, ⟨1⟩, ⟨1⟩), (⟨2⟩, ⟨2⟩, ⟨1⟩)]
          reduceReduce := [(⟨1⟩, ⟨2⟩, ⟨1⟩)] }) ∧
      encode Statements.symbols Statements.ambiguous.decided true =
        .ok { table with conflicts? := none } := by
  have hcompared := conflicts_only_refused Statements.ofGrammar_grammar Statements.ambiguous
  obtain ⟨hrefused, -, hdecided⟩ := (hcompared.2 _ rfl).2 _ rfl
  exact ⟨rfl, _, rfl, hrefused, hdecided⟩

end ParseTable

end ParserFoundry
