import Mathlib.Data.List.Forall2
import ParserFoundry.Proofs.Parser.Cells
import ParserFoundry.Proofs.Table.Exactness
/-!
# Recordings

An engine makes a state call by call, with recordings of moves and gotos in any order. The state
groups the moves by their terminals, and the encoder groups them once more by the numbers of the
terminals. Neither of them changes what is recorded for a terminal, nor its order, and this is all
that the encoder reads: a state is as good as one that keeps every recording in an entry of its own.

Main results:
- `State.actions_ofRecordings`: the entries of a state that is made call by call.
- `encode_alike`: automata that record alike have the same tables.
- `encode_ofRecordings`: states made call by call, and those with an entry for each call.
-/

namespace ParserFoundry

/-! ## States made call by call -/

/-- What a call adds to a state. -/
inductive Recording where
  | move (terminal : String) (move : Move)
  | goto (nonterminal : String) (target : StateId)
deriving DecidableEq, Repr

namespace Recording

/-- The moves among recordings, each with its terminal. -/
def moves (recordings : List Recording) : List (String × Move) :=
  recordings.filterMap fun
    | .move terminal candidate => some (terminal, candidate)
    | .goto .. => none

/-- The gotos among recordings. -/
def gotos (recordings : List Recording) : List (String × StateId) :=
  recordings.filterMap fun
    | .move .. => none
    | .goto nonterminal target => some (nonterminal, target)

/-- The moves on one terminal among recordings. -/
def movesOn (name : String) (recordings : List Recording) : List Move :=
  ((moves recordings).filter fun call => call.1 = name).map Prod.snd

/-- The terminals of recordings, in the order in which they are first mentioned. -/
def terminals (recordings : List Recording) : List String :=
  ((moves recordings).map Prod.fst).eraseDups

/-- A move adds to those on its own terminal, and to no others. -/
theorem movesOn_concat (name : String) (recordings : List Recording) (terminal : String)
    (move : Move) :
    movesOn name (recordings ++ [.move terminal move]) =
      movesOn name recordings ++ if terminal = name then [move] else [] := by
  -- either the move is on the terminal, or both sides stay as they were
  by_cases hname : terminal = name
  · simp [movesOn, moves, hname]
  · simp [movesOn, moves, hname]

/-- A terminal that is mentioned again keeps its place. -/
theorem terminals_concat (recordings : List Recording) (terminal : String) (move : Move) :
    terminals (recordings ++ [.move terminal move]) =
      if terminal ∈ terminals recordings then terminals recordings
      else terminals recordings ++ [terminal] := by
  have hmoves : (moves (recordings ++ [.move terminal move])).map Prod.fst =
      (moves recordings).map Prod.fst ++ [terminal] := by
    simp [moves]
  simp only [terminals, hmoves, eraseDups_concat, List.mem_eraseDups]

/-- On a terminal that is not mentioned there are no moves. -/
theorem movesOn_eq_nil {name : String} {recordings : List Recording}
    (h : name ∉ terminals recordings) : movesOn name recordings = [] := by
  rw [terminals, List.mem_eraseDups] at h
  refine List.map_eq_nil_iff.mpr (List.filter_eq_nil_iff.mpr fun call hcall => ?_)
  rw [decide_eq_true_eq]
  exact fun hname => h (hname ▸ List.mem_map_of_mem hcall)

/-- Every terminal is mentioned in one place. -/
theorem nodup_terminals (recordings : List Recording) : (terminals recordings).Nodup :=
  nodup_eraseDups _

end Recording

namespace State

def record (state : State) : Recording → State
  | .move terminal move => state.recordMove terminal move
  | .goto nonterminal target => state.recordGoto nonterminal target

/-- The state that calls make of a new one. -/
def ofRecordings (symbol? : Option String) (recordings : List Recording) : State :=
  recordings.foldl record { symbol? }

/-- The state with an entry of its own for each call. -/
def separate (symbol? : Option String) (recordings : List Recording) : State where
  symbol? := symbol?
  actions := (Recording.moves recordings).map fun call => (call.1, [call.2])
  gotos := Recording.gotos recordings

variable {symbol? : Option String} {recordings : List Recording}

/-- The last call adds to what the calls before it have made. -/
theorem ofRecordings_concat (recordings : List Recording) (last : Recording) :
    ofRecordings symbol? (recordings ++ [last]) =
      (ofRecordings symbol? recordings).record last := by
  rw [ofRecordings, List.foldl_append, List.foldl_cons, List.foldl_nil, ← ofRecordings]

/-- A candidate joins the entry of its terminal, or opens one at the end. -/
theorem joinCandidate_map {names : List String} (hnames : names.Nodup) (moves : String → List Move)
    (terminal : String) (move : Move) :
    joinCandidate terminal move (names.map fun name => (name, moves name)) =
      if terminal ∈ names then
        names.map fun name => (name, moves name ++ if terminal = name then [move] else [])
      else names.map (fun name => (name, moves name)) ++ [(terminal, [move])] := by
  -- along the entries, of which at most one is for the terminal
  induction names with
  | nil => rfl
  | cons first rest ih =>
    obtain ⟨hfirst, hrest⟩ := List.nodup_cons.mp hnames
    rw [List.map_cons, joinCandidate]
    by_cases hjoin : first = terminal
    · -- the entries behind the one that is joined are of other terminals
      subst hjoin
      have hothers : ∀ name ∈ rest, (name, moves name) =
          (name, moves name ++ if first = name then [move] else []) := by
        intro name hmem
        have hne : first ≠ name := fun heq => hfirst (heq ▸ hmem)
        rw [if_neg hne, List.append_nil]
      rw [if_pos rfl, if_pos List.mem_cons_self, List.map_cons, if_pos rfl,
        List.map_congr_left hothers]
    · have hother : terminal ≠ first := Ne.symm hjoin
      rw [if_neg hjoin, ih hrest]
      by_cases hmem : terminal ∈ rest
      · rw [if_pos hmem, if_pos (List.mem_cons_of_mem _ hmem), List.map_cons, if_neg hother,
          List.append_nil]
      · rw [if_neg hmem, if_neg (List.not_mem_cons_of_ne_of_not_mem hother hmem),
          List.cons_append]

/-- The entries of a state that is made call by call: one for each terminal, in the order in which
the terminals are first mentioned, with the moves of all calls on the terminal in order. -/
theorem actions_ofRecordings (symbol? : Option String) (recordings : List Recording) :
    (ofRecordings symbol? recordings).actions =
      (Recording.terminals recordings).map fun name =>
        (name, Recording.movesOn name recordings) := by
  -- from the back, because a call adds to what the calls in front of it have made
  induction recordings using List.reverseRecOn with
  | nil => rfl
  | append_singleton recordings last ih =>
    rw [ofRecordings_concat]
    cases last with
    | goto nonterminal target =>
      have hsame : Recording.moves (recordings ++ [.goto nonterminal target]) =
          Recording.moves recordings := by
        simp [Recording.moves]
      simp only [Recording.terminals, Recording.movesOn, hsame]
      exact ih
    | move terminal move =>
      simp only [record, recordMove, ih, joinCandidate_map (Recording.nodup_terminals recordings),
        Recording.terminals_concat, Recording.movesOn_concat]
      by_cases hmem : terminal ∈ Recording.terminals recordings
      · rw [if_pos hmem, if_pos hmem]
      · -- the terminal is new, so that nothing has been recorded for it
        have hothers : ∀ name ∈ Recording.terminals recordings,
            (name, Recording.movesOn name recordings ++ if terminal = name then [move] else []) =
              (name, Recording.movesOn name recordings) := by
          intro name hname
          have hne : terminal ≠ name := fun heq => hmem (heq ▸ hname)
          rw [if_neg hne, List.append_nil]
        rw [if_neg hmem, if_neg hmem, List.map_append, List.map_congr_left hothers,
          List.map_singleton, if_pos rfl, Recording.movesOn_eq_nil hmem, List.nil_append]

/-- Gotos are kept one by one, in their order. -/
theorem gotos_ofRecordings (symbol? : Option String) (recordings : List Recording) :
    (ofRecordings symbol? recordings).gotos = Recording.gotos recordings := by
  -- from the back, one call at a time
  induction recordings using List.reverseRecOn with
  | nil => rfl
  | append_singleton recordings last ih =>
    rw [ofRecordings_concat]
    cases last with
    | move terminal move => simpa [record, recordMove, Recording.gotos] using ih
    | goto nonterminal target => simpa [record, recordGoto, Recording.gotos] using ih

/-- No call changes the symbol that a state is entered on. -/
theorem symbol?_ofRecordings (symbol? : Option String) (recordings : List Recording) :
    (ofRecordings symbol? recordings).symbol? = symbol? := by
  -- neither kind of call touches the symbol
  induction recordings using List.reverseRecOn with
  | nil => rfl
  | append_singleton recordings last ih =>
    rw [ofRecordings_concat]
    cases last with
    | move terminal move => exact ih
    | goto nonterminal target => exact ih

/-! ## States that record alike -/

/-- Two states that mention the same terminals, and record the same for each of them and the same
gotos. -/
structure RecordsAlike (first second : State) : Prop where
  symbol_eq : first.symbol? = second.symbol?
  terminals_eq : ∀ name, name ∈ first.actions.map Prod.fst ↔ name ∈ second.actions.map Prod.fst
  recorded_eq : ∀ name, first.recorded name = second.recorded name
  gotos_eq : first.gotos = second.gotos

/-- Neither state is distinguished: to record alike is mutual. -/
theorem RecordsAlike.symm {first second : State} (h : first.RecordsAlike second) :
    second.RecordsAlike first :=
  ⟨h.symbol_eq.symm, fun name => (h.terminals_eq name).symm, fun name => (h.recorded_eq name).symm,
    h.gotos_eq.symm⟩

/-- What is recorded for a terminal in entries for different terminals. -/
theorem recorded_map {names : List String} (hnames : names.Nodup) (moves : String → List Move)
    (name : String) :
    ((names.map fun name => (name, moves name)).filter fun entry => entry.1 = name).flatMap
        Prod.snd =
      if name ∈ names then moves name else [] := by
  -- along the entries; the names are different, so only one of them counts
  induction names with
  | nil => rfl
  | cons first rest ih =>
    obtain ⟨hfirst, hrest⟩ := List.nodup_cons.mp hnames
    by_cases hname : first = name
    · subst hname
      simp [ih hrest, hfirst]
    · simp [ih hrest, hname, Ne.symm hname]

/-- What a state has recorded for a terminal are the moves of the calls on it, in order. -/
theorem recorded_ofRecordings (name : String) :
    (ofRecordings symbol? recordings).recorded name = Recording.movesOn name recordings := by
  rw [recorded, actions_ofRecordings, recorded_map (Recording.nodup_terminals recordings)]
  split
  · rfl
  · rename_i hmem
    exact (Recording.movesOn_eq_nil hmem).symm

/-- So it is with an entry for each call. -/
theorem recorded_separate (name : String) :
    (separate symbol? recordings).recorded name = Recording.movesOn name recordings := by
  rw [recorded, separate, Recording.movesOn, List.filter_map, List.flatMap_map]
  exact List.flatMap_pure_eq_map Prod.snd _

/-- Grouping the moves by their terminals keeps what is recorded. -/
theorem recordsAlike_separate (symbol? : Option String) (recordings : List Recording) :
    (ofRecordings symbol? recordings).RecordsAlike (separate symbol? recordings) := by
  constructor
  case symbol_eq => exact symbol?_ofRecordings symbol? recordings
  case terminals_eq =>
    intro name
    rw [actions_ofRecordings, separate, List.map_map, List.map_map]
    simp [Function.comp_def, Recording.terminals]
  case recorded_eq =>
    intro name
    rw [recorded_ofRecordings, recorded_separate]
  case gotos_eq => exact gotos_ofRecordings symbol? recordings

end State

/-! ## Automata that record alike -/

variable {symbols : SymbolTable} {automaton other : Automaton} {first second : State}

/-- Two automata whose states record alike, one by one. -/
def Automaton.RecordsAlike (automaton other : Automaton) : Prop :=
  List.Forall₂ State.RecordsAlike automaton.states other.states

namespace Automaton.RecordsAlike

/-- Nor is either automaton. -/
theorem symm (h : automaton.RecordsAlike other) : other.RecordsAlike automaton :=
  List.Forall₂.flip (List.Forall₂.imp (fun _ _ => State.RecordsAlike.symm) h)

/-- A state of the one automaton has its counterpart in the other one, at the same number. -/
theorem exists_alike (h : automaton.RecordsAlike other) {s : StateId} {state : State}
    (hstate : automaton.state? s = some state) :
    ∃ state', other.state? s = some state' ∧ state.RecordsAlike state' := by
  -- both lists of states are as long as each other
  obtain ⟨hi, rfl⟩ := List.getElem?_eq_some_iff.mp hstate
  have hi' : s.index < other.states.length := List.Forall₂.length_eq h ▸ hi
  exact ⟨_, List.getElem?_eq_getElem hi', List.Forall₂.get h hi hi'⟩

/-- The states are entered on the same symbols. -/
theorem map_symbol?_eq (h : automaton.RecordsAlike other) :
    automaton.states.map State.symbol? = other.states.map State.symbol? := by
  rw [← List.forall₂_eq_eq_eq, List.forall₂_map_left_iff, List.forall₂_map_right_iff]
  exact List.Forall₂.imp (fun _ _ => State.RecordsAlike.symbol_eq) h

/-- So a state is entered on a symbol in both automata or in none. -/
theorem entersOn (h : automaton.RecordsAlike other) {target : StateId} {name : String}
    (henters : automaton.EntersOn target name) : other.EntersOn target name := by
  obtain ⟨state, hstate, hentered⟩ := henters
  obtain ⟨state', hstate', halike⟩ := h.exists_alike hstate
  exact ⟨state', hstate', halike.symbol_eq ▸ hentered⟩

/-- A move is valid in both, as the states that it leads to are entered on the same symbols. -/
theorem move_valid (h : automaton.RecordsAlike other) {move : Move} {name : String}
    (hvalid : move.Valid symbols automaton name) : move.Valid symbols other name := by
  cases move with
  | shift target => exact h.entersOn hvalid
  | reduce reference => exact hvalid
  | accept => trivial

/-- A state is valid in both: the same terminals are mentioned, and the same moves recorded. -/
theorem state_valid (h : automaton.RecordsAlike other) (halike : first.RecordsAlike second)
    (hvalid : first.Valid symbols automaton) : second.Valid symbols other := by
  constructor
  case terminal_numbered =>
    intro entry hentry
    -- the other state mentions the terminal too, if in another entry
    have hmention := (halike.terminals_eq entry.1).mpr (List.mem_map_of_mem hentry)
    obtain ⟨entry', hentry', hname⟩ := List.mem_map.mp hmention
    exact hname ▸ hvalid.terminal_numbered entry' hentry'
  case moves_valid =>
    intro entry hentry move hmove
    have hrecorded := State.mem_recorded hentry hmove
    rw [← halike.recorded_eq] at hrecorded
    exact h.move_valid (ParseTable.valid_of_mem_recorded hvalid hrecorded)
  case nonterminal_numbered => exact halike.gotos_eq ▸ hvalid.nonterminal_numbered
  case gotos_enter =>
    intro goto hgoto
    rw [← halike.gotos_eq] at hgoto
    exact h.entersOn (hvalid.gotos_enter goto hgoto)
  case gotos_agree => exact halike.gotos_eq ▸ hvalid.gotos_agree

/-- What can be encoded of one automaton can be encoded of the other. -/
theorem encodable (h : automaton.RecordsAlike other) (hencodable : automaton.Encodable symbols) :
    other.Encodable symbols := by
  constructor
  case has_state =>
    intro hnone
    have hlength := List.Forall₂.length_eq h
    rw [hnone] at hlength
    exact hencodable.has_state (List.length_eq_zero_iff.mp hlength)
  case states_valid =>
    intro state hmem
    obtain ⟨i, hstate⟩ := List.getElem?_of_mem hmem
    -- states are valid because their counterparts are
    obtain ⟨state', hstate', halike⟩ := h.symm.exists_alike (s := ⟨i⟩) hstate
    exact h.state_valid halike.symm (ParseTable.state_valid hencodable hstate')

end Automaton.RecordsAlike

namespace ParseTable

/-- Of entries only what they record for a terminal gets into the cell of the terminal. -/
theorem candidates_alike (hsymbols : symbols.WellFormed) (halike : first.RecordsAlike second)
    {terminal : TerminalId} {name : String} (hname : symbols.terminalName? terminal = some name) :
    candidates (symbols.actionsOf first.actions) terminal =
      candidates (symbols.actionsOf second.actions) terminal := by
  rw [candidates, candidates, filter_actionsOf hsymbols hname, filter_actionsOf hsymbols hname,
    ← State.recorded, ← State.recorded, halike.recorded_eq name]

/-- States that record alike fill their rows alike. -/
theorem rowOf_alike (hsymbols : symbols.WellFormed) (halike : first.RecordsAlike second)
    (s : StateId) : rowOf symbols s first = rowOf symbols s second := by
  -- cell by cell: every terminal has a name, by which its entries are found
  have hcells : symbols.terminalIds.map (fun terminal =>
      (terminal, candidates (symbols.actionsOf first.actions) terminal)) =
      symbols.terminalIds.map fun terminal =>
        (terminal, candidates (symbols.actionsOf second.actions) terminal) := by
    refine List.map_congr_left fun terminal hterminal => ?_
    obtain ⟨name, hname⟩ :=
      SymbolTable.exists_terminalName (SymbolTable.mem_terminalIds.mp hterminal)
    rw [candidates_alike hsymbols halike hname]
  simp only [rowOf, hcells, halike.gotos_eq]

/-- The rows of the two tables are the same. -/
theorem rowsOf_alike (hsymbols : symbols.WellFormed) (h : automaton.RecordsAlike other) :
    rowsOf symbols 0 automaton.states = rowsOf symbols 0 other.states := by
  refine List.ext_getElem? fun i => ?_
  rw [getElem?_rowsOf_eq ⟨i⟩, getElem?_rowsOf_eq ⟨i⟩]
  -- row by row; neither automaton has a state where the other one has none
  cases hstate : automaton.state? ⟨i⟩ with
  | none =>
    cases hother : other.state? ⟨i⟩ with
    | none => rfl
    | some state' =>
      obtain ⟨state, hstate', -⟩ := h.symm.exists_alike hother
      rw [hstate] at hstate'
      cases hstate'
  | some state =>
    obtain ⟨state', hstate', halike⟩ := h.exists_alike hstate
    rw [hstate', Option.map_some, Option.map_some, rowOf_alike hsymbols halike]

/-- Conflicts are counted in the rows, so they are the same as well. -/
theorem conflictsOf_alike (hsymbols : symbols.WellFormed) (h : automaton.RecordsAlike other) :
    conflictsOf symbols automaton = conflictsOf symbols other := by
  rw [conflictsOf, conflictsOf, rowsOf_alike hsymbols h]

/-- Rows, conflicts and symbols are all that a table is made of. -/
theorem tableOf_alike (hsymbols : symbols.WellFormed) (h : automaton.RecordsAlike other) :
    tableOf symbols automaton = tableOf symbols other := by
  rw [tableOf, tableOf, conflictsOf_alike hsymbols h, rowsOf_alike hsymbols h, ofRows, ofRows,
    h.map_symbol?_eq]

/-- Automata that record alike are accepted together, and have the same table then. -/
theorem encode_alike (hsymbols : symbols.WellFormed) (h : automaton.RecordsAlike other)
    {errorOnConflicts : Bool} {table : ParseTable} :
    encode symbols automaton errorOnConflicts = .ok table ↔
      encode symbols other errorOnConflicts = .ok table := by
  rw [encode_eq_ok_iff hsymbols, encode_eq_ok_iff hsymbols, tableOf_alike hsymbols h,
    conflictsOf_alike hsymbols h]
  have hencodable : automaton.Encodable symbols ↔ other.Encodable symbols :=
    ⟨h.encodable, h.symm.encodable⟩
  rw [hencodable]

end ParseTable

/-! ## Automata made call by call -/

/-- The states that calls make, each given by the symbol on which it is entered and the calls. -/
def Automaton.ofRecordings (states : List (Option String × List Recording)) : Automaton :=
  ⟨states.map fun state => .ofRecordings state.1 state.2⟩

/-- The automaton with an entry of its own for each call. -/
def Automaton.separate (states : List (Option String × List Recording)) : Automaton :=
  ⟨states.map fun state => .separate state.1 state.2⟩

/-- Grouping the calls keeps what each of the states records. -/
theorem Automaton.recordsAlike_separate (states : List (Option String × List Recording)) :
    (Automaton.ofRecordings states).RecordsAlike (.separate states) := by
  rw [RecordsAlike, ofRecordings, separate, List.forall₂_map_left_iff, List.forall₂_map_right_iff,
    List.forall₂_same]
  exact fun state _ => State.recordsAlike_separate state.1 state.2

namespace ParseTable

/-- **Recordings are kept in order.** A state that is made call by call has one entry for each
terminal that is mentioned, in the order of first mention, with the moves of the calls on the
terminal in their order; and it has the gotos in their order. So such states have the table of
states with an entry for each call, and are accepted together with them: the move that is recorded
first for a terminal decides its cell. -/
theorem encode_ofRecordings :
    (∀ symbol? recordings,
      (State.ofRecordings symbol? recordings).symbol? = symbol? ∧
      (State.ofRecordings symbol? recordings).actions =
        (Recording.terminals recordings).map (fun name =>
          (name, Recording.movesOn name recordings)) ∧
      (Recording.terminals recordings).Nodup ∧
      (State.ofRecordings symbol? recordings).gotos = Recording.gotos recordings) ∧
    ∀ grammar symbols, SymbolTable.ofGrammar grammar = .ok symbols →
      ∀ states errorOnConflicts table,
        (encode symbols (.ofRecordings states) errorOnConflicts = .ok table ↔
          encode symbols (.separate states) errorOnConflicts = .ok table) ∧
        (encode symbols (.ofRecordings states) errorOnConflicts = .ok table →
          ∀ (s : StateId) symbol? recordings terminal name,
            states[s.index]? = some (symbol?, recordings) →
            symbols.terminalName? terminal = some name →
            match Recording.movesOn name recordings with
            | [] => table.action? s terminal = some .error
            | first :: _ => ∃ action, symbols.Encodes terminal first action ∧
                table.action? s terminal = some action) := by
  refine ⟨fun symbol? recordings => ?_, ?_⟩
  · exact ⟨State.symbol?_ofRecordings symbol? recordings,
      State.actions_ofRecordings symbol? recordings, Recording.nodup_terminals recordings,
      State.gotos_ofRecordings symbol? recordings⟩
  · intro grammar symbols hgrammar states errorOnConflicts table
    have hsymbols := SymbolTable.wellFormed_of_ofGrammar hgrammar
    refine ⟨encode_alike hsymbols (Automaton.recordsAlike_separate states), ?_⟩
    intro hencode s symbol? recordings terminal name hstate hname
    have hrepresents := represents_of_encode hsymbols hencode
    -- what is recorded in the state that was made are the moves of the calls, in order
    have hmade : (Automaton.ofRecordings states).state? s =
        some (.ofRecordings symbol? recordings) := by
      rw [Automaton.state?, Automaton.ofRecordings, List.getElem?_map, hstate, Option.map_some]
    split
    case h_1 hnone =>
      exact hrepresents.action_unrecorded hmade hname
        ((State.recorded_ofRecordings name).trans hnone)
    case h_2 first later hfirst =>
      exact hrepresents.action_recorded hmade hname
        ((State.recorded_ofRecordings name).trans hfirst)

end ParseTable

/-- The calls that make the automaton of statements, and one that records a reduction on a number
after a list of statements, behind the shift and calls of other kinds. -/
def Statements.recordings : List (Option String × List Recording) := [
  (none, [.goto "Stmts" ⟨1⟩, .move "EOF" (.reduce ⟨"Stmts", 1⟩),
    .move "Num" (.reduce ⟨"Stmts", 1⟩)]),
  (some "Stmts", [.move "Num" (.shift ⟨2⟩), .move "EOF" .accept, .goto "Stmt" ⟨3⟩,
    .move "Num" (.reduce ⟨"Stmts", 1⟩)]),
  (some "Num", [.move ";" (.shift ⟨4⟩)]),
  (some "Stmt", [.move "EOF" (.reduce ⟨"Stmts", 0⟩), .move "Num" (.reduce ⟨"Stmts", 0⟩)]),
  (some ";", [.move "EOF" (.reduce ⟨"Stmt", 0⟩), .move "Num" (.reduce ⟨"Stmt", 0⟩)])]

/-- The reduction joins the shift in one entry, behind which the other terminal stands. The shift
decides the cell, and the two are a conflict, as with an entry for each call. -/
theorem ParseTable.encode_ofRecordings_statements :
    SymbolTable.ofGrammar Statements.grammar = .ok Statements.symbols ∧
    (State.ofRecordings none [.move "Num" (.shift ⟨2⟩), .move "EOF" .accept, .goto "Stmt" ⟨3⟩,
      .move "Num" (.reduce ⟨"Stmts", 1⟩)]).actions =
        [("Num", [.shift ⟨2⟩, .reduce ⟨"Stmts", 1⟩]), ("EOF", [.accept])] ∧
    ∃ table,
      encode Statements.symbols (.ofRecordings Statements.recordings) false = .ok table ∧
      encode Statements.symbols (.separate Statements.recordings) false = .ok table ∧
      table.action? ⟨1⟩ ⟨2⟩ = some (.shift ⟨2⟩ ⟨2⟩) ∧
      table.conflicts? = some { shiftReduce := [(⟨2⟩, ⟨1⟩, ⟨1⟩)] } := by
  obtain ⟨hstate, hautomaton⟩ := encode_ofRecordings
  obtain ⟨-, hactions, -, -⟩ := hstate none [.move "Num" (.shift ⟨2⟩), .move "EOF" .accept,
    .goto "Stmt" ⟨3⟩, .move "Num" (.reduce ⟨"Stmts", 1⟩)]
  obtain ⟨hsame, hcells⟩ := hautomaton Statements.grammar Statements.symbols
    Statements.ofGrammar_grammar Statements.recordings false _
  obtain ⟨_, hencodes, haction⟩ := hcells rfl ⟨1⟩ _ _ ⟨2⟩ "Num" rfl rfl
  cases hencodes
  exact ⟨rfl, hactions.trans (by decide +kernel), _, rfl, hsame.mp rfl, haction, rfl⟩

end ParserFoundry
