import Mathlib.Data.List.Pairwise
import ParserFoundry.Proofs.Numbering
import ParserFoundry.Table.ParseTable
/-!
# Encoding, Check by Check

What an automaton has to look like to be encoded, said without the encoder, and what the encoder
makes of each part of it. Each step of the encoder has one lemma here: it succeeds exactly on the
parts that are valid, and then gives the expected result.

Main results:
- `Automaton.Encodable`: the automata that can be encoded.
- `encodeMove_eq_ok_iff`, `encodeEntries_eq_ok_iff`, `encodeGotos_eq_ok_iff`,
  `encodeState_eq_ok_iff`: the steps.
- `encode_eq_ok_iff`: the whole encoder.
-/

namespace ParserFoundry

/-! ## Automata that can be encoded -/

/-- The moves recorded for a terminal, over all entries that name it, in recording order. -/
def State.recorded (state : State) (name : String) : List Move :=
  (state.actions.filter fun entry => entry.1 = name).flatMap Prod.snd

/-- A move of an entry is recorded for the terminal of the entry. -/
theorem State.mem_recorded {state : State} {entry : String × List Move} {move : Move}
    (hentry : entry ∈ state.actions) (hmove : move ∈ entry.2) : move ∈ state.recorded entry.1 :=
  List.mem_flatMap.mpr ⟨entry, List.mem_filter.mpr ⟨hentry, by simp⟩, hmove⟩

/-- `target` is a state that may be entered on `symbol`: it records no other accessing symbol. -/
def Automaton.EntersOn (automaton : Automaton) (target : StateId) (symbol : String) : Prop :=
  ∃ state, automaton.state? target = some state ∧
    ∀ entered, state.symbol? = some entered → entered = symbol

/-- A move on the terminal `name` leads to a state that may be entered on it, or reduces a numbered
production. -/
def Move.Valid (symbols : SymbolTable) (automaton : Automaton) (name : String) : Move → Prop
  | .shift target => automaton.EntersOn target name
  | .reduce reference =>
    symbols.augmentedStart? ≠ some reference.nonterminal ∧
      ∃ production, symbols.IsProduction reference production
  | .accept => True

/-- A state whose entries and gotos name numbered symbols, with moves and gotos that lead to where
they may, and no two gotos on one nonterminal that differ. -/
structure State.Valid (symbols : SymbolTable) (automaton : Automaton) (state : State) : Prop where
  /-- Also an entry without moves names a terminal. -/
  terminal_numbered : ∀ entry ∈ state.actions,
    ∃ terminal, symbols.terminalName? terminal = some entry.1
  moves_valid : ∀ entry ∈ state.actions, ∀ move ∈ entry.2, move.Valid symbols automaton entry.1
  nonterminal_numbered : ∀ goto ∈ state.gotos,
    ∃ nonterminal, symbols.nonterminalName? nonterminal = some goto.1
  gotos_enter : ∀ goto ∈ state.gotos, automaton.EntersOn goto.2 goto.1
  gotos_agree : ∀ first ∈ state.gotos, ∀ second ∈ state.gotos,
    first.1 = second.1 → first.2 = second.2

/-- An automaton that has a state, and valid states only. -/
structure Automaton.Encodable (automaton : Automaton) (symbols : SymbolTable) : Prop where
  has_state : automaton.states ≠ []
  states_valid : ∀ state ∈ automaton.states, state.Valid symbols automaton

/-! ## Encoded moves -/

namespace SymbolTable

/-- `action` is what `move`, recorded for `terminal`, stands for. -/
inductive Encodes (symbols : SymbolTable) (terminal : TerminalId) : Move → Action → Prop where
  | shift (target : StateId) :
      Encodes symbols terminal (.shift target) (.shift target terminal)
  | reduce {reference : ProductionRef} {production : ProductionId} {entry : NumberedProduction} :
      symbols.IsProduction reference production →
      symbols.production? production = some entry →
      Encodes symbols terminal (.reduce reference)
        (.reduce production entry.rhs.length entry.nonterminal)
  | accept :
      Encodes symbols terminal .accept .accept

/-- The action of a move, `error` for a reduction of no production. -/
def actionOf (symbols : SymbolTable) (terminal : TerminalId) : Move → Action
  | .shift target => .shift target terminal
  | .reduce reference =>
    ((symbols.productionRef? reference.nonterminal reference.ordinal).bind fun production =>
      (symbols.production? production).map fun entry =>
        .reduce production entry.rhs.length entry.nonterminal).getD .error
  | .accept => .accept

/-- The actions of entries, each with the terminal that its entry names. -/
def actionsOf (symbols : SymbolTable) (entries : List (String × List Move)) :
    List (TerminalId × Action) :=
  entries.flatMap fun entry => (symbols.terminalId? entry.1).toList.flatMap fun terminal =>
    entry.2.map fun move => (terminal, symbols.actionOf terminal move)

/-- The gotos of a state, each with the nonterminal that it names. -/
def gotosOf (symbols : SymbolTable) (gotos : List (String × StateId)) :
    List (NonterminalId × StateId) :=
  gotos.flatMap fun goto => (symbols.nonterminalId? goto.1).toList.map fun nonterminal =>
    (nonterminal, goto.2)

variable {symbols : SymbolTable} {automaton : Automaton} {terminal : TerminalId} {name : String}

@[simp]
theorem actionOf_shift (target : StateId) :
    symbols.actionOf terminal (.shift target) = .shift target terminal := rfl

@[simp]
theorem actionOf_accept : symbols.actionOf terminal .accept = .accept := rfl

/-- A reduction stands for the action with the length and the nonterminal of its production. -/
theorem actionOf_reduce (hsymbols : symbols.WellFormed) {reference : ProductionRef}
    {production : ProductionId} {entry : NumberedProduction}
    (hproduction : symbols.IsProduction reference production)
    (hentry : symbols.production? production = some entry) :
    symbols.actionOf terminal (.reduce reference) =
      .reduce production entry.rhs.length entry.nonterminal := by
  have hfound := (productionRef?_eq_some_iff hsymbols).mpr hproduction
  simp [actionOf, hfound, hentry]

/-- The action of a valid move is what the move stands for. -/
theorem encodes_actionOf (hsymbols : symbols.WellFormed) {move : Move}
    (hvalid : move.Valid symbols automaton name) :
    symbols.Encodes terminal move (symbols.actionOf terminal move) := by
  -- each kind of move has one action, and a valid reduction has a production
  cases move with
  | shift target => exact .shift target
  | accept => exact .accept
  | reduce reference =>
    obtain ⟨-, production, hproduction⟩ := hvalid
    obtain ⟨entry, hentry, -, -⟩ := id hproduction
    rw [actionOf_reduce hsymbols hproduction hentry]
    exact .reduce hproduction hentry

/-- A move stands for one action only. -/
theorem Encodes.eq_actionOf (hsymbols : symbols.WellFormed) {move : Move} {action : Action}
    (h : symbols.Encodes terminal move action) : action = symbols.actionOf terminal move := by
  cases h with
  | shift target => rfl
  | accept => rfl
  | reduce hproduction hentry => exact (actionOf_reduce hsymbols hproduction hentry).symm

/-- Different moves stand for different actions. -/
theorem Encodes.injective {first second : Move} {action : Action}
    (hfirst : symbols.Encodes terminal first action)
    (hsecond : symbols.Encodes terminal second action) : first = second := by
  cases hfirst with
  | shift target => cases hsecond; rfl
  | accept => cases hsecond; rfl
  | @reduce reference production entry hproduction hentry =>
    -- the action names the production, and the production has one nonterminal and one ordinal
    generalize haction : Action.reduce production entry.rhs.length entry.nonterminal = action
      at hsecond
    cases hsecond with
    | shift target => cases haction
    | accept => cases haction
    | @reduce other production' _ hother _ =>
      obtain ⟨rfl, -, -⟩ : production = production' ∧ _ ∧ _ := by simpa using haction
      obtain ⟨found, hfound, hname, hordinal⟩ := hproduction
      obtain ⟨found', hfound', hname', hordinal'⟩ := hother
      have hsame : found = found' := Option.some.inj (hfound.symm.trans hfound')
      subst hsame
      obtain ⟨nonterminal, ordinal⟩ := reference
      obtain ⟨nonterminal', ordinal'⟩ := other
      rw [hname] at hname'
      cases hname'
      dsimp only at hordinal hordinal'
      rw [← hordinal, ← hordinal']

/-- Moves that are valid for one terminal are told apart by their actions. -/
theorem actionOf_injective (hsymbols : symbols.WellFormed) {first second : Move}
    (hfirst : first.Valid symbols automaton name) (hsecond : second.Valid symbols automaton name)
    (h : symbols.actionOf terminal first = symbols.actionOf terminal second) : first = second :=
  (encodes_actionOf hsymbols hfirst).injective (h ▸ encodes_actionOf hsymbols hsecond)

end SymbolTable

namespace ParseTable

variable {symbols : SymbolTable} {automaton : Automaton} {source : StateId}
  {terminal : TerminalId} {name : String}

/-! ## One lemma for each check -/

/-- A transition is passed if its state may be entered on the symbol. -/
theorem checkTransition_eq_ok_iff {target : StateId} {result : Unit} :
    checkTransition automaton source name target = .ok result ↔ automaton.EntersOn target name := by
  -- the state has to be there, and a symbol that it records has to be the one given
  simp only [checkTransition, Automaton.EntersOn]
  cases automaton.state? target with
  | none => simp
  | some state =>
    cases hsymbol : state.symbol? with
    | none => simp [hsymbol]
    | some entered =>
      by_cases hname : entered = name
      · simp [hsymbol, hname]
      · simp [hsymbol, hname]

/-- A move is passed if it is valid, and gives its action. -/
theorem encodeMove_eq_ok_iff (hsymbols : symbols.WellFormed) {move : Move} {action : Action} :
    encodeMove symbols automaton source name terminal move = .ok action ↔
      move.Valid symbols automaton name ∧ action = symbols.actionOf terminal move := by
  -- a shift is checked by its target, and a reduction by its production
  cases move with
  | shift target =>
    simp only [encodeMove, bind_eq_ok_iff, checkTransition_eq_ok_iff, pure, Except.pure,
      Except.ok.injEq, Move.Valid, SymbolTable.actionOf, exists_and_left, eq_comm (a := action)]
    simp
  | accept => simp [encodeMove, Move.Valid, SymbolTable.actionOf, eq_comm]
  | reduce reference =>
    by_cases haugmenting : symbols.augmentedStart? = some reference.nonterminal
    · simp [encodeMove, SymbolTable.isAugmentedStart, haugmenting, Move.Valid, throw, throwThe,
        MonadExceptOf.throw, bind, Except.bind]
    · cases hfound : symbols.productionRef? reference.nonterminal reference.ordinal with
      | none =>
        have hnone := (SymbolTable.productionRef?_eq_none_iff hsymbols).mp hfound
        simp [encodeMove, SymbolTable.isAugmentedStart, haugmenting, hfound, Move.Valid, hnone,
          throw, throwThe, MonadExceptOf.throw]
      | some production =>
        have hproduction := (SymbolTable.productionRef?_eq_some_iff hsymbols).mp hfound
        obtain ⟨entry, hentry, -, -⟩ := id hproduction
        simp only [encodeMove, SymbolTable.isAugmentedStart, haugmenting, hfound, hentry,
          SymbolTable.actionOf_reduce hsymbols hproduction hentry, Move.Valid]
        simp only [decide_false, Bool.false_eq_true, ↓reduceIte, pure, Except.pure,
          Except.ok.injEq, ne_eq, eq_comm (a := action)]
        exact (and_iff_right ⟨haugmenting, production, hproduction⟩).symm

/-- Entries are passed if they name terminals and their moves are valid. -/
theorem encodeEntries_eq_ok_iff (hsymbols : symbols.WellFormed)
    {entries : List (String × List Move)} {recorded : List (TerminalId × Action)} :
    encodeEntries symbols automaton source entries = .ok recorded ↔
      (∀ entry ∈ entries, (∃ terminal, symbols.terminalName? terminal = some entry.1) ∧
        ∀ move ∈ entry.2, move.Valid symbols automaton entry.1) ∧
      recorded = symbols.actionsOf entries := by
  -- entry by entry; within one, move by move
  induction entries generalizing recorded with
  | nil => simp [encodeEntries, SymbolTable.actionsOf, eq_comm]
  | cons entry rest ih =>
    obtain ⟨name, moves⟩ := entry
    -- the terminal of an entry has to be known even if the entry has no moves
    cases hterminal : symbols.terminalId? name with
    | none =>
      have hnone := (SymbolTable.terminalId?_eq_none_iff hsymbols).mp hterminal
      simp [encodeEntries, hterminal, hnone, throw, throwThe, MonadExceptOf.throw]
    | some terminal =>
      have hname := (SymbolTable.terminalId?_eq_some_iff hsymbols).mp hterminal
      have hmove : ∀ move action,
          encodeMove symbols automaton source name terminal move = .ok action ↔
            move.Valid symbols automaton name ∧ action = symbols.actionOf terminal move :=
        fun move action => encodeMove_eq_ok_iff hsymbols
      have hmoves := mapM_eq_ok_iff hmove moves
      simp only [encodeEntries, hterminal, bind_eq_ok_iff, hmoves, ih, pure, Except.pure,
        Except.ok.injEq, List.mem_cons, forall_eq_or_imp]
      constructor
      · rintro ⟨_, ⟨hvalid, rfl⟩, _, ⟨hrest, rfl⟩, rfl⟩
        exact ⟨⟨⟨⟨terminal, hname⟩, hvalid⟩, hrest⟩, by
          simp [SymbolTable.actionsOf, hterminal, Function.comp_def]⟩
      · rintro ⟨⟨⟨-, hvalid⟩, hrest⟩, rfl⟩
        exact ⟨_, ⟨hvalid, rfl⟩, _, ⟨hrest, rfl⟩, by
          simp [SymbolTable.actionsOf, hterminal, Function.comp_def]⟩

/-- Two gotos that do not send one nonterminal to different states. -/
def GotosAgree (first second : NonterminalId × StateId) : Prop :=
  first.1 = second.1 → first.2 = second.2

theorem any_differs_iff {earlier : List (NonterminalId × StateId)} {nonterminal : NonterminalId}
    {target : StateId} :
    (earlier.any fun goto => goto.1 = nonterminal ∧ goto.2 ≠ target) = true ↔
      ¬ ∀ goto ∈ earlier, GotosAgree goto (nonterminal, target) := by
  simp [GotosAgree]

/-- The check of the gotos compares each goto with all `earlier` ones, so that in the end any two
agree. -/
theorem encodeGotos_eq_ok_iff (hsymbols : symbols.WellFormed) {gotos : List (String × StateId)}
    {earlier all : List (NonterminalId × StateId)} (hearlier : earlier.Pairwise GotosAgree) :
    encodeGotos symbols automaton source earlier gotos = .ok all ↔
      (∀ goto ∈ gotos, (∃ nonterminal, symbols.nonterminalName? nonterminal = some goto.1) ∧
        automaton.EntersOn goto.2 goto.1) ∧
      (earlier ++ symbols.gotosOf gotos).Pairwise GotosAgree ∧
      all = earlier ++ symbols.gotosOf gotos := by
  -- the invariant is that the earlier gotos agree pairwise
  induction gotos generalizing earlier with
  | nil => simp [encodeGotos, SymbolTable.gotosOf, hearlier, eq_comm]
  | cons goto rest ih =>
    obtain ⟨name, target⟩ := goto
    cases hnonterminal : symbols.nonterminalId? name with
    | none =>
      have hnone := (SymbolTable.nonterminalId?_eq_none_iff hsymbols).mp hnonterminal
      simp [encodeGotos, hnonterminal, hnone, throw, throwThe, MonadExceptOf.throw]
    | some nonterminal =>
      have hname := (SymbolTable.nonterminalId?_eq_some_iff hsymbols).mp hnonterminal
      have hgotos : symbols.gotosOf ((name, target) :: rest) =
          (nonterminal, target) :: symbols.gotosOf rest := by
        simp [SymbolTable.gotosOf, hnonterminal]
      -- either the goto agrees with all earlier ones and joins them, or the check stops here
      by_cases hagree : ∀ goto ∈ earlier, GotosAgree goto (nonterminal, target)
      · have hany := Bool.eq_false_iff.mpr (mt any_differs_iff.mp (not_not.mpr hagree))
        have hmore : (earlier ++ [(nonterminal, target)]).Pairwise GotosAgree := by
          refine List.pairwise_append.mpr ⟨hearlier, List.pairwise_singleton .., ?_⟩
          intro goto hgoto last hlast
          rw [List.mem_singleton.mp hlast]
          exact hagree goto hgoto
        have happend : earlier ++ symbols.gotosOf ((name, target) :: rest) =
            earlier ++ [(nonterminal, target)] ++ symbols.gotosOf rest := by
          rw [hgotos, List.append_cons]
        simp only [encodeGotos, hnonterminal, bind_eq_ok_iff, checkTransition_eq_ok_iff, hany,
          Bool.false_eq_true, ↓reduceIte, ih hmore, happend, List.mem_cons, forall_eq_or_imp]
        constructor
        · rintro ⟨-, henters, hrest, hpairwise, hall⟩
          exact ⟨⟨⟨⟨nonterminal, hname⟩, henters⟩, hrest⟩, hpairwise, hall⟩
        · rintro ⟨⟨⟨-, henters⟩, hrest⟩, hpairwise, hall⟩
          exact ⟨(), henters, hrest, hpairwise, hall⟩
      · have hany := any_differs_iff.mpr hagree
        have hdiffer : ¬ (earlier ++ symbols.gotosOf ((name, target) :: rest)).Pairwise
            GotosAgree := by
          intro hpairwise
          rw [hgotos] at hpairwise
          exact hagree fun goto hgoto =>
            (List.pairwise_append.mp hpairwise).2.2 goto hgoto _ (List.mem_cons_self ..)
        simp only [encodeGotos, hnonterminal, bind_eq_ok_iff, hany, ↓reduceIte, throw, throwThe,
          MonadExceptOf.throw, reduceCtorEq, false_and, and_false, exists_false, hdiffer]

/-- A goto is numbered by the name of its nonterminal. -/
theorem mem_gotosOf_iff {gotos : List (String × StateId)} {nonterminal : NonterminalId}
    {target : StateId} :
    (nonterminal, target) ∈ symbols.gotosOf gotos ↔
      ∃ name, (name, target) ∈ gotos ∧ symbols.nonterminalId? name = some nonterminal := by
  -- numbers are looked up by name, which goes both ways
  simp only [SymbolTable.gotosOf, List.mem_flatMap, List.mem_map, Option.mem_toList,
    Prod.mk.injEq, Prod.exists]
  constructor
  · rintro ⟨name, found, hmem, _, hname, rfl, rfl⟩
    exact ⟨name, hmem, hname⟩
  · rintro ⟨name, hmem, hname⟩
    exact ⟨name, target, hmem, nonterminal, hname, rfl, rfl⟩

/-- The gotos of a state agree pairwise exactly when no nonterminal has two targets. -/
theorem pairwise_gotosOf_iff (hsymbols : symbols.WellFormed) {gotos : List (String × StateId)}
    (hnumbered : ∀ goto ∈ gotos, ∃ nonterminal, symbols.nonterminalName? nonterminal = some goto.1) :
    (symbols.gotosOf gotos).Pairwise GotosAgree ↔
      ∀ first ∈ gotos, ∀ second ∈ gotos, first.1 = second.1 → first.2 = second.2 := by
  constructor
  · intro hpairwise first hfirst second hsecond hname
    obtain ⟨nonterminal, hnonterminal⟩ := hnumbered first hfirst
    have hid := (SymbolTable.nonterminalId?_eq_some_iff hsymbols).mpr hnonterminal
    have hfirst' : (nonterminal, first.2) ∈ symbols.gotosOf gotos :=
      mem_gotosOf_iff.mpr ⟨first.1, hfirst, hid⟩
    have hsecond' : (nonterminal, second.2) ∈ symbols.gotosOf gotos :=
      mem_gotosOf_iff.mpr ⟨second.1, hsecond, hname ▸ hid⟩
    -- pairwise says nothing on the order, since agreeing is symmetric
    have hsymmetric : Std.Symm GotosAgree := ⟨fun _ _ hagree heq => (hagree heq.symm).symm⟩
    exact List.Pairwise.forall_of_forall (fun _ _ _ => rfl) hpairwise hfirst' hsecond' rfl
  · intro hgotos
    refine List.pairwise_of_forall_mem_list ?_
    rintro ⟨nonterminal, target⟩ hfirst ⟨nonterminal', target'⟩ hsecond heq
    obtain ⟨name, hmem, hname⟩ := mem_gotosOf_iff.mp hfirst
    obtain ⟨name', hmem', hname'⟩ := mem_gotosOf_iff.mp hsecond
    have hsame : name = name' := by
      have h := SymbolTable.nonterminalName?_of_nonterminalId? hname
      have h' := SymbolTable.nonterminalName?_of_nonterminalId? hname'
      rw [show nonterminal = nonterminal' from heq] at h
      exact Option.some.inj (h.symm.trans h')
    exact hgotos _ hmem _ hmem' hsame

/-! ## States and automata -/

/-- The row of a state. -/
def rowOf (symbols : SymbolTable) (id : StateId) (state : State) : Row :=
  let recorded := symbols.actionsOf state.actions
  let gotos := symbols.gotosOf state.gotos
  let cells := symbols.terminalIds.map fun terminal => (terminal, candidates recorded terminal)
  { actions := cells.map fun cell => cell.2.head?.getD .error
    occupied := cells.map fun cell => !cell.2.isEmpty
    gotos := symbols.nonterminalIds.map fun nonterminal =>
      (gotos.find? fun goto => goto.1 = nonterminal).map Prod.snd
    conflicts := cells.foldl (fun found cell => found ++ cellConflicts id cell.1 cell.2) {} }

/-- The rows of states, the first of which has the number `first`. -/
def rowsOf (symbols : SymbolTable) (first : Nat) (states : List State) : List Row :=
  (states.zipIdx first).map fun (state, i) => rowOf symbols ⟨i⟩ state

/-- All conflicts of an automaton. -/
def conflictsOf (symbols : SymbolTable) (automaton : Automaton) : Conflicts :=
  (rowsOf symbols 0 automaton.states).foldl (fun found row => found ++ row.conflicts) {}

/-- The tables of an automaton, with the conflicts that it has. -/
def tableOf (symbols : SymbolTable) (automaton : Automaton) : ParseTable :=
  ofRows symbols automaton (rowsOf symbols 0 automaton.states)
    (if (conflictsOf symbols automaton).isEmpty then none
      else some (conflictsOf symbols automaton))

/-- A state is passed if it is valid, and gives its row. -/
theorem encodeState_eq_ok_iff (hsymbols : symbols.WellFormed) {id : StateId} {state : State}
    {row : Row} :
    encodeState symbols automaton id state = .ok row ↔
      state.Valid symbols automaton ∧ row = rowOf symbols id state := by
  -- the parts of a valid state are what the two checks of a state ask for
  simp only [encodeState, bind_eq_ok_iff, encodeEntries_eq_ok_iff hsymbols,
    encodeGotos_eq_ok_iff hsymbols List.Pairwise.nil, List.nil_append, pure, Except.pure,
    Except.ok.injEq]
  constructor
  · rintro ⟨_, ⟨hentries, rfl⟩, _, ⟨hgotos, hpairwise, rfl⟩, rfl⟩
    have hnumbered := fun goto hgoto => (hgotos goto hgoto).1
    refine ⟨⟨?_, ?_, hnumbered, ?_, (pairwise_gotosOf_iff hsymbols hnumbered).mp hpairwise⟩, rfl⟩
    · exact fun entry hentry => (hentries entry hentry).1
    · exact fun entry hentry => (hentries entry hentry).2
    · exact fun goto hgoto => (hgotos goto hgoto).2
  · rintro ⟨hvalid, rfl⟩
    refine ⟨_, ⟨?_, rfl⟩, _, ⟨?_, ?_, rfl⟩, rfl⟩
    · exact fun entry hentry =>
        ⟨hvalid.terminal_numbered entry hentry, hvalid.moves_valid entry hentry⟩
    · exact fun goto hgoto =>
        ⟨hvalid.nonterminal_numbered goto hgoto, hvalid.gotos_enter goto hgoto⟩
    · exact (pairwise_gotosOf_iff hsymbols hvalid.nonterminal_numbered).mpr hvalid.gotos_agree

/-- States are passed if all of them are valid, and give their rows in order. -/
theorem encodeStates_eq_ok_iff (hsymbols : symbols.WellFormed) {first : Nat} {states : List State}
    {rows : List Row} :
    encodeStates symbols automaton first states = .ok rows ↔
      (∀ state ∈ states, state.Valid symbols automaton) ∧ rows = rowsOf symbols first states := by
  -- state by state, each with the number of its place
  induction states generalizing first rows with
  | nil => simp [encodeStates, rowsOf, eq_comm]
  | cons state rest ih =>
    simp only [encodeStates, bind_eq_ok_iff, encodeState_eq_ok_iff hsymbols, ih, pure, Except.pure,
      Except.ok.injEq, List.mem_cons, forall_eq_or_imp]
    constructor
    · rintro ⟨_, ⟨hvalid, rfl⟩, _, ⟨hrest, rfl⟩, rfl⟩
      exact ⟨⟨hvalid, hrest⟩, rfl⟩
    · rintro ⟨⟨hvalid, hrest⟩, rfl⟩
      exact ⟨_, ⟨hvalid, rfl⟩, _, ⟨hrest, rfl⟩, rfl⟩

/-- The last decision of the encoder, when all rows are made. -/
def ofEncodedRows (symbols : SymbolTable) (automaton : Automaton) (errorOnConflicts : Bool)
    (rows : List Row) : Except EncodingError ParseTable :=
  let found : Conflicts := rows.foldl (fun found row => found ++ row.conflicts) {}
  if found.isEmpty then .ok (ofRows symbols automaton rows none)
  else if errorOnConflicts then .error (.conflicts found)
  else .ok (ofRows symbols automaton rows (some found))

theorem encode_of_eq_nil (hstates : automaton.states = []) (errorOnConflicts : Bool) :
    encode symbols automaton errorOnConflicts = .error .noStates := by
  simp only [encode, hstates]
  rfl

/-- An automaton with a state is encoded state by state, and then the conflicts are decided on. -/
theorem encode_of_ne_nil (hstates : automaton.states ≠ []) (errorOnConflicts : Bool) :
    encode symbols automaton errorOnConflicts =
      encodeStates symbols automaton 0 automaton.states >>=
        ofEncodedRows symbols automaton errorOnConflicts := by
  simp only [encode, List.isEmpty_iff, hstates, if_false]
  -- the two ways to write the last decision are the same one
  cases encodeStates symbols automaton 0 automaton.states with
  | error cause => rfl
  | ok rows =>
    change (if (rows.foldl (fun found row => found ++ row.conflicts)
      ({} : Conflicts)).isEmpty = true then _ else _) =
        ofEncodedRows symbols automaton errorOnConflicts rows
    rw [ofEncodedRows]
    cases errorOnConflicts <;> rfl

/-- The rows of an automaton make its tables, unless its conflicts are an error. -/
theorem ofEncodedRows_eq_ok_iff {errorOnConflicts : Bool} {table : ParseTable} :
    ofEncodedRows symbols automaton errorOnConflicts (rowsOf symbols 0 automaton.states) =
        .ok table ↔
      table = tableOf symbols automaton ∧
        (errorOnConflicts = true → (conflictsOf symbols automaton).isEmpty = true) := by
  change (if (conflictsOf symbols automaton).isEmpty = true then _ else _) = _ ↔ _
  cases hconflicts : (conflictsOf symbols automaton).isEmpty with
  | true => simp [tableOf, hconflicts, eq_comm]
  | false =>
    cases errorOnConflicts with
    | true => simp
    | false =>
      simp only [tableOf, hconflicts, Bool.false_eq_true, ↓reduceIte, Except.ok.injEq,
        false_implies, and_true, eq_comm (a := table)]
      rfl

/-- **The encoder**: it accepts exactly the automata that can be encoded, unless their conflicts are
an error, and gives their tables. -/
theorem encode_eq_ok_iff (hsymbols : symbols.WellFormed) {errorOnConflicts : Bool}
    {table : ParseTable} :
    encode symbols automaton errorOnConflicts = .ok table ↔
      automaton.Encodable symbols ∧ table = tableOf symbols automaton ∧
        (errorOnConflicts = true → (conflictsOf symbols automaton).isEmpty = true) := by
  by_cases hstates : automaton.states = []
  · have hempty : ¬ automaton.Encodable symbols := fun h => h.has_state hstates
    simp [encode_of_eq_nil hstates, hempty]
  · have hencodable : automaton.Encodable symbols ↔
        ∀ state ∈ automaton.states, state.Valid symbols automaton :=
      ⟨Automaton.Encodable.states_valid, fun hvalid => ⟨hstates, hvalid⟩⟩
    simp only [encode_of_ne_nil hstates, bind_eq_ok_iff, encodeStates_eq_ok_iff hsymbols,
      hencodable, and_assoc, exists_eq_left, exists_and_left, ofEncodedRows_eq_ok_iff]

end ParseTable

/-! ## The automaton of statements -/

namespace Statements

def automaton : Automaton where
  states := [
    { actions := [("EOF", [.reduce ⟨"Stmts", 1⟩]), ("Num", [.reduce ⟨"Stmts", 1⟩])]
      gotos := [("Stmts", ⟨1⟩)] },
    { symbol? := some "Stmts"
      actions := [("EOF", [.accept]), ("Num", [.shift ⟨2⟩])]
      gotos := [("Stmt", ⟨3⟩)] },
    { symbol? := some "Num"
      actions := [(";", [.shift ⟨4⟩])] },
    { symbol? := some "Stmt"
      actions := [("EOF", [.reduce ⟨"Stmts", 0⟩]), ("Num", [.reduce ⟨"Stmts", 0⟩])] },
    { symbol? := some ";"
      actions := [("EOF", [.reduce ⟨"Stmt", 0⟩]), ("Num", [.reduce ⟨"Stmt", 0⟩])] }]

/-- The automaton without the moves on other terminals than numbers. -/
def onNumbers : Automaton where
  states := automaton.states.map fun state =>
    { state with actions := state.actions.filter fun entry => entry.1 = "Num" }

end Statements

end ParserFoundry
