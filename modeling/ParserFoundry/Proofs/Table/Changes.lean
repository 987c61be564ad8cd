import ParserFoundry.Proofs.Table.Shape
/-!
# Encoding Changed Automata

An automaton is compared with another one that is made from it by changing its states. Each step of
the encoder that comes to the same on both sides, or breaks off on the first side with an error of
one kind, makes the whole encoder do so.

Main results:
- `entersOn_mapStates`, `Move.valid_mapStates`: changes that keep the accessing symbols.
- `encodeEntries_equalUnless`, `encodeGotos_equalUnless`: entries and gotos of which some are left
  out.
- `encode_equalUnless`, `encode_keeping`: whole automata.
-/

namespace ParserFoundry

/-- The automaton with every state changed. -/
def Automaton.mapStates (automaton : Automaton) (change : StateId → State → State) : Automaton :=
  ⟨automaton.states.mapIdx fun i state => change ⟨i⟩ state⟩

variable {symbols : SymbolTable} {automaton other : Automaton} {change : StateId → State → State}
  {name : String}

theorem Automaton.state?_mapStates (automaton : Automaton) (change : StateId → State → State)
    (s : StateId) :
    (automaton.mapStates change).state? s = (automaton.state? s).map (change s) := by
  simp [mapStates, state?]

theorem Automaton.mapStates_eq_nil_iff :
    (automaton.mapStates change).states = [] ↔ automaton.states = [] := by
  simp [mapStates]

/-! ## Changes that keep the accessing symbols -/

section Symbols

variable (hsymbol : ∀ s state, (change s state).symbol? = state.symbol?)

include hsymbol

theorem Automaton.map_symbol?_mapStates :
    (automaton.mapStates change).states.map State.symbol? = automaton.states.map State.symbol? := by
  refine List.ext_getElem (by simp [mapStates]) fun i hi hi' => ?_
  simp [mapStates, hsymbol]

theorem entersOn_mapStates {target : StateId} :
    (automaton.mapStates change).EntersOn target name ↔ automaton.EntersOn target name := by
  simp only [Automaton.EntersOn, Automaton.state?_mapStates, Option.map_eq_some_iff]
  constructor
  · rintro ⟨_, ⟨state, hstate, rfl⟩, hentered⟩
    exact ⟨state, hstate, hsymbol target state ▸ hentered⟩
  · rintro ⟨state, hstate, hentered⟩
    exact ⟨_, ⟨state, hstate, rfl⟩, (hsymbol target state).symm ▸ hentered⟩

theorem Move.valid_mapStates {move : Move} :
    move.Valid symbols (automaton.mapStates change) name ↔ move.Valid symbols automaton name := by
  cases move with
  | shift target => exact entersOn_mapStates hsymbol
  | reduce reference => exact Iff.rfl
  | accept => exact Iff.rfl

theorem ParseTable.checkTransition_mapStates (source : StateId) (name : String)
    (target : StateId) :
    checkTransition (automaton.mapStates change) source name target =
      checkTransition automaton source name target := by
  simp only [checkTransition, Automaton.state?_mapStates]
  cases automaton.state? target with
  | none => rfl
  | some state => simp only [Option.map_some, hsymbol]

theorem ParseTable.encodeMove_mapStates (source : StateId) (name : String) (terminal : TerminalId)
    (move : Move) :
    encodeMove symbols (automaton.mapStates change) source name terminal move =
      encodeMove symbols automaton source name terminal move := by
  cases move with
  | shift target => simp only [encodeMove, checkTransition_mapStates hsymbol]
  | reduce reference => rfl
  | accept => rfl

end Symbols

namespace ParseTable

/-! ## Step by step -/

variable {kind : EncodingError → Prop} {source : StateId}

/-- Moves may be left out of entries if each of them breaks off. -/
theorem encodeEntries_equalUnless {keep : Move → Bool} {entries : List (String × List Move)}
    (hkept : ∀ entry ∈ entries, ∀ move ∈ entry.2, keep move = true → ∀ terminal,
      EqualUnless kind (encodeMove symbols automaton source entry.1 terminal move)
        (encodeMove symbols other source entry.1 terminal move))
    (hdropped : ∀ entry ∈ entries, ∀ move ∈ entry.2, keep move = false → ∀ terminal,
      ∃ cause, encodeMove symbols automaton source entry.1 terminal move = .error cause ∧
        kind cause) :
    EqualUnless kind (encodeEntries symbols automaton source entries)
      (encodeEntries symbols other source
        (entries.map fun entry => (entry.1, entry.2.filter keep))) := by
  -- the entries in their order, and what comes of the first one that breaks off
  induction entries with
  | nil => exact .refl _
  | cons entry rest ih =>
    obtain ⟨name, moves⟩ := entry
    obtain ⟨hmoves, hrest⟩ := List.forall_mem_cons.mp hkept
    obtain ⟨hmoves', hrest'⟩ := List.forall_mem_cons.mp hdropped
    simp only [List.map_cons, encodeEntries]
    -- an entry stays when all its moves are left out, and so does the check of its name
    cases symbols.terminalId? name with
    | none => exact .refl _
    | some terminal =>
      have hown := EqualUnless.mapM_filter (fun move hmem hkeep => hmoves move hmem hkeep terminal)
        fun move hmem hdrop => hmoves' move hmem hdrop terminal
      exact hown.bind fun _ => (ih hrest hrest').bind fun _ => .refl _

/-- Gotos may be left out if they are on names without numbers. -/
theorem encodeGotos_equalUnless {keep : String × StateId → Bool} {gotos : List (String × StateId)}
    {earlier : List (NonterminalId × StateId)}
    (hkept : ∀ goto ∈ gotos, keep goto = true →
      EqualUnless kind (checkTransition automaton source goto.1 goto.2)
        (checkTransition other source goto.1 goto.2))
    (hdropped : ∀ goto ∈ gotos, keep goto = false →
      symbols.nonterminalId? goto.1 = none ∧ kind (.unknownSymbol goto.1)) :
    EqualUnless kind (encodeGotos symbols automaton source earlier gotos)
      (encodeGotos symbols other source earlier (gotos.filter keep)) := by
  -- the gotos that are kept are collected on both sides in step
  induction gotos generalizing earlier with
  | nil => exact .refl _
  | cons goto rest ih =>
    obtain ⟨name, target⟩ := goto
    obtain ⟨hgoto, hrest⟩ := List.forall_mem_cons.mp hkept
    obtain ⟨hgoto', hrest'⟩ := List.forall_mem_cons.mp hdropped
    cases hkeep : keep (name, target) with
    | false =>
      obtain ⟨hnone, hkind⟩ := hgoto' hkeep
      simp only [encodeGotos, hnone]
      exact .of_error hkind _
    | true =>
      simp only [List.filter_cons, hkeep, if_true, encodeGotos]
      cases symbols.nonterminalId? name with
      | none => exact .refl _
      | some nonterminal =>
        refine (hgoto hkeep).bind fun _ => ?_
        split
        · exact .refl _
        · exact ih hrest hrest'

theorem encodeState_equalUnless {state changed : State}
    (hentries : EqualUnless kind (encodeEntries symbols automaton source state.actions)
      (encodeEntries symbols other source changed.actions))
    (hgotos : EqualUnless kind (encodeGotos symbols automaton source [] state.gotos)
      (encodeGotos symbols other source [] changed.gotos)) :
    EqualUnless kind (encodeState symbols automaton source state)
      (encodeState symbols other source changed) :=
  hentries.bind fun _ => hgotos.bind fun _ => .refl _

theorem encodeStates_equalUnless {first : Nat} {states changed : List State}
    (hlength : states.length = changed.length)
    (hstates : ∀ i state state', states[i]? = some state → changed[i]? = some state' →
      EqualUnless kind (encodeState symbols automaton ⟨first + i⟩ state)
        (encodeState symbols other ⟨first + i⟩ state')) :
    EqualUnless kind (encodeStates symbols automaton first states)
      (encodeStates symbols other first changed) := by
  -- the number of the first state grows along the states
  induction states generalizing first changed with
  | nil =>
    obtain rfl := List.length_eq_zero_iff.mp hlength.symm
    exact .refl _
  | cons state rest ih =>
    cases changed with
    | nil => cases hlength
    | cons state' rest' =>
      refine (hstates 0 state state' rfl rfl).bind fun _ => EqualUnless.bind ?_ fun _ => .refl _
      refine ih (Nat.succ.inj hlength) fun i found found' hfound hfound' => ?_
      have h := hstates (i + 1) found found' hfound hfound'
      rwa [show first + (i + 1) = first + 1 + i by omega] at h

/-! ## Whole automata -/

/-- The same rows make tables that differ in the accessing symbols only. -/
theorem ofEncodedRows_eq_map (errorOnConflicts : Bool) (rows : List Row) :
    ofEncodedRows symbols other errorOnConflicts rows =
      (ofEncodedRows symbols automaton errorOnConflicts rows).map fun table =>
        { table with stateSymbols := other.states.map State.symbol? } := by
  simp only [ofEncodedRows]
  split
  · rfl
  · split
    · rfl
    · rfl

theorem stateSymbols_of_encode {errorOnConflicts : Bool} {table : ParseTable}
    (h : encode symbols automaton errorOnConflicts = .ok table) :
    table.stateSymbols = automaton.states.map State.symbol? := by
  by_cases hstates : automaton.states = []
  · rw [encode_of_eq_nil hstates] at h
    cases h
  · rw [encode_of_ne_nil hstates] at h
    obtain ⟨rows, -, hrows⟩ := bind_eq_ok_iff.mp h
    -- with conflicts the table comes out only if they are tolerated
    simp only [ofEncodedRows] at hrows
    split at hrows
    · cases hrows
      rfl
    · split at hrows
      · cases hrows
      · cases hrows
        rfl

/-- An automaton with changed states is encoded as the automaton itself, up to accessing symbols, if
each of its states is. -/
theorem encode_equalUnless (errorOnConflicts : Bool)
    (hstates : ∀ s state, automaton.state? s = some state →
      EqualUnless kind (encodeState symbols automaton s state)
        (encodeState symbols (automaton.mapStates change) s (change s state))) :
    EqualUnless kind
      ((encode symbols automaton errorOnConflicts).map fun table =>
        { table with stateSymbols := (automaton.mapStates change).states.map State.symbol? })
      (encode symbols (automaton.mapStates change) errorOnConflicts) := by
  by_cases hempty : automaton.states = []
  · rw [encode_of_eq_nil hempty, encode_of_eq_nil (Automaton.mapStates_eq_nil_iff.mpr hempty)]
    exact .refl _
  · -- what follows the rows depends on the rows, and shows the accessing symbols as they are
    have hrows : EqualUnless kind (encodeStates symbols automaton 0 automaton.states)
        (encodeStates symbols (automaton.mapStates change) 0
          (automaton.mapStates change).states) := by
      refine encodeStates_equalUnless (by simp [Automaton.mapStates]) fun i state state' h h' => ?_
      have hmapped := Automaton.state?_mapStates automaton change ⟨i⟩
      simp only [Automaton.state?, h, h', Option.map_some, Option.some.injEq] at hmapped
      rw [hmapped, Nat.zero_add]
      exact hstates ⟨i⟩ state h
    rw [encode_of_ne_nil hempty,
      encode_of_ne_nil (mt Automaton.mapStates_eq_nil_iff.mp hempty), map_bind_eq]
    exact hrows.bind fun rows => .inl (ofEncodedRows_eq_map errorOnConflicts rows).symm

/-- Where the accessing symbols are kept, so is the whole table. -/
theorem encode_equalUnless_of_symbols
    (hsymbol : ∀ s state, (change s state).symbol? = state.symbol?) (errorOnConflicts : Bool)
    (hstates : ∀ s state, automaton.state? s = some state →
      EqualUnless kind (encodeState symbols automaton s state)
        (encodeState symbols (automaton.mapStates change) s (change s state))) :
    EqualUnless kind (encode symbols automaton errorOnConflicts)
      (encode symbols (automaton.mapStates change) errorOnConflicts) := by
  have hencode := encode_equalUnless errorOnConflicts hstates
  -- the accessing symbols are the same, so the table need not be changed
  rw [Automaton.map_symbol?_mapStates hsymbol] at hencode
  cases htable : encode symbols automaton errorOnConflicts with
  | error cause =>
    rw [htable] at hencode
    exact hencode
  | ok table =>
    rw [htable, ← stateSymbols_of_encode htable] at hencode
    exact hencode

end ParseTable

/-! ## Fewer moves and gotos -/

/-- The state with only those moves and gotos that are kept. -/
def State.keeping (state : State) (keepMove : Move → Bool) (keepGoto : String × StateId → Bool) :
    State :=
  { state with
    actions := state.actions.map fun entry => (entry.1, entry.2.filter keepMove)
    gotos := state.gotos.filter keepGoto }

/-- The automaton with only those moves and gotos that are kept. -/
def Automaton.keeping (automaton : Automaton) (keepMove : Move → Bool)
    (keepGoto : String × StateId → Bool) : Automaton :=
  automaton.mapStates fun _ state => state.keeping keepMove keepGoto

/-- Moves and gotos that are errors of one kind may be left out of an automaton: it gets the same
table, or is rejected for one of them, or is rejected in the same way. -/
theorem ParseTable.encode_keeping {kind : EncodingError → Prop} {keepMove : Move → Bool}
    {keepGoto : String × StateId → Bool}
    (hmoves : ∀ s state name move, automaton.state? s = some state → move ∈ state.recorded name →
      keepMove move = false → ∀ terminal,
        ∃ cause, encodeMove symbols automaton s name terminal move = .error cause ∧ kind cause)
    (hgotos : ∀ s state goto, automaton.state? s = some state → goto ∈ state.gotos →
      keepGoto goto = false →
        symbols.nonterminalId? goto.1 = none ∧ kind (.unknownSymbol goto.1))
    (errorOnConflicts : Bool) :
    EqualUnless kind (encode symbols automaton errorOnConflicts)
      (encode symbols (automaton.keeping keepMove keepGoto) errorOnConflicts) := by
  have hsymbol : ∀ (_ : StateId) (state : State),
      (state.keeping keepMove keepGoto).symbol? = state.symbol? := fun _ _ => rfl
  -- records stay as they are, so entries and gotos can be compared one by one
  refine encode_equalUnless_of_symbols hsymbol errorOnConflicts fun s state hstate => ?_
  refine encodeState_equalUnless ?_ ?_
  · refine encodeEntries_equalUnless ?_ ?_
    · intro entry _ move _ _ terminal
      -- a move that is kept is encoded for the same states
      exact .inl (encodeMove_mapStates hsymbol s entry.1 terminal move).symm
    · intro entry hentry move hmove hdropped
      exact hmoves s state entry.1 move hstate (State.mem_recorded hentry hmove) hdropped
  · refine encodeGotos_equalUnless ?_ ?_
    · intro goto _ _
      exact .inl (checkTransition_mapStates hsymbol s goto.1 goto.2).symm
    · intro goto hgoto hdropped
      exact hgotos s state goto hstate hgoto hdropped

end ParserFoundry
