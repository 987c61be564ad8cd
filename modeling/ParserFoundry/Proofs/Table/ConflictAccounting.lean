import Mathlib.Algebra.Ring.Nat
import Mathlib.Data.Nat.Choose.Basic
import ParserFoundry.Proofs.Table.Exactness
/-!
# Conflict Accounting

The conflicts of an encoded table against the moves that its automaton records: one conflict for
every pair of distinct moves recorded for one cell, in the list for its kind, in the order of the
cells and, within a cell, of the recording.

Main results:
- `length_pairs`, `mem_pairs_iff`, `pairs_once`: the pairs of a list without repeats hold each
  unordered pair once, the earlier value in front.
- `Collects.conflictsOf`: a list of conflicts, collected over the whole encoding.
- `encode_accounts`: the accounts of an encoded table.
-/

namespace ParserFoundry

/-! ## Pairs -/

section Pairs

variable {α β : Type}

/-- All pairs of a list's values, the earlier one in front, in the order of the list. -/
def pairs : List α → List (α × α)
  | [] => []
  | first :: rest => rest.map (first, ·) ++ pairs rest

/-- A list without order has as many pairs as there are ways to choose two of its values. -/
theorem length_pairs (values : List α) : (pairs values).length = values.length.choose 2 := by
  -- the pairs with the first value, and the pairs of the rest: Pascal's rule
  induction values with
  | nil => rfl
  | cons first rest ih =>
    rw [pairs, List.length_append, List.length_map, ih, List.length_cons, Nat.choose_succ_succ,
      Nat.choose_one_right]

theorem pairs_map (f : α → β) (values : List α) :
    pairs (values.map f) = (pairs values).map (Prod.map f f) := by
  -- along the list, as pairs are listed
  induction values with
  | nil => rfl
  | cons first rest ih => simp [pairs, ih, Function.comp_def]

/-- Two values are a pair exactly where one stands in front of the other. -/
theorem mem_pairs_iff {values : List α} {a b : α} :
    (a, b) ∈ pairs values ↔ [a, b].Sublist values := by
  -- along the list: a pair has the first value in front, or is one of the rest
  induction values with
  | nil => simp [pairs]
  | cons first rest ih =>
    rw [pairs, List.mem_append, ih, List.sublist_cons_iff]
    constructor
    · rintro (hfirst | hrest)
      · obtain ⟨second, hsecond, heq⟩ := List.mem_map.mp hfirst
        cases heq
        exact .inr ⟨[b], rfl, List.singleton_sublist.mpr hsecond⟩
      · exact .inl hrest
    · rintro (hrest | ⟨tail, htail, hsublist⟩)
      · exact .inr hrest
      · cases htail
        exact .inl (List.mem_map_of_mem (List.singleton_sublist.mp hsublist))

theorem mem_of_mem_pairs {values : List α} {a b : α} (h : (a, b) ∈ pairs values) :
    a ∈ values ∧ b ∈ values := by
  have hsubset := (mem_pairs_iff.mp h).subset
  exact ⟨hsubset (by simp), hsubset (by simp)⟩

/-- Values that are all different make pairs that are all different. -/
theorem nodup_pairs {values : List α} (h : values.Nodup) : (pairs values).Nodup := by
  induction values with
  | nil => exact List.nodup_nil
  | cons first rest ih =>
    obtain ⟨hfirst, hrest⟩ := List.nodup_cons.mp h
    refine List.nodup_append.mpr ⟨hrest.map (fun _ _ heq => (Prod.mk.inj heq).2), ih hrest, ?_⟩
    -- a pair of both kinds would have the first value in the rest
    rintro pair hpair other hother rfl
    obtain ⟨second, -, rfl⟩ := List.mem_map.mp hpair
    exact hfirst (mem_of_mem_pairs hother).1

/-- Of two different values, one comes first: their pair stands in that order, and in no other. -/
theorem pairs_once {values : List α} (h : values.Nodup) {a b : α} (ha : a ∈ values)
    (hb : b ∈ values) (hne : a ≠ b) :
    ((a, b) ∈ pairs values ∧ (b, a) ∉ pairs values) ∨
      ((b, a) ∈ pairs values ∧ (a, b) ∉ pairs values) := by
  induction values with
  | nil => cases ha
  | cons first rest ih =>
    obtain ⟨hfirst, hrest⟩ := List.nodup_cons.mp h
    have hin : ∀ second ∈ rest, (first, second) ∈ pairs (first :: rest) := fun second hsecond =>
      List.mem_append_left _ (List.mem_map_of_mem hsecond)
    have hout : ∀ second ∈ rest, (second, first) ∉ pairs (first :: rest) := by
      intro second hsecond hmem
      rcases List.mem_append.mp hmem with hmem | hmem
      · obtain ⟨_, -, heq⟩ := List.mem_map.mp hmem
        exact hfirst ((Prod.mk.inj heq).1 ▸ hsecond)
      · exact hfirst (mem_of_mem_pairs hmem).2
    -- the first value stands in front of all others, and in front of it stands none
    rcases List.mem_cons.mp ha with rfl | ha' <;> rcases List.mem_cons.mp hb with rfl | hb'
    · exact absurd rfl hne
    · exact .inl ⟨hin b hb', hout b hb'⟩
    · exact .inr ⟨hin a ha', hout a ha'⟩
    · -- neither is the first value, which adds no pair of the two
      have hskip : ∀ x ∈ rest, ∀ y, (x, y) ∈ pairs (first :: rest) ↔ (x, y) ∈ pairs rest := by
        intro x hx y
        refine ⟨fun hmem => ?_, List.mem_append_right _⟩
        rcases List.mem_append.mp hmem with hmem | hmem
        · obtain ⟨_, -, heq⟩ := List.mem_map.mp hmem
          exact absurd ((Prod.mk.inj heq).1 ▸ hx) hfirst
        · exact hmem
      rw [hskip a ha', hskip b hb']
      exact ih hrest ha' hb'

end Pairs

/-! ## Cells and clashes -/

/-- A cell of the action table with the distinct moves recorded for it, in recording order. -/
structure ActionCell where
  state : StateId
  terminal : TerminalId
  moves : List Move

/-- Two distinct moves recorded for one cell, the one recorded first in front. -/
structure Clash where
  state : StateId
  terminal : TerminalId
  first : Move
  second : Move

/-- All cells, state after state, and terminal after terminal within a state. -/
def Automaton.actionCells (automaton : Automaton) (symbols : SymbolTable) : List ActionCell :=
  automaton.states.zipIdx.flatMap fun (state, i) =>
    symbols.terminals.zipIdx.map fun (terminal, j) =>
      ⟨⟨i⟩, ⟨j⟩, (state.recorded terminal.name).eraseDups⟩

namespace ActionCell

/-- The pairs of the moves of a cell. -/
def clashes (cell : ActionCell) : List Clash :=
  (pairs cell.moves).map fun (first, second) => ⟨cell.state, cell.terminal, first, second⟩

/-- A cell comes before another in the order of the tables. -/
def Before (first second : ActionCell) : Prop :=
  first.state.index < second.state.index ∨
    first.state = second.state ∧ first.terminal.index < second.terminal.index

end ActionCell

/-- All clashes, in the order of their cells. -/
def Automaton.clashes (automaton : Automaton) (symbols : SymbolTable) : List Clash :=
  (automaton.actionCells symbols).flatMap ActionCell.clashes

namespace Clash

/-- A shift against a reduction, whichever was recorded first. -/
def shiftReduce? (symbols : SymbolTable) (clash : Clash) :
    Option (TerminalId × ProductionId × StateId) :=
  match clash.first, clash.second with
  | .shift _, .reduce reference | .reduce reference, .shift _ =>
    (symbols.productionRef? reference.nonterminal reference.ordinal).map fun production =>
      (clash.terminal, production, clash.state)
  | _, _ => none

/-- Two reductions, in recording order. -/
def reduceReduce? (symbols : SymbolTable) (clash : Clash) :
    Option (ProductionId × ProductionId × StateId) :=
  match clash.first, clash.second with
  | .reduce first, .reduce second =>
    (symbols.productionRef? first.nonterminal first.ordinal).bind fun production =>
      (symbols.productionRef? second.nonterminal second.ordinal).map fun later =>
        (production, later, clash.state)
  | _, _ => none

/-- Two shifts, or anything against accepting. -/
def other? (clash : Clash) : Option (TerminalId × StateId) :=
  match clash.first, clash.second with
  | .shift _, .shift _ => some (clash.terminal, clash.state)
  | .accept, _ => some (clash.terminal, clash.state)
  | _, .accept => some (clash.terminal, clash.state)
  | _, _ => none

end Clash

/-! ## Cells in order -/

variable {symbols : SymbolTable} {automaton : Automaton}

/-- There is one cell for each state and terminal, and its moves are those recorded for it. -/
theorem mem_actionCells_iff {cell : ActionCell} :
    cell ∈ automaton.actionCells symbols ↔
      ∃ state name, automaton.state? cell.state = some state ∧
        symbols.terminalName? cell.terminal = some name ∧
        cell.moves = (state.recorded name).eraseDups := by
  -- cells are given by the places of their state and terminal in their lists
  obtain ⟨⟨i⟩, ⟨j⟩, moves⟩ := cell
  simp only [Automaton.actionCells, List.mem_flatMap, List.mem_map, Prod.exists,
    List.mem_zipIdx_iff_getElem?, ActionCell.mk.injEq, StateId.mk.injEq, TerminalId.mk.injEq,
    Automaton.state?, SymbolTable.terminalName?, SymbolTable.terminal?, Option.map_eq_some_iff]
  constructor
  · rintro ⟨state, _, hstate, terminal, _, hterminal, rfl, rfl, rfl⟩
    exact ⟨state, terminal.name, hstate, ⟨terminal, hterminal, rfl⟩, rfl⟩
  · rintro ⟨state, _, hstate, ⟨terminal, hterminal, rfl⟩, rfl⟩
    exact ⟨state, i, hstate, terminal, j, hterminal, rfl, rfl, rfl⟩

/-- Cells are listed in the order of the tables. -/
theorem pairwise_actionCells : (automaton.actionCells symbols).Pairwise ActionCell.Before := by
  refine List.pairwise_flatMap.mpr ⟨?_, ?_⟩
  · -- within a state
    rintro ⟨state, i⟩ -
    refine List.pairwise_map.mpr ((pairwise_zipIdx symbols.terminals).imp ?_)
    exact fun hlt => .inr ⟨rfl, hlt⟩
  · -- between two states
    refine (pairwise_zipIdx automaton.states).imp ?_
    intro first second hlt cell hcell other hother
    obtain ⟨_, -, rfl⟩ := List.mem_map.mp hcell
    obtain ⟨_, -, rfl⟩ := List.mem_map.mp hother
    exact .inl hlt

/-! ## Collecting conflicts -/

/-- A list that is read off conflicts and grows as conflicts are appended. -/
structure Collects {α : Type} (list : Conflicts → List α) : Prop where
  empty : list {} = []
  append : ∀ first second, list (first ++ second) = list first ++ list second

namespace Collects

variable {α β : Type} {list : Conflicts → List α}

theorem foldl (hlist : Collects list) (conflicts : β → Conflicts) (values : List β)
    (start : Conflicts) :
    list (values.foldl (fun found value => found ++ conflicts value) start) =
      list start ++ values.flatMap fun value => list (conflicts value) := by
  -- values are added at the end, so the start may be anything
  induction values generalizing start with
  | nil => simp
  | cons value rest ih =>
    rw [List.foldl_cons, ih, hlist.append, List.flatMap_cons, List.append_assoc]

/-- The conflicts of a cell are those of the pairs of its candidates. -/
theorem cellConflicts (hlist : Collects list) (state : StateId) (terminal : TerminalId)
    (actions : List Action) :
    list (ParseTable.cellConflicts state terminal actions) =
      (pairs actions).flatMap fun pair =>
        list (ParseTable.conflictOf state terminal pair.1 pair.2) := by
  -- along the candidates: those of the first one, and those among the rest
  induction actions with
  | nil => exact hlist.empty
  | cons first rest ih =>
    rw [ParseTable.cellConflicts, hlist.append, hlist.foldl, hlist.empty, ih, pairs,
      List.flatMap_append, List.flatMap_map, List.nil_append]

/-- The conflicts of a row are those of the clashes of its cells. -/
theorem row (hlist : Collects list) (hsymbols : symbols.WellFormed) {state : State}
    (hvalid : state.Valid symbols automaton) (id : StateId) :
    list (ParseTable.rowOf symbols id state).conflicts =
      symbols.terminals.zipIdx.flatMap fun (terminal, j) =>
        (pairs (state.recorded terminal.name).eraseDups).flatMap fun pair =>
          list (ParseTable.conflictOf id ⟨j⟩ (symbols.actionOf ⟨j⟩ pair.1)
            (symbols.actionOf ⟨j⟩ pair.2)) := by
  have hids : symbols.terminalIds = symbols.terminals.zipIdx.map fun entry => ⟨entry.2⟩ := by
    rw [SymbolTable.terminalIds, List.range_eq_range', ← List.zipIdx_map_snd, List.map_map]
    rfl
  simp only [ParseTable.rowOf, hlist.foldl, hlist.empty, List.nil_append, List.flatMap_map, hids,
    hlist.cellConflicts]
  -- cell by cell, the candidates are the images of the distinct moves, and so are their pairs
  refine List.flatMap_congr fun entry hentry => ?_
  obtain ⟨terminal, j⟩ := entry
  have hname : symbols.terminalName? ⟨j⟩ = some terminal.name := by
    simp [SymbolTable.terminalName?, SymbolTable.terminal?,
      List.mem_zipIdx_iff_getElem?.mp hentry]
  rw [ParseTable.candidates_actionsOf hsymbols hvalid hname, pairs_map, List.flatMap_map]
  rfl

/-- All conflicts of an automaton are those of its clashes, in order. -/
theorem conflictsOf (hlist : Collects list) (hsymbols : symbols.WellFormed)
    (hencodable : automaton.Encodable symbols) :
    list (ParseTable.conflictsOf symbols automaton) =
      (automaton.clashes symbols).flatMap fun clash =>
        list (ParseTable.conflictOf clash.state clash.terminal
          (symbols.actionOf clash.terminal clash.first)
          (symbols.actionOf clash.terminal clash.second)) := by
  -- state by state, with the cells of a state in the order of the terminals
  simp only [ParseTable.conflictsOf, ParseTable.rowsOf, hlist.foldl, hlist.empty,
    List.nil_append, List.flatMap_map, Automaton.clashes, Automaton.actionCells,
    List.flatMap_assoc, ActionCell.clashes]
  refine List.flatMap_congr fun entry hentry => ?_
  obtain ⟨state, i⟩ := entry
  have hstate : state ∈ automaton.states :=
    List.mem_of_getElem? (List.mem_zipIdx_iff_getElem?.mp hentry)
  exact hlist.row hsymbols (hencodable.states_valid state hstate) ⟨i⟩

end Collects

/-! ## Accounts -/

theorem collects_shiftReduce : Collects Conflicts.shiftReduce :=
  ⟨rfl, fun _ _ => rfl⟩

theorem collects_reduceReduce : Collects Conflicts.reduceReduce :=
  ⟨rfl, fun _ _ => rfl⟩

theorem collects_other : Collects Conflicts.other :=
  ⟨rfl, fun _ _ => rfl⟩

/-- The moves of a clash are valid for one terminal name. -/
theorem valid_of_mem_clashes (hencodable : automaton.Encodable symbols) {clash : Clash}
    (h : clash ∈ automaton.clashes symbols) :
    ∃ name, clash.first.Valid symbols automaton name ∧
      clash.second.Valid symbols automaton name := by
  -- both moves are in the cell of the clash, so they are recorded
  obtain ⟨cell, hcell, hclash⟩ := List.mem_flatMap.mp h
  obtain ⟨state, name, hstate, -, hmoves⟩ := mem_actionCells_iff.mp hcell
  obtain ⟨⟨first, second⟩, hpair, rfl⟩ := List.mem_map.mp hclash
  have hvalid := ParseTable.state_valid hencodable hstate
  obtain ⟨hfirst, hsecond⟩ := mem_of_mem_pairs hpair
  rw [hmoves, List.mem_eraseDups] at hfirst hsecond
  exact ⟨name, ParseTable.valid_of_mem_recorded hvalid hfirst,
    ParseTable.valid_of_mem_recorded hvalid hsecond⟩

/-- A reduction that is valid has the action of its production. -/
theorem actionOf_valid_reduce (hsymbols : symbols.WellFormed) {reference : ProductionRef}
    {name : String} (h : Move.Valid symbols automaton name (.reduce reference))
    (terminal : TerminalId) :
    ∃ production length nonterminal,
      symbols.productionRef? reference.nonterminal reference.ordinal = some production ∧
      symbols.actionOf terminal (.reduce reference) = .reduce production length nonterminal := by
  obtain ⟨-, production, hproduction⟩ := h
  obtain ⟨entry, hentry, -, -⟩ := id hproduction
  exact ⟨production, _, _, (SymbolTable.productionRef?_eq_some_iff hsymbols).mpr hproduction,
    SymbolTable.actionOf_reduce hsymbols hproduction hentry⟩

/-- One clash is one conflict, in the list of its kind. -/
theorem conflictOf_clash (hsymbols : symbols.WellFormed) (hencodable : automaton.Encodable symbols)
    {clash : Clash} (h : clash ∈ automaton.clashes symbols) :
    ParseTable.conflictOf clash.state clash.terminal
        (symbols.actionOf clash.terminal clash.first)
        (symbols.actionOf clash.terminal clash.second) =
      ⟨(clash.shiftReduce? symbols).toList, (clash.reduceReduce? symbols).toList,
        clash.other?.toList⟩ ∧
    (clash.shiftReduce? symbols).toList.length + (clash.reduceReduce? symbols).toList.length +
      clash.other?.toList.length = 1 := by
  obtain ⟨name, hfirst, hsecond⟩ := valid_of_mem_clashes hencodable h
  obtain ⟨state, terminal, first, second⟩ := clash
  -- all pairs of kinds of moves; a reduction needs its production to be an action of its kind
  cases first with
  | shift target =>
    cases second with
    | shift other => exact ⟨rfl, rfl⟩
    | accept => exact ⟨rfl, rfl⟩
    | reduce reference =>
      obtain ⟨production, length, nonterminal, hfound, haction⟩ :=
        actionOf_valid_reduce hsymbols hsecond terminal
      simp [haction, hfound, ParseTable.conflictOf, Clash.shiftReduce?, Clash.reduceReduce?,
        Clash.other?]
  | accept =>
    cases second with
    | shift other => exact ⟨rfl, rfl⟩
    | accept => exact ⟨rfl, rfl⟩
    | reduce reference =>
      obtain ⟨production, length, nonterminal, hfound, haction⟩ :=
        actionOf_valid_reduce hsymbols hsecond terminal
      simp [haction, ParseTable.conflictOf, Clash.shiftReduce?, Clash.reduceReduce?,
        Clash.other?]
  | reduce reference =>
    obtain ⟨production, length, nonterminal, hfound, haction⟩ :=
      actionOf_valid_reduce hsymbols hfirst terminal
    cases second with
    | shift other =>
      simp [haction, hfound, ParseTable.conflictOf, Clash.shiftReduce?, Clash.reduceReduce?,
        Clash.other?]
    | accept =>
      simp [haction, ParseTable.conflictOf, Clash.shiftReduce?, Clash.reduceReduce?,
        Clash.other?]
    | reduce later =>
      obtain ⟨production', length', nonterminal', hfound', haction'⟩ :=
        actionOf_valid_reduce hsymbols hsecond terminal
      simp [haction, haction', hfound, hfound', ParseTable.conflictOf, Clash.shiftReduce?,
        Clash.reduceReduce?, Clash.other?]

/-- Three ways to file a value, of which one applies to each, file every value once. -/
private theorem length_filterMap_three {α β γ δ : Type} {values : List α} {first : α → Option β}
    {second : α → Option γ} {third : α → Option δ}
    (hone : ∀ value ∈ values, (first value).toList.length + (second value).toList.length +
      (third value).toList.length = 1) :
    (values.filterMap first).length + (values.filterMap second).length +
      (values.filterMap third).length = values.length := by
  simp only [List.filterMap_eq_flatMap_toList]
  -- along the values, each of which is filed once
  induction values with
  | nil => rfl
  | cons value rest ih =>
    have hvalue := hone value (List.mem_cons_self ..)
    have hrest := ih fun value hmem => hone value (List.mem_cons_of_mem _ hmem)
    simp only [List.flatMap_cons, List.length_append, List.length_cons]
    omega

/-- The lists of conflicts that a table owes to its automaton. -/
structure Accounts (symbols : SymbolTable) (automaton : Automaton) (found : Conflicts) : Prop where
  shiftReduce_eq :
    found.shiftReduce = (automaton.clashes symbols).filterMap (Clash.shiftReduce? symbols)
  reduceReduce_eq :
    found.reduceReduce = (automaton.clashes symbols).filterMap (Clash.reduceReduce? symbols)
  other_eq : found.other = (automaton.clashes symbols).filterMap Clash.other?
  count_eq : found.count = (automaton.clashes symbols).length
  /-- No reduction is left out for want of a production. -/
  reduced_found : ∀ clash ∈ automaton.clashes symbols, ∀ reference : ProductionRef,
    clash.first = .reduce reference ∨ clash.second = .reduce reference →
    ∃ production, symbols.IsProduction reference production ∧
      symbols.productionRef? reference.nonterminal reference.ordinal = some production

theorem accounts_conflictsOf (hsymbols : symbols.WellFormed)
    (hencodable : automaton.Encodable symbols) :
    Accounts symbols automaton (ParseTable.conflictsOf symbols automaton) := by
  have hclash := fun clash (hmem : clash ∈ automaton.clashes symbols) =>
    conflictOf_clash hsymbols hencodable hmem
  -- each list holds what the clashes come to, filtered by the kind
  have hshiftReduce : (ParseTable.conflictsOf symbols automaton).shiftReduce =
      (automaton.clashes symbols).filterMap (Clash.shiftReduce? symbols) := by
    rw [collects_shiftReduce.conflictsOf hsymbols hencodable, List.filterMap_eq_flatMap_toList]
    exact List.flatMap_congr fun clash hmem => by rw [(hclash clash hmem).1]
  have hreduceReduce : (ParseTable.conflictsOf symbols automaton).reduceReduce =
      (automaton.clashes symbols).filterMap (Clash.reduceReduce? symbols) := by
    rw [collects_reduceReduce.conflictsOf hsymbols hencodable, List.filterMap_eq_flatMap_toList]
    exact List.flatMap_congr fun clash hmem => by rw [(hclash clash hmem).1]
  have hother : (ParseTable.conflictsOf symbols automaton).other =
      (automaton.clashes symbols).filterMap Clash.other? := by
    rw [collects_other.conflictsOf hsymbols hencodable, List.filterMap_eq_flatMap_toList]
    exact List.flatMap_congr fun clash hmem => by rw [(hclash clash hmem).1]
  refine ⟨hshiftReduce, hreduceReduce, hother, ?_, ?_⟩
  · rw [Conflicts.count, hshiftReduce, hreduceReduce, hother]
    exact length_filterMap_three fun clash hmem => (hclash clash hmem).2
  · intro clash hmem reference hreduce
    -- both moves of a clash are recorded, so they are valid
    obtain ⟨name, hfirst, hsecond⟩ := valid_of_mem_clashes hencodable hmem
    have hvalid : Move.Valid symbols automaton name (.reduce reference) := by
      rcases hreduce with heq | heq
      · exact heq ▸ hfirst
      · exact heq ▸ hsecond
    obtain ⟨-, production, hproduction⟩ := hvalid
    exact ⟨production, hproduction,
      (SymbolTable.productionRef?_eq_some_iff hsymbols).mpr hproduction⟩

/-- Clashes are counted cell by cell. -/
theorem length_clashes (symbols : SymbolTable) (automaton : Automaton) :
    (automaton.clashes symbols).length =
      ((automaton.actionCells symbols).map fun cell =>
        cell.moves.length * (cell.moves.length - 1) / 2).sum := by
  -- a cell with so many moves has as many pairs as two of them can be chosen
  rw [Automaton.clashes, List.length_flatMap]
  congr 1
  refine List.map_congr_left fun cell _ => ?_
  rw [ActionCell.clashes, List.length_map, length_pairs, Nat.choose_two_right]

theorem isEmpty_iff_count_eq_zero (found : Conflicts) : found.isEmpty = true ↔ found.count = 0 := by
  simp [Conflicts.isEmpty, Conflicts.count, and_assoc]

theorem eq_empty_of_isEmpty {found : Conflicts} (h : found.isEmpty = true) : found = {} := by
  obtain ⟨shiftReduce, reduceReduce, other⟩ := found
  simpa [Conflicts.isEmpty, and_assoc] using h

/-- An encoded table keeps all conflicts of its automaton. -/
theorem conflicts?_tableOf (symbols : SymbolTable) (automaton : Automaton) :
    (ParseTable.tableOf symbols automaton).conflicts?.getD {} =
        ParseTable.conflictsOf symbols automaton ∧
      ((ParseTable.tableOf symbols automaton).conflicts? = none ↔
        (ParseTable.conflictsOf symbols automaton).isEmpty = true) := by
  simp only [ParseTable.tableOf, ParseTable.ofRows]
  cases hconflicts : (ParseTable.conflictsOf symbols automaton).isEmpty with
  | false => simp
  | true => simp [eq_empty_of_isEmpty hconflicts]

/-- **Conflict accounting.** The table of an accepted automaton holds one conflict for every pair of
distinct moves of every cell, and no others: each in the list of its kind, in the order of the
cells and of the recording. A cell with `k` distinct moves, however often they are recorded, gives
`k * (k - 1) / 2` conflicts, and there are no conflicts exactly when no cell has two moves. -/
theorem encode_accounts {grammar : Grammar}
    (hsymbols : SymbolTable.ofGrammar grammar = .ok symbols) {table : ParseTable}
    (h : ParseTable.encode symbols automaton false = .ok table) :
    Accounts symbols automaton (table.conflicts?.getD {}) ∧
    (table.conflicts?.getD {}).count =
      ((automaton.actionCells symbols).map fun cell =>
        cell.moves.length * (cell.moves.length - 1) / 2).sum ∧
    (table.conflicts? = none ↔ ∀ cell ∈ automaton.actionCells symbols, cell.moves.length ≤ 1) ∧
    (automaton.actionCells symbols).Pairwise ActionCell.Before ∧
    (∀ cell, cell ∈ automaton.actionCells symbols ↔
      ∃ state name, automaton.state? cell.state = some state ∧
        symbols.terminalName? cell.terminal = some name ∧
        cell.moves = (state.recorded name).eraseDups) ∧
    ∀ cell ∈ automaton.actionCells symbols,
      (pairs cell.moves).Nodup ∧
      (∀ a b, (a, b) ∈ pairs cell.moves ↔ [a, b].Sublist cell.moves) ∧
      ∀ a ∈ cell.moves, ∀ b ∈ cell.moves, a ≠ b →
        ((a, b) ∈ pairs cell.moves ∧ (b, a) ∉ pairs cell.moves) ∨
          ((b, a) ∈ pairs cell.moves ∧ (a, b) ∉ pairs cell.moves) := by
  have hwellFormed := SymbolTable.wellFormed_of_ofGrammar hsymbols
  obtain ⟨hencodable, rfl, -⟩ := (ParseTable.encode_eq_ok_iff hwellFormed).mp h
  obtain ⟨hfound, hnone⟩ := conflicts?_tableOf symbols automaton
  have haccounts := accounts_conflictsOf hwellFormed hencodable
  have hcount := haccounts.count_eq.trans (length_clashes symbols automaton)
  rw [hfound]
  refine ⟨haccounts, hcount, ?_, pairwise_actionCells, fun cell => mem_actionCells_iff, ?_⟩
  · -- a sum is zero when all its summands are
    rw [hnone, isEmpty_iff_count_eq_zero, hcount, List.sum_eq_zero_iff_forall_eq_nat]
    simp only [List.mem_map, forall_exists_index, and_imp, forall_apply_eq_imp_iff₂,
      ← Nat.choose_two_right, Nat.choose_eq_zero_iff]
    exact forall₂_congr fun _ _ => by omega
  · intro cell hcell
    obtain ⟨state, name, -, -, hmoves⟩ := mem_actionCells_iff.mp hcell
    -- repeated moves are dropped, so the moves of a cell are distinct
    have hnodup : cell.moves.Nodup := hmoves ▸ nodup_eraseDups _
    exact ⟨nodup_pairs hnodup, fun a b => mem_pairs_iff,
      fun a ha b hb hne => pairs_once hnodup ha hb hne⟩

/-- The automaton of statements with four more moves on a number after a list of statements: two
reductions, and two repeated moves. -/
def Statements.ambiguous : Automaton where
  states := Statements.automaton.states.modify 1 fun state =>
    { state with actions := state.actions ++
        [("Num", [.reduce ⟨"Stmts", 1⟩, .shift ⟨2⟩, .reduce ⟨"Stmt", 0⟩]),
          ("Num", [.reduce ⟨"Stmts", 1⟩])] }

/-- Three distinct moves make three conflicts, however often they are recorded. -/
theorem encode_accounts_ambiguous :
    SymbolTable.ofGrammar Statements.grammar = .ok Statements.symbols ∧
    ∃ table, ParseTable.encode Statements.symbols Statements.ambiguous false = .ok table ∧
      Accounts Statements.symbols Statements.ambiguous (table.conflicts?.getD {}) ∧
      table.conflicts? = some
        { shiftReduce := [(⟨2⟩, ⟨1⟩, ⟨1⟩), (⟨2⟩, ⟨2⟩, ⟨1⟩)]
          reduceReduce := [(⟨1⟩, ⟨2⟩, ⟨1⟩)] } :=
  ⟨rfl, _, rfl, (encode_accounts Statements.ofGrammar_grammar rfl).1, rfl⟩

end ParserFoundry
