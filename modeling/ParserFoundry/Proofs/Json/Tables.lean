import ParserFoundry.Json.Table
import ParserFoundry.Proofs.Json.Models
import ParserFoundry.Proofs.Parser.ExpectedTerminals
import ParserFoundry.Proofs.Table.ConflictAccounting
/-!
# Tables Are Read Back

The forms of actions and conflicts are lossless, and so is the form of the tables of an automaton,
which packs the marks of occupied cells into words of 64 bits.

Main results:
- `Bits.take_flatMap_toWords`: marks are found in their words, whatever their number is.
- `ParseTable.fits_tableOf`: the numbers in the tables of an automaton are counts.
- `formats_lossless`: models and tables are decoded from their texts.
-/

namespace ParserFoundry

open Json (countLimit Lossless asCount? asString? asList? asOption? asPair? asTriple? optionalField?
  fullVariant plainVariant Canonical RoundTrips encode decode?)

/-! ## Actions and conflicts -/

/-- The numbers of an action are counts. -/
def Action.Fits : Action → Prop
  | shift target terminal => target.index < countLimit ∧ terminal.index < countLimit
  | reduce production length nonterminal =>
    production.index < countLimit ∧ length < countLimit ∧ nonterminal.index < countLimit
  | accept => True
  | error => True

namespace Action

/-- The content of a shift is a pair of numbers. -/
theorem lossless_shift :
    Lossless (fun content : StateId × TerminalId => .array [content.1.toJson, content.2.toJson])
      (asPair? StateId.ofJson? TerminalId.ofJson?)
      (fun content => content.1.index < countLimit ∧ content.2.index < countLimit) :=
  StateId.lossless.pair TerminalId.lossless

/-- The content of a reduction is a triple of numbers. -/
theorem lossless_reduce :
    Lossless (fun content : ProductionId × Nat × NonterminalId =>
        .array [content.1.toJson, .ofNat content.2.1, content.2.2.toJson])
      (asTriple? ProductionId.ofJson? asCount? NonterminalId.ofJson?)
      (fun content => content.1.index < countLimit ∧ content.2.1 < countLimit ∧
        content.2.2.index < countLimit) :=
  ProductionId.lossless.triple Lossless.count NonterminalId.lossless

/-- Actions are read back if their numbers are counts. -/
theorem lossless : Lossless Action.toJson Action.ofJson? Action.Fits where
  canonical action := by
    cases action with
    | shift target terminal =>
      exact Json.canonical_fullVariant _ (lossless_shift.canonical (target, terminal))
    | reduce production length nonterminal =>
      exact Json.canonical_fullVariant _
        (lossless_reduce.canonical (production, length, nonterminal))
    | accept => exact Json.canonical_plainVariant _
    | error => exact Json.canonical_plainVariant _
  found action h := by
    -- actions with numbers have them as their content, in order
    cases action with
    | shift target terminal =>
      rw [toJson, ofJson?, Json.variant?_fullVariant]
      simp [lossless_shift.found (target, terminal) h]
    | reduce production length nonterminal =>
      rw [toJson, ofJson?, Json.variant?_fullVariant]
      simp [lossless_reduce.found (production, length, nonterminal) h]
    | accept =>
      rw [toJson, ofJson?, Json.variant?_plainVariant]
      rfl
    | error =>
      rw [toJson, ofJson?, Json.variant?_plainVariant]
      rfl
  inRange json action h := by
    simp only [ofJson?, Option.bind_eq_bind, Option.bind_eq_some_iff] at h
    obtain ⟨variant, -, h⟩ := h
    -- a variant without content is refused where content comes with it
    split at h
    case h_1 =>
      obtain ⟨content, hcontent, rfl⟩ := lossless_shift.of_content h
      exact hcontent
    case h_2 =>
      obtain ⟨content, hcontent, rfl⟩ := lossless_reduce.of_content h
      exact hcontent
    case h_3 =>
      split at h
      case isTrue =>
        cases h
        trivial
      case isFalse => cases h
    case h_4 =>
      split at h
      case isTrue =>
        cases h
        trivial
      case isFalse => cases h
    case h_5 => cases h

end Action

/-- The numbers of conflicts are counts. -/
structure Conflicts.Fits (conflicts : Conflicts) : Prop where
  shiftReduce : ∀ entry ∈ conflicts.shiftReduce, entry.1.index < countLimit ∧
    entry.2.1.index < countLimit ∧ entry.2.2.index < countLimit
  reduceReduce : ∀ entry ∈ conflicts.reduceReduce, entry.1.index < countLimit ∧
    entry.2.1.index < countLimit ∧ entry.2.2.index < countLimit
  other : ∀ entry ∈ conflicts.other, entry.1.index < countLimit ∧ entry.2.index < countLimit

namespace Conflicts

/-- A conflict with a shift names its terminal, its production and its state. -/
theorem lossless_shiftReduce :
    Lossless (Json.ofList fun entry : TerminalId × ProductionId × StateId =>
        .array [entry.1.toJson, entry.2.1.toJson, entry.2.2.toJson])
      (asList? (asTriple? TerminalId.ofJson? ProductionId.ofJson? StateId.ofJson?))
      (fun entries => ∀ entry ∈ entries, entry.1.index < countLimit ∧
        entry.2.1.index < countLimit ∧ entry.2.2.index < countLimit) :=
  (TerminalId.lossless.triple ProductionId.lossless StateId.lossless).list

/-- A conflict of two reductions names both productions and the state. -/
theorem lossless_reduceReduce :
    Lossless (Json.ofList fun entry : ProductionId × ProductionId × StateId =>
        .array [entry.1.toJson, entry.2.1.toJson, entry.2.2.toJson])
      (asList? (asTriple? ProductionId.ofJson? ProductionId.ofJson? StateId.ofJson?))
      (fun entries => ∀ entry ∈ entries, entry.1.index < countLimit ∧
        entry.2.1.index < countLimit ∧ entry.2.2.index < countLimit) :=
  (ProductionId.lossless.triple ProductionId.lossless StateId.lossless).list

/-- Any other conflict names its terminal and its state. -/
theorem lossless_other :
    Lossless (Json.ofList fun entry : TerminalId × StateId =>
        .array [entry.1.toJson, entry.2.toJson])
      (asList? (asPair? TerminalId.ofJson? StateId.ofJson?))
      (fun entries => ∀ entry ∈ entries, entry.1.index < countLimit ∧
        entry.2.index < countLimit) :=
  (TerminalId.lossless.pair StateId.lossless).list

/-- Conflicts are a record of three lists. -/
theorem lossless : Lossless Conflicts.toJson Conflicts.ofJson? Conflicts.Fits where
  canonical conflicts := by
    refine Json.canonical_record
      (List.forall_mem_cons.mpr ⟨lossless_shiftReduce.canonical conflicts.shiftReduce, ?_⟩)
    refine List.forall_mem_cons.mpr ⟨lossless_reduceReduce.canonical conflicts.reduceReduce, ?_⟩
    exact List.forall_mem_singleton.mpr (lossless_other.canonical conflicts.other)
  found conflicts h := by
    -- each of the three lists is found for itself
    have hshiftReduce := lossless_shiftReduce.found conflicts.shiftReduce h.shiftReduce
    have hreduceReduce := lossless_reduceReduce.found conflicts.reduceReduce h.reduceReduce
    have hother := lossless_other.found conflicts.other h.other
    rw [toJson, ofJson?, Json.fields?_record _ (by rfl) (by decide)]
    simp [hshiftReduce, hreduceReduce, hother]
  inRange json conflicts h := by
    simp only [ofJson?, Option.bind_eq_bind, Option.bind_eq_some_iff] at h
    obtain ⟨fields, -, h⟩ := h
    split at h
    case h_1 =>
      obtain ⟨shiftReduce, hshiftReduce, h⟩ := Option.bind_eq_some_iff.mp h
      obtain ⟨reduceReduce, hreduceReduce, h⟩ := Option.bind_eq_some_iff.mp h
      obtain ⟨other, hother, rfl⟩ := lossless_other.of_content h
      exact ⟨lossless_shiftReduce.inRange _ _ hshiftReduce,
        lossless_reduceReduce.inRange _ _ hreduceReduce, hother⟩
    case h_2 => cases h

end Conflicts

/-! ## Marks in words -/

namespace Bits

/-- A number with as many digits as there are marks is below that power of two. -/
theorem toNat_lt (bits : List Bool) : toNat bits < 2 ^ bits.length := by
  -- the first mark is the lowest digit
  induction bits with
  | nil => decide
  | cons bit rest ih =>
    rw [toNat, List.length_cons, Nat.pow_succ]
    split <;> omega

theorem ofNat_zero (count : Nat) : ofNat count 0 = List.replicate count false := by
  induction count with
  | zero => rfl
  | succ count ih =>
    rw [ofNat, Nat.zero_div, ih]
    rfl

/-- The digits of a number are the marks that it was made of; the others are not set. -/
theorem ofNat_toNat {count : Nat} {bits : List Bool} (h : bits.length ≤ count) :
    ofNat count (toNat bits) = bits ++ List.replicate (count - bits.length) false := by
  induction bits generalizing count with
  | nil => exact ofNat_zero count
  | cons bit rest ih =>
    -- there is at least one digit for the first mark
    obtain ⟨more, rfl⟩ : ∃ more, count = more + 1 := ⟨count - 1, by rw [List.length_cons] at h; omega⟩
    have hlow : ((if bit then 1 else 0) + 2 * toNat rest) % 2 = if bit then 1 else 0 := by
      split <;> omega
    have hhigh : ((if bit then 1 else 0) + 2 * toNat rest) / 2 = toNat rest := by
      split <;> omega
    rw [List.length_cons] at h ⊢
    rw [toNat, ofNat, hlow, hhigh, ih (by omega), Nat.add_sub_add_right]
    cases bit <;> rfl

/-- The marks are the first digits of their words. -/
theorem take_flatMap_toWords {count : Nat} {bits : List Bool} (h : bits.length ≤ count * 64) :
    ((toWords count bits).flatMap (ofNat 64)).take bits.length = bits := by
  -- word by word, with 64 marks for each
  induction count generalizing bits with
  | zero =>
    obtain rfl := List.eq_nil_of_length_eq_zero (by omega : bits.length = 0)
    rfl
  | succ count ih =>
    have hword : (bits.take 64).length ≤ 64 := List.length_take_le 64 bits
    have hrest : (bits.drop 64).length ≤ count * 64 := by
      rw [List.length_drop]
      omega
    rw [toWords, List.flatMap_cons, ofNat_toNat hword]
    by_cases hlast : bits.length ≤ 64
    · -- all marks are in this word
      rw [List.take_of_length_le hlast, List.append_assoc]
      exact List.take_left
    · -- this word is full
      have hfull : (bits.take 64).length = 64 := by
        rw [List.length_take]
        omega
      have hlength : bits.length = (bits.take 64).length + (bits.drop 64).length := by
        rw [← List.length_append, List.take_append_drop]
      rw [hfull, Nat.sub_self, List.replicate_zero, List.append_nil, hlength,
        List.take_length_add_append, ih hrest, List.take_append_drop]

/-- Every word is a count, since it has at most 64 digits. -/
theorem toWords_fit (count : Nat) (bits : List Bool) :
    ∀ word ∈ toWords count bits, word < countLimit := by
  induction count generalizing bits with
  | zero => exact fun _ hmem => absurd hmem List.not_mem_nil
  | succ count ih =>
    refine List.forall_mem_cons.mpr ⟨?_, ih _⟩
    calc toNat (bits.take 64) < 2 ^ (bits.take 64).length := toNat_lt _
      _ ≤ 2 ^ 64 := Nat.pow_le_pow_right (by decide) (List.length_take_le 64 bits)

/-- Marks are written as canonical values. -/
theorem canonical_toJson (bits : List Bool) : Canonical (toJson bits) := by
  refine Json.canonical_record (List.forall_mem_cons.mpr ⟨Lossless.count.canonical _, ?_⟩)
  exact List.forall_mem_singleton.mpr (Lossless.count.list.canonical _)

/-- Marks are read back from their length and their words. -/
theorem ofJson?_toJson {bits : List Bool} (h : bits.length < countLimit) :
    ofJson? (toJson bits) = some bits := by
  -- the length is written before the words, as the last word may not be full
  have hlength := Lossless.count.found bits.length h
  have hwords := Lossless.count.list.found _ (toWords_fit ((bits.length + 63) / 64) bits)
  rw [toJson, ofJson?, Json.fields?_record _ (by rfl) (by decide)]
  simp [hlength, hwords, take_flatMap_toWords (by omega : bits.length ≤ (bits.length + 63) / 64 * 64)]

end Bits

/-! ## Tables -/

/-- The numbers in a table are counts, and its rows of marks are as wide as those of actions. -/
structure ParseTable.Fits (table : ParseTable) : Prop where
  actions : ∀ action ∈ table.actions.cells, action.Fits
  terminals : table.actions.width < countLimit
  occupied : table.occupied.cells.length < countLimit
  width_eq : table.occupied.width = table.actions.width
  gotos : ∀ target? ∈ table.gotos.cells, ∀ target ∈ target?, target.index < countLimit
  nonterminals : table.gotos.width < countLimit
  states : table.stateCount < countLimit
  maxActions : table.maxActions < countLimit
  conflicts : ∀ conflicts ∈ table.conflicts?, conflicts.Fits

namespace ParseTable

/-- Gotos are written cell by cell, with nulls for those that are missing. -/
theorem lossless_gotos :
    Lossless (Json.ofList (Json.ofOption StateId.toJson)) (asList? (asOption? StateId.ofJson?))
      (fun gotos => ∀ target? ∈ gotos, ∀ target ∈ target?, target.index < countLimit) :=
  (StateId.lossless.option fun _ => by simp [StateId.toJson, Json.ofNat]).list

/-- Accessing symbols are written state by state, with nulls where none is recorded. -/
theorem lossless_symbols :
    Lossless (Json.ofList (Json.ofOption Json.ofString)) (asList? (asOption? asString?))
      (fun _ => True) :=
  Lossless.optionalString.list.of_iff fun _ => by simp

/-- Conflicts are left out where there are none. -/
theorem lossless_conflicts :
    Lossless (Json.ofOption Conflicts.toJson) (asOption? Conflicts.ofJson?)
      (fun conflicts? => ∀ conflicts ∈ conflicts?, conflicts.Fits) :=
  Conflicts.lossless.option fun _ => by simp [Conflicts.toJson, Json.record]

/-- The form of a table is canonical, whatever its numbers are. -/
theorem canonical_toJson (table : ParseTable) : Canonical table.toJson := by
  refine Json.canonical_record ?_
  simp only [List.forall_mem_cons]
  exact ⟨Action.lossless.list.canonical _, Bits.canonical_toJson _, lossless_gotos.canonical _,
    lossless_symbols.canonical _, Lossless.count.canonical _, Lossless.count.canonical _,
    Lossless.count.canonical _, Lossless.count.canonical _, lossless_conflicts.canonical _, nofun⟩

/-- A table whose numbers are counts is read back from its form. -/
theorem ofJson?_toJson {table : ParseTable} (h : table.Fits) :
    ofJson? table.toJson = some table := by
  obtain ⟨⟨width, actions⟩, ⟨marksWidth, marks⟩, ⟨gotoWidth, gotos⟩, stateSymbols, maxActions,
    conflicts?⟩ := table
  -- the width of the marks is not written, but it is that of the actions
  obtain rfl : marksWidth = width := h.width_eq
  -- each part is found for itself, under its own name
  have hactions := Action.lossless.list.found actions h.actions
  have hmarks := Bits.ofJson?_toJson h.occupied
  have hgotos := lossless_gotos.found gotos h.gotos
  have hsymbols := lossless_symbols.found stateSymbols trivial
  have hstates := Lossless.count.found stateSymbols.length h.states
  have hterminals := Lossless.count.found marksWidth h.terminals
  have hnonterminals := Lossless.count.found gotoWidth h.nonterminals
  have hmaxActions := Lossless.count.found maxActions h.maxActions
  have hconflicts := lossless_conflicts.found conflicts? h.conflicts
  rw [toJson, ofJson?, Json.fields?_record _ (by rfl) (by decide)]
  simp [hactions, hmarks, hgotos, hsymbols, hstates, hterminals, hnonterminals, hmaxActions,
    hconflicts, optionalField?, stateCount]

/-! ### Tables of automata -/

/-- As many symbols, productions, states and cells as can be numbered by counts. -/
structure SizesFit (symbols : SymbolTable) (automaton : Automaton) : Prop where
  terminals : symbols.terminals.length < countLimit
  nonterminals : symbols.nonterminals.length < countLimit
  productions : symbols.productions.length < countLimit
  lengths : ∀ production ∈ symbols.productions, production.rhs.length < countLimit
  states : automaton.states.length < countLimit
  cells : automaton.states.length * symbols.terminals.length < countLimit

variable {symbols : SymbolTable} {automaton : Automaton} {s : StateId} {state : State}
  {terminal : TerminalId} {name : String}

/-- A state that is entered is one of those of the automaton. -/
theorem lt_of_entersOn (hsizes : SizesFit symbols automaton) {target : StateId}
    (h : automaton.EntersOn target name) : target.index < countLimit := by
  obtain ⟨entered, hentered, -⟩ := h
  exact Nat.lt_trans (List.getElem?_eq_some_iff.mp hentered).1 hsizes.states

/-- The action of a valid move has the numbers of a state, of symbols and of a production. -/
theorem fits_actionOf (hsymbols : symbols.WellFormed) (hsizes : SizesFit symbols automaton)
    (hterminal : terminal.index < countLimit) {move : Move}
    (hvalid : move.Valid symbols automaton name) : (symbols.actionOf terminal move).Fits := by
  have hencodes : symbols.Encodes terminal move (symbols.actionOf terminal move) :=
    SymbolTable.encodes_actionOf hsymbols hvalid
  generalize symbols.actionOf terminal move = action at hencodes
  cases hencodes with
  | shift target => exact ⟨lt_of_entersOn hsizes hvalid, hterminal⟩
  | accept => trivial
  | @reduce reference production entry _ hentry =>
    obtain ⟨hlt, hget⟩ := List.getElem?_eq_some_iff.mp hentry
    have hmem : entry ∈ symbols.productions := List.mem_of_getElem? hentry
    refine ⟨Nat.lt_trans hlt hsizes.productions, hsizes.lengths entry hmem, ?_⟩
    exact Nat.lt_trans (hsymbols.nonterminal_lt entry hmem) hsizes.nonterminals

/-- All cells of actions hold counts: they are empty, or encode valid moves. -/
theorem fits_actions (hsymbols : symbols.WellFormed) (hencodable : automaton.Encodable symbols)
    (hsizes : SizesFit symbols automaton) :
    ∀ action ∈ (tableOf symbols automaton).actions.cells, action.Fits := by
  -- a cell that is not empty encodes a move that was recorded
  intro action haction
  rcases mem_cells_actions hsymbols hencodable haction with rfl |
    ⟨s, state, terminal, name, move, hstate, hname, hmove, hencodes⟩
  · trivial
  · have hterminal := Nat.lt_trans (terminal_lt_of_name hname) hsizes.terminals
    have hvalid := valid_of_mem_recorded (state_valid hencodable hstate) hmove
    rw [hencodes.eq_actionOf hsymbols]
    exact fits_actionOf hsymbols hsizes hterminal hvalid

/-- All cells of gotos hold counts: a goto enters a state of the automaton. -/
theorem fits_gotos (hsizes : SizesFit symbols automaton) (hvalid : state.Valid symbols automaton) :
    ∀ target? ∈ (rowOf symbols s state).gotos, ∀ target ∈ target?, target.index < countLimit := by
  intro target? htarget? target htarget
  -- a goto in a row was recorded by the state
  simp only [rowOf, List.mem_map] at htarget?
  obtain ⟨nonterminal, -, rfl⟩ := htarget?
  obtain ⟨goto, hgoto, rfl⟩ := Option.map_eq_some_iff.mp htarget
  obtain ⟨name, hmem, -⟩ := mem_gotosOf_iff.mp (List.mem_of_find?_eq_some hgoto)
  exact lt_of_entersOn hsizes (hvalid.gotos_enter _ hmem)

/-- The conflict of two actions has no other numbers than the actions themselves. -/
theorem fits_conflictOf {id : StateId} {first second : Action} (hstate : id.index < countLimit)
    (hterminal : terminal.index < countLimit) (hfirst : first.Fits) (hsecond : second.Fits) :
    (conflictOf id terminal first second).Fits := by
  -- the kinds of the two actions say in which list the conflict stands
  unfold conflictOf
  split
  case h_1 => exact ⟨List.forall_mem_singleton.mpr ⟨hterminal, hsecond.1, hstate⟩, nofun, nofun⟩
  case h_2 => exact ⟨List.forall_mem_singleton.mpr ⟨hterminal, hfirst.1, hstate⟩, nofun, nofun⟩
  case h_3 => exact ⟨nofun, List.forall_mem_singleton.mpr ⟨hfirst.1, hsecond.1, hstate⟩, nofun⟩
  case h_4 => exact ⟨nofun, nofun, List.forall_mem_singleton.mpr ⟨hterminal, hstate⟩⟩

/-- The conflict of a clash has the numbers of a state, of a terminal and of productions. -/
theorem fits_clash (hsymbols : symbols.WellFormed) (hencodable : automaton.Encodable symbols)
    (hsizes : SizesFit symbols automaton) {clash : Clash}
    (h : clash ∈ automaton.clashes symbols) :
    (conflictOf clash.state clash.terminal (symbols.actionOf clash.terminal clash.first)
      (symbols.actionOf clash.terminal clash.second)).Fits := by
  -- the two moves are valid, and their cell is one of the table's
  obtain ⟨name, hfirst, hsecond⟩ := valid_of_mem_clashes hencodable h
  obtain ⟨cell, hcell, hclash⟩ := List.mem_flatMap.mp h
  obtain ⟨state, _, hstate, hname, -⟩ := mem_actionCells_iff.mp hcell
  obtain ⟨moves, -, rfl⟩ := List.mem_map.mp hclash
  have hlt : cell.state.index < countLimit :=
    Nat.lt_trans (List.getElem?_eq_some_iff.mp hstate).1 hsizes.states
  have hterminal : cell.terminal.index < countLimit :=
    Nat.lt_trans (terminal_lt_of_name hname) hsizes.terminals
  exact fits_conflictOf hlt hterminal (fits_actionOf hsymbols hsizes hterminal hfirst)
    (fits_actionOf hsymbols hsizes hterminal hsecond)

/-- The conflicts of a table hold counts, since each of them comes from a clash. -/
theorem fits_conflictsOf (hsymbols : symbols.WellFormed) (hencodable : automaton.Encodable symbols)
    (hsizes : SizesFit symbols automaton) : (conflictsOf symbols automaton).Fits := by
  constructor
  -- the three lists collect what the clashes contribute to them
  case shiftReduce =>
    rw [collects_shiftReduce.conflictsOf hsymbols hencodable]
    intro entry hentry
    obtain ⟨clash, hclash, hmem⟩ := List.mem_flatMap.mp hentry
    exact (fits_clash hsymbols hencodable hsizes hclash).shiftReduce entry hmem
  case reduceReduce =>
    rw [collects_reduceReduce.conflictsOf hsymbols hencodable]
    intro entry hentry
    obtain ⟨clash, hclash, hmem⟩ := List.mem_flatMap.mp hentry
    exact (fits_clash hsymbols hencodable hsizes hclash).reduceReduce entry hmem
  case other =>
    rw [collects_other.conflictsOf hsymbols hencodable]
    intro entry hentry
    obtain ⟨clash, hclash, hmem⟩ := List.mem_flatMap.mp hentry
    exact (fits_clash hsymbols hencodable hsizes hclash).other entry hmem

/-- The numbers in the tables of an automaton are counts, if all can be numbered. -/
theorem fits_tableOf (hsymbols : symbols.WellFormed) (hencodable : automaton.Encodable symbols)
    (hsizes : SizesFit symbols automaton) : (tableOf symbols automaton).Fits := by
  -- all rows are as wide as there are terminals
  have hmarks : ∀ row ∈ (rowsOf symbols 0 automaton.states).map Row.occupied,
      row.length = symbols.terminals.length := by
    refine List.forall_mem_map.mpr fun row hrow => ?_
    obtain ⟨s, state, -, rfl⟩ := mem_rowsOf hrow
    simp [rowOf, SymbolTable.terminalIds]
  constructor
  case actions => exact fits_actions hsymbols hencodable hsizes
  case terminals => exact hsizes.terminals
  case occupied =>
    have hlength := Grid.length_cells_ofRows hmarks
    rw [List.length_map, length_rowsOf] at hlength
    exact hlength ▸ hsizes.cells
  -- as many marks as there are cells in all rows
  case width_eq => rfl
  case gotos =>
    intro target? htarget?
    obtain ⟨cells, hcells, hmem⟩ := List.mem_flatten.mp htarget?
    obtain ⟨row, hrow, rfl⟩ := List.mem_map.mp hcells
    -- a goto in the table stands in the row of some state
    obtain ⟨s, state, hstate, rfl⟩ := mem_rowsOf hrow
    exact fits_gotos hsizes (state_valid hencodable hstate) target? hmem
  case nonterminals => exact hsizes.nonterminals
  case states => exact stateCount_tableOf symbols automaton ▸ hsizes.states
  case maxActions =>
    -- the fullest row cannot have more marks than cells
    have hrows : (rowsOf symbols 0 automaton.states).map Row.occupied ≠ [] := by
      simpa [rowsOf] using hencodable.has_state
    obtain ⟨row, hrow, hcount⟩ := exists_countP_eq_fullest hrows
    calc (tableOf symbols automaton).maxActions = row.countP id := hcount.symm
      _ ≤ row.length := List.countP_le_length
      _ = symbols.terminals.length := hmarks row hrow
      _ < countLimit := hsizes.terminals
  case conflicts =>
    intro conflicts hconflicts
    simp only [tableOf, ofRows] at hconflicts
    split at hconflicts
    -- without a conflict nothing is written for them
    case isTrue => cases hconflicts
    case isFalse =>
      cases hconflicts
      exact fits_conflictsOf hsymbols hencodable hsizes

end ParseTable

/-! ## Texts -/

/-- **Texts are lossless**: models, actions and conflicts whose numbers are counts are decoded from
their texts, and whatever is decoded from a text has a text of its own that is decoded to the same.
The tables of an automaton are decoded from their texts as well. -/
theorem formats_lossless :
    RoundTrips Grammar.toJson Grammar.ofJson? (fun _ => True) ∧
    RoundTrips Automaton.toJson Automaton.ofJson? Automaton.Fits ∧
    RoundTrips State.toJson State.ofJson? State.Fits ∧
    RoundTrips Recognizer.toJson Recognizer.ofJson? (fun _ => True) ∧
    RoundTrips Move.toJson Move.ofJson? Move.Fits ∧
    RoundTrips Production.toJson Production.ofJson? (fun _ => True) ∧
    RoundTrips Symbol.toJson Symbol.ofJson? Symbol.Fits ∧
    RoundTrips Action.toJson Action.ofJson? Action.Fits ∧
    RoundTrips Conflicts.toJson Conflicts.ofJson? Conflicts.Fits ∧
    ∀ grammar symbols automaton errorOnConflicts table,
      SymbolTable.ofGrammar grammar = .ok symbols →
      ParseTable.encode symbols automaton errorOnConflicts = .ok table →
      ParseTable.SizesFit symbols automaton →
      decode? ParseTable.ofJson? (encode ParseTable.toJson table) = some table := by
  refine ⟨Grammar.lossless.roundTrips, Automaton.lossless.roundTrips, State.lossless.roundTrips,
    Recognizer.lossless.roundTrips, Move.lossless.roundTrips, Production.lossless.roundTrips,
    Symbol.lossless.roundTrips, Action.lossless.roundTrips, Conflicts.lossless.roundTrips, ?_⟩
  intro grammar symbols automaton errorOnConflicts table hsymbols htable hsizes
  -- a table that was encoded is the table of its automaton
  have hwellFormed := SymbolTable.wellFormed_of_ofGrammar hsymbols
  obtain ⟨hencodable, rfl, -⟩ := (ParseTable.encode_eq_ok_iff hwellFormed).mp htable
  apply Json.decode?_encode
  · exact ParseTable.canonical_toJson _
  · exact ParseTable.ofJson?_toJson (ParseTable.fits_tableOf hwellFormed hencodable hsizes)

/-- A text with a control character, a quote and a letter beyond ASCII, and tables with conflicts. -/
theorem formats_lossless_ambiguous :
    decode? Recognizer.ofJson? (encode Recognizer.toJson (.literal "\x01\"é")) =
      some (.literal "\x01\"é") ∧
    ∃ table, ParseTable.encode Statements.symbols Statements.ambiguous false = .ok table ∧
      table.conflicts?.isSome = true ∧
      decode? ParseTable.ofJson? (encode ParseTable.toJson table) = some table := by
  obtain ⟨-, -, -, hrecognizer, -, -, -, -, -, htables⟩ := formats_lossless
  have hsizes : ParseTable.SizesFit Statements.symbols Statements.ambiguous :=
    ⟨by decide, by decide, by decide, by decide, by decide, by decide⟩
  have htable : ParseTable.encode Statements.symbols Statements.ambiguous false =
      .ok (ParseTable.tableOf Statements.symbols Statements.ambiguous) := rfl
  exact ⟨hrecognizer.1 _ trivial, _, htable, rfl,
    htables _ _ _ _ _ Statements.ofGrammar_grammar htable hsizes⟩

end ParserFoundry
