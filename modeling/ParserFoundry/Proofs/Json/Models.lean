import ParserFoundry.Json.Model
import ParserFoundry.Proofs.Json.Shapes
/-!
# Models Are Read Back

The forms of grammars and automata are lossless: whatever their names are, and however long their
lists, as long as their numbers are counts.
-/

namespace ParserFoundry

open Json (countLimit Lossless asCount? asString? asList? asPair? optionalField? fullVariant
  plainVariant)

/-! ## Numbers -/

/-- Numbers of terminals are written as plain counts. -/
theorem TerminalId.lossless :
    Lossless TerminalId.toJson TerminalId.ofJson? (fun id => id.index < countLimit) :=
  Lossless.count.map (fun _ => rfl) (fun _ => rfl)

/-- Numbers of nonterminals are written as plain counts. -/
theorem NonterminalId.lossless :
    Lossless NonterminalId.toJson NonterminalId.ofJson? (fun id => id.index < countLimit) :=
  Lossless.count.map (fun _ => rfl) (fun _ => rfl)

/-- Numbers of productions are written as plain counts. -/
theorem ProductionId.lossless :
    Lossless ProductionId.toJson ProductionId.ofJson? (fun id => id.index < countLimit) :=
  Lossless.count.map (fun _ => rfl) (fun _ => rfl)

/-- Numbers of states are written as plain counts. -/
theorem StateId.lossless :
    Lossless StateId.toJson StateId.ofJson? (fun id => id.index < countLimit) :=
  Lossless.count.map (fun _ => rfl) (fun _ => rfl)

/-- The number of a symbol is a count. -/
def Symbol.Fits : Symbol → Prop
  | nonterminal id => id.index < countLimit
  | terminal id => id.index < countLimit

/-- A symbol of a numbered grammar is a variant with the number as its content. -/
theorem Symbol.lossless : Lossless Symbol.toJson Symbol.ofJson? Symbol.Fits where
  -- both variants have a number as their content
  canonical symbol := by
    cases symbol with
    | nonterminal id => exact Json.canonical_fullVariant _ (NonterminalId.lossless.canonical id)
    | terminal id => exact Json.canonical_fullVariant _ (TerminalId.lossless.canonical id)
  found symbol h := by
    cases symbol with
    | nonterminal id =>
      rw [toJson, ofJson?, Json.variant?_fullVariant]
      simp [NonterminalId.lossless.found id h]
    | terminal id =>
      rw [toJson, ofJson?, Json.variant?_fullVariant]
      simp [TerminalId.lossless.found id h]
  inRange json symbol h := by
    simp only [ofJson?, Option.bind_eq_bind, Option.bind_eq_some_iff] at h
    obtain ⟨variant, -, h⟩ := h
    -- only the two names of variants are known
    split at h
    case h_1 =>
      obtain ⟨id, hid, rfl⟩ := NonterminalId.lossless.of_content h
      exact hid
    case h_2 =>
      obtain ⟨id, hid, rfl⟩ := TerminalId.lossless.of_content h
      exact hid
    case h_3 => cases h

/-! ## Grammars -/

/-- Recognizers are read back whatever their texts are. -/
theorem Recognizer.lossless : Lossless Recognizer.toJson Recognizer.ofJson? (fun _ => True) where
  canonical recognizer := by
    cases recognizer with
    | literal text => exact Json.canonical_fullVariant _ (Lossless.string.canonical text)
    | pattern source => exact Json.canonical_fullVariant _ (Lossless.string.canonical source)
    | endOfInput => exact Json.canonical_plainVariant _
  found recognizer _ := by
    -- the two with a text differ in the name of the variant only
    cases recognizer with
    | literal text =>
      rw [toJson, ofJson?, Json.variant?_fullVariant]
      simp [Lossless.string.found text trivial]
    | pattern source =>
      rw [toJson, ofJson?, Json.variant?_fullVariant]
      simp [Lossless.string.found source trivial]
    | endOfInput =>
      rw [toJson, ofJson?, Json.variant?_plainVariant]
      rfl
  inRange _ _ _ := trivial

/-- A terminal is a record of its name and its recognizer. -/
theorem Terminal.lossless : Lossless Terminal.toJson Terminal.ofJson? (fun _ => True) where
  canonical terminal := by
    refine Json.canonical_record (List.forall_mem_cons.mpr ⟨Lossless.string.canonical _, ?_⟩)
    exact List.forall_mem_singleton.mpr (Recognizer.lossless.canonical _)
  found terminal _ := by
    rw [toJson, ofJson?, Json.fields?_record _ (by rfl) (by decide)]
    simp [Lossless.string.found terminal.name trivial,
      Recognizer.lossless.found terminal.recognizer trivial]
  inRange _ _ _ := trivial

/-- The symbols of a right-hand side are read back by their names. -/
theorem SymbolRef.lossless : Lossless SymbolRef.toJson SymbolRef.ofJson? (fun _ => True) where
  canonical symbol := by
    cases symbol with
    | terminal name => exact Json.canonical_fullVariant _ (Lossless.string.canonical name)
    | nonterminal name => exact Json.canonical_fullVariant _ (Lossless.string.canonical name)
  found symbol _ := by
    cases symbol with
    | terminal name =>
      rw [toJson, ofJson?, Json.variant?_fullVariant]
      simp [Lossless.string.found name trivial]
    | nonterminal name =>
      rw [toJson, ofJson?, Json.variant?_fullVariant]
      simp [Lossless.string.found name trivial]
  inRange _ _ _ := trivial

/-- A production is a record of its right-hand side alone. -/
theorem Production.lossless : Lossless Production.toJson Production.ofJson? (fun _ => True) where
  canonical production :=
    Json.canonical_record (List.forall_mem_singleton.mpr (SymbolRef.lossless.list.canonical _))
  found production _ := by
    rw [toJson, ofJson?, Json.fields?_record _ (by rfl) (by decide)]
    simp [SymbolRef.lossless.list.found production.rhs fun _ _ => trivial]
  inRange _ _ _ := trivial

/-- A nonterminal is a record of its name and its productions. -/
theorem Nonterminal.lossless : Lossless Nonterminal.toJson Nonterminal.ofJson? (fun _ => True) where
  canonical nonterminal := by
    refine Json.canonical_record (List.forall_mem_cons.mpr ⟨Lossless.string.canonical _, ?_⟩)
    exact List.forall_mem_singleton.mpr (Production.lossless.list.canonical _)
  found nonterminal _ := by
    rw [toJson, ofJson?, Json.fields?_record _ (by rfl) (by decide)]
    simp [Lossless.string.found nonterminal.name trivial,
      Production.lossless.list.found nonterminal.productions fun _ _ => trivial]
  inRange _ _ _ := trivial

/-- **Grammars are read back** as they are, with or without a start that augments them. -/
theorem Grammar.lossless : Lossless Grammar.toJson Grammar.ofJson? (fun _ => True) where
  canonical grammar := by
    refine Json.canonical_record
      (List.forall_mem_cons.mpr ⟨Terminal.lossless.list.canonical _, ?_⟩)
    refine List.forall_mem_cons.mpr ⟨Nonterminal.lossless.list.canonical _, ?_⟩
    exact List.forall_mem_singleton.mpr (Lossless.optionalString.canonical _)
  found grammar _ := by
    rw [toJson, ofJson?, Json.fields?_record _ (by rfl) (by decide)]
    simp [Terminal.lossless.list.found grammar.terminals fun _ _ => trivial,
      Nonterminal.lossless.list.found grammar.nonterminals fun _ _ => trivial,
      Lossless.optionalString.found grammar.augmentedStart? trivial, optionalField?]
  inRange _ _ _ := trivial

/-! ## Automata -/

/-- The ordinal of a production is a count. -/
def ProductionRef.Fits (production : ProductionRef) : Prop :=
  production.ordinal < countLimit

/-- A reference to a production is a record of a name and an ordinal. -/
theorem ProductionRef.lossless :
    Lossless ProductionRef.toJson ProductionRef.ofJson? ProductionRef.Fits where
  canonical production := by
    refine Json.canonical_record (List.forall_mem_cons.mpr ⟨Lossless.string.canonical _, ?_⟩)
    exact List.forall_mem_singleton.mpr (Lossless.count.canonical _)
  found production h := by
    rw [toJson, ofJson?, Json.fields?_record _ (by rfl) (by decide)]
    simp [Lossless.string.found production.nonterminal trivial,
      Lossless.count.found production.ordinal h]
  -- what is read as a reference has an ordinal that was read as a count
  inRange json production h := by
    simp only [ofJson?, Option.bind_eq_bind, Option.bind_eq_some_iff] at h
    -- there have to be two fields, no more and no less
    obtain ⟨fields, -, h⟩ := h
    split at h
    case h_1 =>
      obtain ⟨name, -, h⟩ := Option.bind_eq_some_iff.mp h
      obtain ⟨ordinal, hordinal, rfl⟩ := Lossless.count.of_content h
      exact hordinal
    case h_2 => cases h

/-- The numbers of a move are counts. -/
def Move.Fits : Move → Prop
  | shift target => target.index < countLimit
  | reduce production => production.Fits
  | accept => True

/-- A move is a variant; the one that accepts is a bare name. -/
theorem Move.lossless : Lossless Move.toJson Move.ofJson? Move.Fits where
  canonical move := by
    cases move with
    | shift target => exact Json.canonical_fullVariant _ (StateId.lossless.canonical target)
    | reduce production =>
      exact Json.canonical_fullVariant _ (ProductionRef.lossless.canonical production)
    | accept => exact Json.canonical_plainVariant _
  found move h := by
    cases move with
    | shift target =>
      rw [toJson, ofJson?, Json.variant?_fullVariant]
      simp [StateId.lossless.found target h]
    | reduce production =>
      rw [toJson, ofJson?, Json.variant?_fullVariant]
      simp [ProductionRef.lossless.found production h]
    | accept =>
      rw [toJson, ofJson?, Json.variant?_plainVariant]
      rfl
  -- a move that was read holds numbers that were read as counts
  inRange json move h := by
    simp only [ofJson?, Option.bind_eq_bind, Option.bind_eq_some_iff] at h
    obtain ⟨variant, -, h⟩ := h
    -- the variant without content is taken only if none comes with it
    split at h
    case h_1 =>
      obtain ⟨target, htarget, rfl⟩ := StateId.lossless.of_content h
      exact htarget
    case h_2 =>
      obtain ⟨production, hproduction, rfl⟩ := ProductionRef.lossless.of_content h
      exact hproduction
    case h_3 =>
      split at h
      case isTrue =>
        cases h
        trivial
      case isFalse => cases h
    case h_4 => cases h

/-- The numbers of a state's moves and gotos are counts. -/
structure State.Fits (state : State) : Prop where
  moves : ∀ entry ∈ state.actions, ∀ move ∈ entry.2, move.Fits
  gotos : ∀ goto ∈ state.gotos, goto.2.index < countLimit

namespace State

/-- The moves of a state are a list of terminals, each with the list of its moves. -/
theorem lossless_actions :
    Lossless (Json.ofList fun entry : String × List Move =>
        .array [.ofString entry.1, .ofList Move.toJson entry.2])
      (asList? (asPair? asString? (asList? Move.ofJson?)))
      (fun actions => ∀ entry ∈ actions, ∀ move ∈ entry.2, move.Fits) :=
  (Lossless.string.pair Move.lossless.list).list.of_iff fun actions => by simp

/-- The gotos of a state are a list of nonterminals, each with its target. -/
theorem lossless_gotos :
    Lossless (Json.ofList fun goto : String × StateId =>
        .array [.ofString goto.1, goto.2.toJson])
      (asList? (asPair? asString? StateId.ofJson?))
      (fun gotos => ∀ goto ∈ gotos, goto.2.index < countLimit) :=
  (Lossless.string.pair StateId.lossless).list.of_iff fun gotos => by simp

/-- A state is a record of its accessing symbol, if there is one, its moves and its gotos. -/
theorem lossless : Lossless State.toJson State.ofJson? State.Fits where
  canonical state := by
    refine Json.canonical_record
      (List.forall_mem_cons.mpr ⟨Lossless.optionalString.canonical _, ?_⟩)
    refine List.forall_mem_cons.mpr ⟨lossless_actions.canonical state.actions, ?_⟩
    exact List.forall_mem_singleton.mpr (lossless_gotos.canonical state.gotos)
  found state h := by
    -- the lists fit because the state does
    have hactions := lossless_actions.found state.actions h.moves
    have hgotos := lossless_gotos.found state.gotos h.gotos
    rw [toJson, ofJson?, Json.fields?_record _ (by rfl) (by decide)]
    simp [Lossless.optionalString.found state.symbol? trivial, optionalField?, hactions,
      hgotos]
  -- all numbers of a state that was read were read within its two lists
  inRange json state h := by
    simp only [ofJson?, Option.bind_eq_bind, Option.bind_eq_some_iff] at h
    obtain ⟨fields, -, h⟩ := h
    split at h
    case h_1 =>
      obtain ⟨symbol?, -, h⟩ := Option.bind_eq_some_iff.mp h
      obtain ⟨actions, hactions, h⟩ := Option.bind_eq_some_iff.mp h
      obtain ⟨gotos, hgotos, rfl⟩ := lossless_gotos.of_content h
      exact ⟨lossless_actions.inRange _ _ hactions, hgotos⟩
    case h_2 => cases h

end State

/-- The numbers of an automaton are counts. -/
def Automaton.Fits (automaton : Automaton) : Prop :=
  ∀ state ∈ automaton.states, state.Fits

/-- **Automata are read back** if all of their numbers are counts. -/
theorem Automaton.lossless : Lossless Automaton.toJson Automaton.ofJson? Automaton.Fits where
  canonical automaton :=
    Json.canonical_record (List.forall_mem_singleton.mpr (State.lossless.list.canonical _))
  found automaton h := by
    rw [toJson, ofJson?, Json.fields?_record _ (by rfl) (by decide)]
    simp [State.lossless.list.found automaton.states h]
  inRange json automaton h := by
    simp only [ofJson?, Option.bind_eq_bind, Option.bind_eq_some_iff] at h
    obtain ⟨fields, -, h⟩ := h
    split at h
    case h_1 =>
      obtain ⟨states, hstates, rfl⟩ := State.lossless.list.of_content h
      exact hstates
    case h_2 => cases h

end ParserFoundry
