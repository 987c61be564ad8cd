import ParserFoundry.Proofs.Naming.Casing
import ParserFoundry.Proofs.Numbering.Declarations
/-!
# Exact Numberings

Terminals, nonterminals and productions get their numbers in separate passes. The numbers fit
together all the same: entries stand in the order in which productions are declared, so that those
of one nonterminal follow those of the one before.

Main results:
- `flatMap_range_filter`: a list that is sorted by numbers falls apart into the parts of one number.
- `flatMap_productionsOf`: the productions of all nonterminals are all productions, in order.
- `qualifiedName?_injective`: different productions have different names.
- `ofGrammar_exact`: which grammars are numbered, and what all their numbers say.
-/

namespace ParserFoundry

/-! ## Lists sorted by numbers -/

section Sorted

variable {α : Type} {key : α → Nat} {values : List α}

/-- What has a smaller number comes first. -/
theorem filter_lt_append_filter_eq
    (hsorted : values.Pairwise fun first second => key first ≤ key second) (bound : Nat) :
    (values.filter fun value => key value < bound) ++
        (values.filter fun value => key value = bound) =
      values.filter fun value => key value < bound + 1 := by
  induction values with
  | nil => rfl
  | cons value rest ih =>
    obtain ⟨hvalue, hrest⟩ := List.pairwise_cons.mp hsorted
    have hparts := ih hrest
    -- the first value decides: it comes first, or starts the second part, or neither
    rcases Nat.lt_trichotomy (key value) bound with hlt | heq | hgt
    · have hle : key value < bound + 1 := Nat.lt_succ_of_lt hlt
      rw [List.filter_cons_of_pos (by simpa using hlt), List.filter_cons_of_neg (by simp; omega),
        List.filter_cons_of_pos (by simpa using hle), List.cons_append, hparts]
    · -- nothing behind the value has a smaller number
      have hnone : (rest.filter fun other => key other < bound) = [] := by
        refine List.filter_eq_nil_iff.mpr fun other hother => ?_
        have hle := hvalue other hother
        simp only [decide_eq_true_eq]
        omega
      have hle : key value < bound + 1 := by omega
      rw [hnone, List.nil_append] at hparts
      rw [List.filter_cons_of_neg (by simp; omega), List.filter_cons_of_pos (by simpa using heq),
        List.filter_cons_of_pos (by simpa using hle), hnone, List.nil_append, hparts]
    · rw [List.filter_cons_of_neg (by simp; omega), List.filter_cons_of_neg (by simp; omega),
        List.filter_cons_of_neg (by simp; omega), hparts]

/-- The parts of all numbers below a bound, one after the other, are all that is below it. -/
theorem flatMap_range_filter (hsorted : values.Pairwise fun first second => key first ≤ key second)
    (bound : Nat) :
    ((List.range bound).flatMap fun number => values.filter fun value => key value = number) =
      values.filter fun value => key value < bound := by
  induction bound with
  | zero => simp
  | succ bound ih =>
    rw [List.range_succ, List.flatMap_append, ih, List.flatMap_singleton,
      filter_lt_append_filter_eq hsorted]

end Sorted

namespace SymbolTable

variable {symbols : SymbolTable} {grammar : Grammar}

/-! ## The order of productions -/

/-- Productions are placed nonterminal by nonterminal. -/
theorem pairwise_placedFrom (declared : List Nonterminal) :
    (placedFrom 0 declared).Pairwise fun first second =>
      first.nonterminal.index ≤ second.nonterminal.index := by
  refine List.pairwise_flatMap.mpr ⟨?_, ?_⟩
  · -- the productions of one nonterminal
    rintro ⟨nonterminal, i⟩ -
    refine List.pairwise_map.mpr (List.pairwise_of_forall ?_)
    intro first second
    exact Nat.le_refl _
  · -- those of two nonterminals
    refine (pairwise_zipIdx declared).imp ?_
    intro first second hlt placed hplaced other hother
    obtain ⟨_, -, rfl⟩ := List.mem_map.mp hplaced
    obtain ⟨_, -, rfl⟩ := List.mem_map.mp hother
    exact Nat.le_of_lt hlt

/-- The number of the nonterminal of a production. -/
def ownerOf (symbols : SymbolTable) (id : ProductionId) : Nat :=
  ((symbols.production? id).map fun entry => entry.nonterminal.index).getD 0

theorem map_ownerOf (symbols : SymbolTable) :
    symbols.productionIds.map symbols.ownerOf =
      symbols.productions.map fun entry => entry.nonterminal.index := by
  calc symbols.productionIds.map symbols.ownerOf
      = (symbols.productionIds.map symbols.production?).map
          fun found? => (found?.map fun entry => entry.nonterminal.index).getD 0 := by
        rw [List.map_map]
        rfl
    _ = symbols.productions.map fun entry => entry.nonterminal.index := by
        rw [map_production?_productionIds, List.map_map]
        rfl

theorem productionsOf_eq (symbols : SymbolTable) (number : Nat) :
    symbols.productionsOf ⟨number⟩ =
      symbols.productionIds.filter fun id => symbols.ownerOf id = number := by
  refine List.filter_congr fun id hid => ?_
  obtain ⟨i, hi, rfl⟩ := List.mem_map.mp hid
  have hlt : i < symbols.productions.length := List.mem_range.mp hi
  have hentry : symbols.production? ⟨i⟩ = some symbols.productions[i] :=
    List.getElem?_eq_getElem hlt
  rw [hentry, Option.any_some, ownerOf, hentry, Option.map_some, Option.getD_some]
  exact decide_eq_decide.mpr ⟨fun heq => by rw [heq], fun heq => by rw [← heq]⟩

/-- The productions of all nonterminals, one after the other, are all productions. -/
theorem flatMap_productionsOf (h : ofGrammar grammar = .ok symbols) :
    symbols.nonterminalIds.flatMap symbols.productionsOf = symbols.productionIds := by
  have hbound := (wellFormed_of_ofGrammar h).nonterminal_lt
  obtain ⟨-, -, productions, hproductions, heq⟩ := ofGrammar_ok h
  have hstands := standsFor_of_numberAll hproductions
  -- productions are numbered nonterminal by nonterminal, so their owners do not decrease
  have howners : (symbols.productionIds.map symbols.ownerOf).Pairwise (· ≤ ·) := by
    have hplaced : (productions.map fun entry => entry.nonterminal.index) =
        (placedFrom 0 grammar.coreNonterminals).map fun placed => placed.nonterminal.index := by
      rw [← List.forall₂_eq_eq_eq, List.forall₂_map_left_iff, List.forall₂_map_right_iff]
      exact hstands.flip.imp fun entry placed hentry => by rw [hentry.nonterminal_eq]
    rw [map_ownerOf, heq, hplaced]
    exact List.pairwise_map.mpr (pairwise_placedFrom _)
  -- owners are numbered nonterminals, so no production is left out
  have hall : ∀ id ∈ symbols.productionIds, symbols.ownerOf id < symbols.nonterminals.length := by
    intro id hid
    have hmem : symbols.ownerOf id ∈ symbols.productionIds.map symbols.ownerOf :=
      List.mem_map_of_mem hid
    rw [map_ownerOf] at hmem
    obtain ⟨entry, hentry, howner⟩ := List.mem_map.mp hmem
    exact howner ▸ hbound entry hentry
  calc symbols.nonterminalIds.flatMap symbols.productionsOf
      = (List.range symbols.nonterminals.length).flatMap fun number =>
          symbols.productionIds.filter fun id => symbols.ownerOf id = number := by
        rw [nonterminalIds, List.flatMap_map]
        simp only [productionsOf_eq]
    _ = symbols.productionIds.filter fun id => symbols.ownerOf id < symbols.nonterminals.length :=
        flatMap_range_filter (List.pairwise_map.mp howners) _
    _ = symbols.productionIds := List.filter_eq_self.mpr (by simpa using hall)

/-! ## What numbers stand for -/

/-- The number of a production leads to the place at which it is declared. -/
theorem exists_declared (h : ofGrammar grammar = .ok symbols) {id : ProductionId}
    {entry : NumberedProduction} (hentry : symbols.production? id = some entry) :
    ∃ nonterminal declared,
      grammar.coreNonterminals[entry.nonterminal.index]? = some nonterminal ∧
      nonterminal.productions[entry.ordinal]? = some declared ∧
      List.Forall₂ (RefersTo (symbols.terminals.map Terminal.name) symbols.nonterminals)
        declared.rhs entry.rhs := by
  obtain ⟨-, -, productions, hproductions, rfl⟩ := ofGrammar_ok h
  have hstands := standsFor_of_numberAll hproductions
  obtain ⟨hlt, rfl⟩ := List.getElem?_eq_some_iff.mp hentry
  -- the entry in a place stands for the production that is declared in this place
  have hplace : id.index < (placedFrom 0 grammar.coreNonterminals).length :=
    hstands.length_eq ▸ hlt
  have hstand := hstands.get hplace hlt
  simp only [List.get_eq_getElem] at hstand
  obtain ⟨nonterminal, hnonterminal, hdeclared⟩ :=
    mem_placedFrom_iff.mp (List.getElem_mem hplace)
  refine ⟨nonterminal, _, ?_, ?_, hstand.rhs⟩
  · rw [hstand.nonterminal_eq, hnonterminal]
  · rw [hstand.ordinal_eq, hdeclared]

/-- Every declared production has a number. -/
theorem exists_production (h : ofGrammar grammar = .ok symbols) {i ordinal : Nat}
    {nonterminal : Nonterminal} {declared : Production}
    (hnonterminal : grammar.coreNonterminals[i]? = some nonterminal)
    (hdeclared : nonterminal.productions[ordinal]? = some declared) :
    ∃ id entry, symbols.production? id = some entry ∧ entry.nonterminal = ⟨i⟩ ∧
      entry.ordinal = ordinal := by
  obtain ⟨-, -, productions, hproductions, rfl⟩ := ofGrammar_ok h
  have hstands := standsFor_of_numberAll hproductions
  have hplaced : (⟨⟨i⟩, ordinal, declared⟩ : PlacedProduction) ∈
      placedFrom 0 grammar.coreNonterminals :=
    mem_placedFrom_iff.mpr ⟨nonterminal, hnonterminal, hdeclared⟩
  obtain ⟨place, hplace, hget⟩ := List.getElem_of_mem hplaced
  have hlt : place < productions.length := hstands.length_eq ▸ hplace
  have hstand := hstands.get hplace hlt
  simp only [List.get_eq_getElem, hget] at hstand
  exact ⟨⟨place⟩, productions[place], List.getElem?_eq_getElem hlt, hstand.nonterminal_eq,
    hstand.ordinal_eq⟩

theorem nonterminalName?_eq (h : ofGrammar grammar = .ok symbols) (i : Nat) :
    symbols.nonterminalName? ⟨i⟩ = (grammar.coreNonterminals[i]?).map Nonterminal.name := by
  obtain ⟨-, -, productions, -, rfl⟩ := ofGrammar_ok h
  exact List.getElem?_map ..

theorem terminalName?_eq (h : ofGrammar grammar = .ok symbols) (i : Nat) :
    symbols.terminalName? ⟨i⟩ = (grammar.terminals[i]?).map Terminal.name := by
  obtain ⟨-, -, productions, -, rfl⟩ := ofGrammar_ok h
  rfl

/-! ## Names of productions -/

theorem qualifiedName?_eq {id : ProductionId} {entry : NumberedProduction} {name : String}
    (hentry : symbols.production? id = some entry)
    (hname : symbols.nonterminalName? entry.nonterminal = some name) :
    symbols.qualifiedName? id = some (name ++ "P" ++ toString entry.ordinal) := by
  rw [qualifiedName?, hentry]
  simp [hname]

/-- Different productions have different names. -/
theorem qualifiedName?_injective (hsymbols : symbols.WellFormed) {first second : ProductionId}
    {name : String} (hfirst : symbols.qualifiedName? first = some name)
    (hsecond : symbols.qualifiedName? second = some name) : first = second := by
  have htaken : ∀ id, symbols.qualifiedName? id = some name →
      ∃ reference : ProductionRef, symbols.IsProduction reference id ∧
        name = reference.nonterminal ++ "P" ++ toString reference.ordinal := by
    intro id hid
    obtain ⟨entry, hentry, hid⟩ := Option.bind_eq_some_iff.mp hid
    obtain ⟨owner, howner, hid⟩ := Option.bind_eq_some_iff.mp hid
    exact ⟨⟨owner, entry.ordinal⟩, ⟨entry, hentry, howner, rfl⟩, (Option.some.inj hid).symm⟩
  obtain ⟨reference, hreference, hname⟩ := htaken first hfirst
  obtain ⟨other, hother, hname'⟩ := htaken second hsecond
  -- the two names are taken apart alike, and a reference leads to one production only
  obtain ⟨hnonterminal, hordinal⟩ := Naming.append_letter_number_inj (hname.symm.trans hname')
  have hsame : reference = other := by
    -- a reference is its two parts
    cases reference
    cases other
    simp_all
  have hfound := (productionRef?_eq_some_iff hsymbols).mpr hreference
  rw [hsame, (productionRef?_eq_some_iff hsymbols).mpr hother] at hfound
  exact (Option.some.inj hfound).symm

/-! ## Exactness -/

/-- The numbers of a table fit the declarations of a grammar, and each other. -/
structure NumbersExactly (symbols : SymbolTable) (grammar : Grammar) : Prop where
  terminalIds_eq : symbols.terminalIds = (List.range grammar.terminals.length).map TerminalId.mk
  terminalName?_eq : ∀ i,
    symbols.terminalName? ⟨i⟩ = (grammar.terminals[i]?).map Terminal.name
  terminalId?_iff : ∀ name id,
    symbols.terminalId? name = some id ↔ symbols.terminalName? id = some name
  nonterminalIds_eq :
    symbols.nonterminalIds = (List.range grammar.coreNonterminals.length).map NonterminalId.mk
  nonterminalName?_eq : ∀ i,
    symbols.nonterminalName? ⟨i⟩ = (grammar.coreNonterminals[i]?).map Nonterminal.name
  nonterminalId?_iff : ∀ name id,
    symbols.nonterminalId? name = some id ↔ symbols.nonterminalName? id = some name
  productionsOf_eq : symbols.nonterminalIds.flatMap symbols.productionsOf =
    (List.range symbols.productions.length).map ProductionId.mk
  /-- A number stands for the production that is declared in its place, and is found by it only. -/
  production : ∀ id ∈ symbols.productionIds, ∃ entry nonterminal declared,
    symbols.production? id = some entry ∧
    grammar.coreNonterminals[entry.nonterminal.index]? = some nonterminal ∧
    nonterminal.productions[entry.ordinal]? = some declared ∧
    List.Forall₂ (RefersTo (symbols.terminals.map Terminal.name) symbols.nonterminals)
      declared.rhs entry.rhs ∧
    ∀ name ordinal, symbols.productionRef? name ordinal = some id ↔
      name = nonterminal.name ∧ ordinal = entry.ordinal
  /-- Every declared production is found. -/
  numbered : ∀ nonterminal ∈ grammar.coreNonterminals,
    ∀ ordinal < nonterminal.productions.length,
      ∃ id ∈ symbols.productionIds, symbols.productionRef? nonterminal.name ordinal = some id
  qualifiedName?_isSome : ∀ id ∈ symbols.productionIds, (symbols.qualifiedName? id).isSome = true
  qualifiedName?_inj : ∀ first ∈ symbols.productionIds, ∀ second ∈ symbols.productionIds,
    symbols.qualifiedName? first = symbols.qualifiedName? second → first = second

/-- A production is found by the name of its nonterminal and its ordinal, and by nothing else. -/
theorem productionRef?_iff (h : ofGrammar grammar = .ok symbols) {id : ProductionId}
    {entry : NumberedProduction} {nonterminal : Nonterminal}
    (hentry : symbols.production? id = some entry)
    (hnonterminal : grammar.coreNonterminals[entry.nonterminal.index]? = some nonterminal)
    (name : String) (ordinal : Nat) :
    symbols.productionRef? name ordinal = some id ↔
      name = nonterminal.name ∧ ordinal = entry.ordinal := by
  have hname : symbols.nonterminalName? entry.nonterminal = some nonterminal.name := by
    rw [nonterminalName?_eq h, hnonterminal, Option.map_some]
  have hfound : symbols.productionRef? name ordinal = some id ↔
      symbols.IsProduction ⟨name, ordinal⟩ id :=
    @productionRef?_eq_some_iff symbols (wellFormed_of_ofGrammar h) ⟨name, ordinal⟩ id
  rw [hfound, IsProduction]
  constructor
  · rintro ⟨other, hother, hotherName, rfl⟩
    -- the entry and its name are known, so what is found by the name is compared with them
    rw [hentry, Option.some.injEq] at hother
    rw [← hother, hname, Option.some.injEq] at hotherName
    exact ⟨hotherName.symm, by rw [hother]⟩
  · rintro ⟨rfl, rfl⟩
    exact ⟨entry, hentry, hname, rfl⟩

theorem exists_production?_of_mem {id : ProductionId} (h : id ∈ symbols.productionIds) :
    ∃ entry, symbols.production? id = some entry := by
  obtain ⟨i, hi, rfl⟩ := List.mem_map.mp h
  exact ⟨_, List.getElem?_eq_getElem (List.mem_range.mp hi)⟩

theorem mem_productionIds {id : ProductionId} {entry : NumberedProduction}
    (h : symbols.production? id = some entry) : id ∈ symbols.productionIds :=
  List.mem_map.mpr ⟨id.index, List.mem_range.mpr (List.getElem?_eq_some_iff.mp h).1, rfl⟩

theorem numbersExactly_of_ofGrammar (h : ofGrammar grammar = .ok symbols) :
    symbols.NumbersExactly grammar := by
  have hsymbols := wellFormed_of_ofGrammar h
  have hqualified : ∀ id ∈ symbols.productionIds,
      ∃ name, symbols.qualifiedName? id = some name := by
    intro id hid
    obtain ⟨entry, hentry⟩ := exists_production?_of_mem hid
    obtain ⟨nonterminal, -, hnonterminal, -⟩ := exists_declared h hentry
    have hname := nonterminalName?_eq h entry.nonterminal.index
    rw [hnonterminal] at hname
    exact ⟨_, qualifiedName?_eq hentry hname⟩
  obtain ⟨-, -, productions, -, heq⟩ := ofGrammar_ok h
  constructor
  case terminalIds_eq => rw [terminalIds, heq]
  case terminalName?_eq => exact terminalName?_eq h
  case terminalId?_iff => exact fun name id => terminalId?_eq_some_iff hsymbols
  case nonterminalIds_eq => rw [nonterminalIds, heq, List.length_map]
  case nonterminalName?_eq => exact nonterminalName?_eq h
  case nonterminalId?_iff => exact fun name id => nonterminalId?_eq_some_iff hsymbols
  case productionsOf_eq => exact flatMap_productionsOf h
  case production =>
    intro id hid
    obtain ⟨entry, hentry⟩ := exists_production?_of_mem hid
    obtain ⟨nonterminal, declared, hnonterminal, hdeclared, hrhs⟩ := exists_declared h hentry
    exact ⟨entry, nonterminal, declared, hentry, hnonterminal, hdeclared, hrhs,
      productionRef?_iff h hentry hnonterminal⟩
  case numbered =>
    intro nonterminal hmem ordinal hordinal
    -- a declaration has a place, and the entry of this place has its number
    obtain ⟨i, hnonterminal⟩ := List.getElem?_of_mem hmem
    obtain ⟨id, entry, hentry, howner, rfl⟩ :=
      exists_production h hnonterminal (List.getElem?_eq_getElem hordinal)
    have hown : grammar.coreNonterminals[entry.nonterminal.index]? = some nonterminal := by
      rw [howner, hnonterminal]
    exact ⟨id, mem_productionIds hentry, (productionRef?_iff h hentry hown _ _).mpr ⟨rfl, rfl⟩⟩
  case qualifiedName?_isSome =>
    intro id hid
    exact Option.isSome_iff_exists.mpr (hqualified id hid)
  case qualifiedName?_inj =>
    intro first hfirst second _ hsame
    obtain ⟨name, hname⟩ := hqualified first hfirst
    exact qualifiedName?_injective hsymbols hname (hsame ▸ hname)

/-- **Numbering is exact**: a grammar has a table exactly if it can be numbered, and then its
numbers fit its declarations. -/
theorem ofGrammar_exact (grammar : Grammar) :
    ((∃ symbols, ofGrammar grammar = .ok symbols) ↔ grammar.Numberable) ∧
      ∀ symbols, ofGrammar grammar = .ok symbols → symbols.NumbersExactly grammar :=
  ⟨exists_ofGrammar_iff, fun _ => numbersExactly_of_ofGrammar⟩

/-- A grammar whose augmenting nonterminal stands between the others, one of which has no
productions and one the name of another one's production. -/
def scatteredGrammar : Grammar where
  terminals := [⟨"EOF", .endOfInput⟩, ⟨"A", .literal "a"⟩]
  nonterminals := [
    ⟨"AP1", [⟨[.nonterminal "A", .terminal "A"]⟩]⟩,
    ⟨"S'", [⟨[.nonterminal "A"]⟩, ⟨[.nonterminal "missing"]⟩]⟩,
    ⟨"none", []⟩,
    ⟨"A", [⟨[]⟩, ⟨[.nonterminal "AP1", .nonterminal "none"]⟩]⟩]
  augmentedStart? := some "S'"

def scatteredSymbols : SymbolTable where
  terminals := scatteredGrammar.terminals
  nonterminals := ["AP1", "none", "A"]
  productions := [
    ⟨⟨0⟩, 0, [.nonterminal ⟨2⟩, .terminal ⟨1⟩]⟩,
    ⟨⟨2⟩, 0, []⟩,
    ⟨⟨2⟩, 1, [.nonterminal ⟨0⟩, .nonterminal ⟨1⟩]⟩]
  augmentedStart? := some "S'"

theorem ofGrammar_exact_scattered :
    scatteredGrammar.Numberable ∧ ofGrammar scatteredGrammar = .ok scatteredSymbols ∧
      scatteredSymbols.NumbersExactly scatteredGrammar := by
  have htable : ofGrammar scatteredGrammar = .ok scatteredSymbols := rfl
  obtain ⟨hnumberable, hexact⟩ := ofGrammar_exact scatteredGrammar
  exact ⟨hnumberable.mp ⟨_, htable⟩, htable, hexact _ htable⟩

end SymbolTable

end ParserFoundry
