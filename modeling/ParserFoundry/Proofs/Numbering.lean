import Mathlib.Data.List.Nodup
import ParserFoundry.Automaton
import ParserFoundry.Proofs.Checked
import ParserFoundry.SymbolTable
/-!
# Well-Formed Numberings

What a symbol table made from a grammar promises to those that look names and numbers up in it:
no name is numbered twice, the augmenting nonterminal is not numbered, every production belongs to
a numbered nonterminal, and the productions of a nonterminal carry the ordinals 0, 1, 2, ...

Main results:
- `wellFormed_of_ofGrammar`: every symbol table made from a grammar is well-formed.
- `terminalId?_eq_some_iff`, `nonterminalId?_eq_some_iff`: looking up a name and looking up a
  number are inverse to each other.
- `productionRef?_eq_some_iff`: a reference finds the production that it describes, and no other.
-/

namespace ParserFoundry

/-- Numbers go up along a list that is numbered. -/
theorem pairwise_zipIdx {α : Type} (values : List α) :
    values.zipIdx.Pairwise fun first second => first.2 < second.2 := by
  have h : (values.zipIdx.map Prod.snd).Pairwise (· < ·) := by
    rw [List.zipIdx_map_snd]
    exact List.pairwise_lt_range'
  exact List.pairwise_map.mp h

namespace SymbolTable

variable {symbols : SymbolTable} {name : String}

/-! ## Well-formedness -/

/-- A numbering that looking up by name can rely on. -/
structure WellFormed (symbols : SymbolTable) : Prop where
  terminals_nodup : (symbols.terminals.map Terminal.name).Nodup
  nonterminals_nodup : symbols.nonterminals.Nodup
  not_augmenting : ∀ name ∈ symbols.nonterminals, symbols.augmentedStart? ≠ some name
  nonterminal_lt : ∀ entry ∈ symbols.productions,
    entry.nonterminal.index < symbols.nonterminals.length
  /-- The productions of one nonterminal, in order, have the ordinals from zero on. -/
  ordinals : ∀ id : NonterminalId,
    let own := symbols.productions.filter fun entry => entry.nonterminal = id
    own.map NumberedProduction.ordinal = List.range own.length

/-- `id` is the production that `reference` describes by its nonterminal and its ordinal. -/
def IsProduction (symbols : SymbolTable) (reference : ProductionRef) (id : ProductionId) : Prop :=
  ∃ entry, symbols.production? id = some entry ∧
    symbols.nonterminalName? entry.nonterminal = some reference.nonterminal ∧
    entry.ordinal = reference.ordinal

/-! ## Tables made from grammars -/

/-- No name is repeated exactly if all are different, also from those that have been seen. -/
theorem firstRepeated_eq_none_iff {seen names : List String} :
    firstRepeated seen names = none ↔ names.Nodup ∧ ∀ name ∈ names, name ∉ seen := by
  -- the names that have been seen grow along the list, so both halves are needed at once
  induction names generalizing seen with
  | nil => simp [firstRepeated]
  | cons first rest ih =>
    rw [firstRepeated]
    split
    case isTrue hseen => simp [hseen]
    case isFalse hnew =>
      rw [ih, List.nodup_cons, List.forall_mem_cons]
      simp only [List.mem_cons, not_or]
      constructor
      · rintro ⟨hnodup, hrest⟩
        exact ⟨⟨fun hmem => (hrest first hmem).1 rfl, hnodup⟩, hnew,
          fun name hname => (hrest name hname).2⟩
      · rintro ⟨⟨hfirst, hnodup⟩, -, hrest⟩
        exact ⟨hnodup, fun name hname => ⟨fun heq => hfirst (heq ▸ hname), hrest name hname⟩⟩

theorem nodup_iff_firstRepeated {names : List String} :
    names.Nodup ↔ firstRepeated [] names = none := by
  simp [firstRepeated_eq_none_iff]

/-- The entries of one nonterminal carry its number, and the ordinals go up from `ordinal`. -/
theorem numberProductions_ok {terminals nonterminals : List String} {id : NonterminalId}
    {ordinal : Nat} {productions : List Production} {entries : List NumberedProduction}
    (h : numberProductions terminals nonterminals id ordinal productions = .ok entries) :
    (∀ entry ∈ entries, entry.nonterminal = id) ∧
      entries.map NumberedProduction.ordinal = List.range' ordinal entries.length := by
  induction productions generalizing ordinal entries with
  | nil =>
    cases h
    simp
  | cons production rest ih =>
    simp only [numberProductions] at h
    obtain ⟨rhs, -, others, hrest, hentries⟩ := by simpa only [bind_eq_ok_iff] using h
    cases hentries
    obtain ⟨hid, hordinal⟩ := ih hrest
    refine ⟨?_, ?_⟩
    · intro entry hentry
      rcases List.mem_cons.mp hentry with rfl | hmem
      · rfl
      · exact hid entry hmem
    · rw [List.map_cons, hordinal, List.length_cons, List.range'_succ]

/-- Nonterminals numbered from `first` on: the numbers stay in range, and each nonterminal's own
entries have the ordinals from zero on. -/
theorem numberAll_ok {terminals nonterminals : List String} {first : Nat}
    {declared : List Nonterminal} {entries : List NumberedProduction}
    (h : numberAll terminals nonterminals first declared = .ok entries) :
    (∀ entry ∈ entries, first ≤ entry.nonterminal.index ∧
      entry.nonterminal.index < first + declared.length) ∧
    ∀ id : NonterminalId,
      let own := entries.filter fun entry => entry.nonterminal = id
      own.map NumberedProduction.ordinal = List.range own.length := by
  induction declared generalizing first entries with
  | nil =>
    cases h
    simp
  | cons nonterminal rest ih =>
    simp only [numberAll] at h
    obtain ⟨own, hown, others, hrest, hentries⟩ := by simpa only [bind_eq_ok_iff] using h
    cases hentries
    obtain ⟨hid, hordinal⟩ := numberProductions_ok hown
    obtain ⟨hrange, hordinals⟩ := ih hrest
    refine ⟨?_, ?_⟩
    · intro entry hentry
      rcases List.mem_append.mp hentry with hmem | hmem
      · have hfirst : entry.nonterminal.index = first := by rw [hid entry hmem]
        rw [List.length_cons]
        omega
      · have hbounds := hrange entry hmem
        rw [List.length_cons]
        omega
    · -- the entries of the first nonterminal come first, and those of the others behind them
      intro id
      by_cases hfirst : id = ⟨first⟩
      · -- the entries of the later nonterminals all have greater numbers
        have hothers : (others.filter fun entry => entry.nonterminal = id) = [] := by
          refine List.filter_eq_nil_iff.mpr fun entry hmem => ?_
          have hbounds := hrange entry hmem
          simp only [decide_eq_true_eq]
          intro hentry
          have hindex : entry.nonterminal.index = first := by rw [hentry, hfirst]
          omega
        have hself : (own.filter fun entry => entry.nonterminal = id) = own := by
          refine List.filter_eq_self.mpr fun entry hmem => ?_
          simp only [decide_eq_true_eq]
          rw [hid entry hmem, hfirst]
        simp only [List.filter_append, hothers, hself, List.append_nil, hordinal]
        exact List.range_eq_range'.symm
      · have hself : (own.filter fun entry => entry.nonterminal = id) = [] := by
          refine List.filter_eq_nil_iff.mpr fun entry hmem => ?_
          simp only [decide_eq_true_eq]
          rw [hid entry hmem]
          exact fun heq => hfirst heq.symm
        simp only [List.filter_append, hself, List.nil_append]
        exact hordinals id

/-- What numbering a grammar checks before it gives out a table. -/
theorem ofGrammar_ok {grammar : Grammar} (h : ofGrammar grammar = .ok symbols) :
    firstRepeated [] (grammar.terminals.map Terminal.name) = none ∧
    firstRepeated [] (grammar.nonterminals.map Nonterminal.name) = none ∧
    ∃ productions,
      numberAll (grammar.terminals.map Terminal.name)
        (grammar.coreNonterminals.map Nonterminal.name) 0 grammar.coreNonterminals =
          .ok productions ∧
      symbols = ⟨grammar.terminals, grammar.coreNonterminals.map Nonterminal.name, productions,
        grammar.augmentedStart?⟩ := by
  -- the checks are taken in their order; a table only comes out behind the last one
  cases hterminals : firstRepeated [] (grammar.terminals.map Terminal.name) with
  | some name =>
    simp only [ofGrammar, hterminals, throw, throwThe, MonadExceptOf.throw, bind,
      Except.bind] at h
    grind
  | none =>
    cases hnonterminals : firstRepeated [] (grammar.nonterminals.map Nonterminal.name) with
    | some name =>
      simp only [ofGrammar, hterminals, hnonterminals, throw, throwThe, MonadExceptOf.throw,
        bind, Except.bind] at h
      grind
    | none =>
      cases hall : numberAll (grammar.terminals.map Terminal.name)
          (grammar.coreNonterminals.map Nonterminal.name) 0 grammar.coreNonterminals with
      | error cause =>
        simp only [ofGrammar, hterminals, hnonterminals, hall, throw, throwThe,
          MonadExceptOf.throw, bind, Except.bind] at h
        grind
      | ok productions =>
        simp only [ofGrammar, hterminals, hnonterminals, hall, throw, throwThe,
          MonadExceptOf.throw, bind, Except.bind, pure, Except.pure] at h
        grind

/-- Every symbol table made from a grammar is well-formed. -/
theorem wellFormed_of_ofGrammar {grammar : Grammar} (h : ofGrammar grammar = .ok symbols) :
    symbols.WellFormed := by
  obtain ⟨hterminals, hnonterminals, productions, hall, rfl⟩ := ofGrammar_ok h
  obtain ⟨hrange, hordinals⟩ := numberAll_ok hall
  -- the augmenting nonterminal is taken out, and the others are as different as before
  have hcore : (grammar.coreNonterminals.map Nonterminal.name).Sublist
      (grammar.nonterminals.map Nonterminal.name) :=
    List.filter_sublist.map Nonterminal.name
  constructor
  case terminals_nodup => exact nodup_iff_firstRepeated.mpr hterminals
  case nonterminals_nodup => exact (nodup_iff_firstRepeated.mpr hnonterminals).sublist hcore
  case not_augmenting =>
    intro name hname haugmented
    obtain ⟨nonterminal, hmem, rfl⟩ := List.mem_map.mp hname
    have hcoreMem := (List.mem_filter.mp hmem).2
    dsimp only at haugmented
    simp [Grammar.isAugmentedStart, haugmented] at hcoreMem
  case nonterminal_lt =>
    intro entry hentry
    have hbounds := hrange entry hentry
    simp only [List.length_map]
    omega
  case ordinals => exact hordinals

/-! ## Looking up in both directions -/

theorem terminalName?_of_terminalId? {id : TerminalId} (h : symbols.terminalId? name = some id) :
    symbols.terminalName? id = some name := by
  obtain ⟨i, hi, rfl⟩ := Option.map_eq_some_iff.mp h
  obtain ⟨hlt, hget, -⟩ := List.idxOf?_eq_some_iff.mp hi
  simp only [List.length_map, List.getElem_map] at hlt hget
  simp [terminalName?, terminal?, hlt, hget]

theorem terminalId?_eq_some_iff (hsymbols : symbols.WellFormed) {id : TerminalId} :
    symbols.terminalId? name = some id ↔ symbols.terminalName? id = some name := by
  refine ⟨terminalName?_of_terminalId?, fun h => ?_⟩
  have hget : (symbols.terminals.map Terminal.name)[id.index]? = some name := by
    simpa [terminalName?, terminal?] using h
  obtain ⟨hlt, hname⟩ := List.getElem?_eq_some_iff.mp hget
  refine Option.map_eq_some_iff.mpr ⟨id.index, List.idxOf?_eq_some_iff.mpr ⟨hlt, hname, ?_⟩, rfl⟩
  -- an earlier place cannot have the name, since no name is numbered twice
  intro j hj heq
  exact absurd (hsymbols.terminals_nodup.getElem_inj_iff.mp (heq.trans hname.symm)) (by omega)

theorem nonterminalName?_of_nonterminalId? {id : NonterminalId}
    (h : symbols.nonterminalId? name = some id) : symbols.nonterminalName? id = some name := by
  obtain ⟨i, hi, rfl⟩ := Option.map_eq_some_iff.mp h
  obtain ⟨hlt, hget, -⟩ := List.idxOf?_eq_some_iff.mp hi
  simp [nonterminalName?, hlt, hget]

theorem nonterminalId?_eq_some_iff (hsymbols : symbols.WellFormed) {id : NonterminalId} :
    symbols.nonterminalId? name = some id ↔ symbols.nonterminalName? id = some name := by
  refine ⟨nonterminalName?_of_nonterminalId?, fun h => ?_⟩
  obtain ⟨hlt, hname⟩ := List.getElem?_eq_some_iff.mp h
  refine Option.map_eq_some_iff.mpr ⟨id.index, List.idxOf?_eq_some_iff.mpr ⟨hlt, hname, ?_⟩, rfl⟩
  -- as for terminals
  intro j hj heq
  exact absurd (hsymbols.nonterminals_nodup.getElem_inj_iff.mp (heq.trans hname.symm)) (by omega)

/-- A name is not found exactly when no number has it. -/
theorem terminalId?_eq_none_iff (hsymbols : symbols.WellFormed) :
    symbols.terminalId? name = none ↔ ∀ id, symbols.terminalName? id ≠ some name := by
  rw [Option.eq_none_iff_forall_ne_some]
  exact forall_congr' fun id => not_congr (terminalId?_eq_some_iff hsymbols)

theorem nonterminalId?_eq_none_iff (hsymbols : symbols.WellFormed) :
    symbols.nonterminalId? name = none ↔ ∀ id, symbols.nonterminalName? id ≠ some name := by
  rw [Option.eq_none_iff_forall_ne_some]
  exact forall_congr' fun id => not_congr (nonterminalId?_eq_some_iff hsymbols)

/-! ## References to productions -/

/-- The entries at the numbers of all productions are all entries. -/
theorem map_production?_productionIds (symbols : SymbolTable) :
    symbols.productionIds.map symbols.production? = symbols.productions.map some := by
  refine List.ext_getElem (by simp [productionIds]) fun i hi hi' => ?_
  simp only [List.length_map] at hi'
  simp [productionIds, production?, hi']

/-- The entries at the numbers of a nonterminal's productions are that nonterminal's entries. -/
theorem map_production?_productionsOf (symbols : SymbolTable) (id : NonterminalId) :
    (symbols.productionsOf id).map symbols.production? =
      (symbols.productions.filter fun entry => entry.nonterminal = id).map some := by
  calc (symbols.productionsOf id).map symbols.production?
      = (symbols.productionIds.map symbols.production?).filter
          (Option.any fun entry => entry.nonterminal = id) := by
        rw [List.filter_map]; rfl
    _ = (symbols.productions.map some).filter (Option.any fun entry => entry.nonterminal = id) := by
        rw [map_production?_productionIds]
    _ = (symbols.productions.filter fun entry => entry.nonterminal = id).map some := by
        rw [List.filter_map]; rfl

theorem mem_productionsOf_iff {id : NonterminalId} {production : ProductionId} :
    production ∈ symbols.productionsOf id ↔
      ∃ entry, symbols.production? production = some entry ∧ entry.nonterminal = id := by
  simp only [productionsOf, productionIds, List.mem_filter, List.mem_map, List.mem_range,
    Option.any_eq_true, decide_eq_true_eq]
  constructor
  · rintro ⟨-, entry, hentry, hid⟩
    exact ⟨entry, hentry, hid⟩
  · rintro ⟨entry, hentry, hid⟩
    -- the number of an entry is in range, so it stays among the numbers that are filtered
    obtain ⟨hlt, -⟩ := List.getElem?_eq_some_iff.mp hentry
    exact ⟨⟨production.index, hlt, rfl⟩, entry, hentry, hid⟩

/-- The production in place `ordinal` among those of a nonterminal has that ordinal. -/
theorem ordinal_of_productionsOf (hsymbols : symbols.WellFormed) {id : NonterminalId}
    {ordinal : Nat} {production : ProductionId} {entry : NumberedProduction}
    (h : (symbols.productionsOf id)[ordinal]? = some production)
    (hentry : symbols.production? production = some entry) : entry.ordinal = ordinal := by
  have hown : ((symbols.productions.filter fun entry => entry.nonterminal = id).map some)[ordinal]? =
      some (some entry) := by
    rw [← map_production?_productionsOf, List.getElem?_map, h, Option.map_some, hentry]
  have hget : (symbols.productions.filter fun entry => entry.nonterminal = id)[ordinal]? =
      some entry := by
    simpa using hown
  have hlt := (List.getElem?_eq_some_iff.mp hget).1
  -- the ordinals of the nonterminal count from zero, so the one in this place is the place itself
  have hordinal := congrArg (fun ordinals => ordinals[ordinal]?) (hsymbols.ordinals id)
  simpa only [List.getElem?_map, hget, List.getElem?_range hlt, Option.map_some,
    Option.some.injEq] using hordinal

/-- A reference finds the production that it describes, and no other. -/
theorem productionRef?_eq_some_iff (hsymbols : symbols.WellFormed) {reference : ProductionRef}
    {production : ProductionId} :
    symbols.productionRef? reference.nonterminal reference.ordinal = some production ↔
      symbols.IsProduction reference production := by
  simp only [productionRef?, Option.bind_eq_bind, Option.bind_eq_some_iff,
    nonterminalId?_eq_some_iff hsymbols]
  constructor
  · rintro ⟨id, hid, hget⟩
    obtain ⟨entry, hentry, rfl⟩ := mem_productionsOf_iff.mp (List.mem_of_getElem? hget)
    exact ⟨entry, hentry, hid, ordinal_of_productionsOf hsymbols hget hentry⟩
  · rintro ⟨entry, hentry, hid, hordinal⟩
    -- the production stands somewhere among those of its nonterminal, and its ordinal tells where
    obtain ⟨ordinal, hget⟩ :=
      List.getElem?_of_mem (mem_productionsOf_iff.mpr ⟨entry, hentry, rfl⟩)
    have hsame : entry.ordinal = ordinal := ordinal_of_productionsOf hsymbols hget hentry
    refine ⟨entry.nonterminal, hid, ?_⟩
    rw [← hordinal, hsame, hget]

theorem productionRef?_eq_none_iff (hsymbols : symbols.WellFormed) {reference : ProductionRef} :
    symbols.productionRef? reference.nonterminal reference.ordinal = none ↔
      ∀ production, ¬ symbols.IsProduction reference production := by
  rw [Option.eq_none_iff_forall_ne_some]
  exact forall_congr' fun production => not_congr (productionRef?_eq_some_iff hsymbols)

end SymbolTable

/-! ## A grammar of statements

The grammar that the witnesses of this theory use: lists of statements, each a number and a
semicolon. -/

namespace Statements

def grammar : Grammar where
  terminals := [⟨"EOF", .endOfInput⟩, ⟨";", .literal ";"⟩, ⟨"Num", .pattern "[0-9]+"⟩]
  nonterminals := [
    ⟨"S'", [⟨[.nonterminal "Stmts"]⟩]⟩,
    ⟨"Stmts", [⟨[.nonterminal "Stmts", .nonterminal "Stmt"]⟩, ⟨[]⟩]⟩,
    ⟨"Stmt", [⟨[.terminal "Num", .terminal ";"]⟩]⟩]
  augmentedStart? := some "S'"

def symbols : SymbolTable where
  terminals := grammar.terminals
  nonterminals := ["Stmts", "Stmt"]
  productions := [
    ⟨⟨0⟩, 0, [.nonterminal ⟨0⟩, .nonterminal ⟨1⟩]⟩,
    ⟨⟨0⟩, 1, []⟩,
    ⟨⟨1⟩, 0, [.terminal ⟨2⟩, .terminal ⟨1⟩]⟩]
  augmentedStart? := some "S'"

theorem ofGrammar_grammar : SymbolTable.ofGrammar grammar = .ok symbols := rfl

end Statements

end ParserFoundry
