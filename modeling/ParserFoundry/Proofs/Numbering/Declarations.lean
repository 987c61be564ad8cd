import ParserFoundry.Proofs.Numbering
/-!
# Grammars that Can be Numbered

Numbering goes through the productions in the order in which they are declared and resolves their
references. It gives out a table exactly if names are declared once and all references are to
declared symbols.

Main results:
- `numberAll_eq_mapM`: productions are numbered one by one, each in its place.
- `standsFor_of_numberAll`: what the entries say about the productions in these places.
- `exists_ofGrammar_iff`: which grammars are numbered.
-/

namespace ParserFoundry

/-! ## Declared names -/

namespace Grammar

/-- The symbol that a reference names is declared, and it is not the augmenting one. -/
def Declares (grammar : Grammar) : SymbolRef → Prop
  | .terminal name => name ∈ grammar.terminals.map Terminal.name
  | .nonterminal name => name ∈ grammar.coreNonterminals.map Nonterminal.name

/-- What it takes for a grammar to be numbered. -/
structure Numberable (grammar : Grammar) : Prop where
  start_declared : ∀ start, grammar.augmentedStart? = some start →
    start ∈ grammar.nonterminals.map Nonterminal.name
  terminals_nodup : (grammar.terminals.map Terminal.name).Nodup
  nonterminals_nodup : (grammar.nonterminals.map Nonterminal.name).Nodup
  declares : ∀ nonterminal ∈ grammar.coreNonterminals, ∀ production ∈ nonterminal.productions,
    ∀ reference ∈ production.rhs, grammar.Declares reference

end Grammar

namespace SymbolTable

variable {terminals nonterminals : List String}

/-! ## References -/

/-- The symbol is the one that the reference names. -/
def RefersTo (terminals nonterminals : List String) : SymbolRef → Symbol → Prop
  | .terminal name, .terminal id => terminals[id.index]? = some name
  | .nonterminal name, .nonterminal id => nonterminals[id.index]? = some name
  | _, _ => False

theorem getElem?_of_idxOf? {names : List String} {name : String} {i : Nat}
    (h : names.idxOf? name = some i) : names[i]? = some name := by
  obtain ⟨hlt, hname, -⟩ := List.idxOf?_eq_some_iff.mp h
  rw [List.getElem?_eq_getElem hlt, hname]

theorem refersTo_of_resolve {reference : SymbolRef} {symbol : Symbol}
    (h : resolve terminals nonterminals reference = .ok symbol) :
    RefersTo terminals nonterminals reference symbol := by
  cases reference with
  | terminal name =>
    rw [resolve] at h
    split at h
    case h_1 i hfound =>
      cases h
      exact getElem?_of_idxOf? hfound
    case h_2 => cases h
  | nonterminal name =>
    rw [resolve] at h
    split at h
    case h_1 i hfound =>
      cases h
      exact getElem?_of_idxOf? hfound
    case h_2 => cases h

theorem exists_idxOf?_iff {names : List String} {name : String} :
    (∃ i, names.idxOf? name = some i) ↔ name ∈ names := by
  rw [← Option.isSome_iff_exists, Option.isSome_iff_ne_none, ne_eq, List.idxOf?_eq_none_iff,
    not_not]

/-- A reference is resolved exactly if its symbol is declared. -/
theorem exists_resolve_iff {grammar : Grammar} {reference : SymbolRef} :
    (∃ symbol, resolve (grammar.terminals.map Terminal.name)
      (grammar.coreNonterminals.map Nonterminal.name) reference = .ok symbol) ↔
      grammar.Declares reference := by
  cases reference with
  | terminal name =>
    rw [Grammar.Declares, ← exists_idxOf?_iff, resolve]
    split
    case h_1 i hfound => simp [hfound]
    case h_2 hnone => simp [hnone]
  | nonterminal name =>
    rw [Grammar.Declares, ← exists_idxOf?_iff, resolve]
    split
    case h_1 i hfound => simp [hfound]
    case h_2 hnone => simp [hnone]

/-! ## Productions in their places -/

/-- A production with the nonterminal and the place at which it is declared. -/
structure PlacedProduction where
  nonterminal : NonterminalId
  ordinal : Nat
  declared : Production

/-- The productions of one nonterminal, the first of them in place `ordinal`. -/
def placedProductions (id : NonterminalId) (ordinal : Nat) (productions : List Production) :
    List PlacedProduction :=
  (productions.zipIdx ordinal).map fun (declared, place) => ⟨id, place, declared⟩

/-- The productions of all nonterminals, whose numbers go from `first` on. -/
def placedFrom (first : Nat) (declared : List Nonterminal) : List PlacedProduction :=
  (declared.zipIdx first).flatMap fun (nonterminal, i) =>
    placedProductions ⟨i⟩ 0 nonterminal.productions

/-- Number a production in its place. -/
def numberPlaced (terminals nonterminals : List String) (placed : PlacedProduction) :
    Except NumberingError NumberedProduction := do
  let rhs ← placed.declared.rhs.mapM (resolve terminals nonterminals)
  return ⟨placed.nonterminal, placed.ordinal, rhs⟩

theorem numberProductions_eq_mapM (id : NonterminalId) (ordinal : Nat)
    (productions : List Production) :
    numberProductions terminals nonterminals id ordinal productions =
      (placedProductions id ordinal productions).mapM (numberPlaced terminals nonterminals) := by
  -- the ordinal grows along the productions, so it is generalised
  induction productions generalizing ordinal with
  | nil => rfl
  | cons production rest ih =>
    rw [numberProductions, ih]
    simp [placedProductions, numberPlaced]

/-- Productions are numbered one by one, in the order in which they are declared. -/
theorem numberAll_eq_mapM (first : Nat) (declared : List Nonterminal) :
    numberAll terminals nonterminals first declared =
      (placedFrom first declared).mapM (numberPlaced terminals nonterminals) := by
  -- as above, with the number of the nonterminal
  induction declared generalizing first with
  | nil => rfl
  | cons nonterminal rest ih =>
    rw [numberAll, numberProductions_eq_mapM, ih]
    simp [placedFrom]

/-- The places of productions, and what is declared there. -/
theorem mem_placedFrom_iff {declared : List Nonterminal} {placed : PlacedProduction} :
    placed ∈ placedFrom 0 declared ↔
      ∃ nonterminal, declared[placed.nonterminal.index]? = some nonterminal ∧
        nonterminal.productions[placed.ordinal]? = some placed.declared := by
  simp only [placedFrom, placedProductions, List.mem_flatMap, List.mem_map, Prod.exists,
    List.mem_zipIdx_iff_getElem?]
  constructor
  · rintro ⟨nonterminal, i, hnonterminal, production, place, hproduction, rfl⟩
    exact ⟨nonterminal, hnonterminal, hproduction⟩
  · rintro ⟨nonterminal, hnonterminal, hproduction⟩
    exact ⟨nonterminal, _, hnonterminal, placed.declared, _, hproduction, rfl⟩

/-! ## Entries for productions -/

/-- An entry has the place of a production, and its symbols are those of the production. -/
structure StandsFor (terminals nonterminals : List String) (placed : PlacedProduction)
    (entry : NumberedProduction) : Prop where
  nonterminal_eq : entry.nonterminal = placed.nonterminal
  ordinal_eq : entry.ordinal = placed.ordinal
  rhs : List.Forall₂ (RefersTo terminals nonterminals) placed.declared.rhs entry.rhs

theorem standsFor_of_numberPlaced {placed : PlacedProduction} {entry : NumberedProduction}
    (h : numberPlaced terminals nonterminals placed = .ok entry) :
    StandsFor terminals nonterminals placed entry := by
  obtain ⟨rhs, hrhs, hentry⟩ := bind_eq_ok_iff.mp h
  cases hentry
  exact {
    nonterminal_eq := rfl
    ordinal_eq := rfl
    rhs := (forall₂_of_mapM_eq_ok hrhs).imp fun _ _ => refersTo_of_resolve }

/-- The entries of a table stand for the declared productions, in their order. -/
theorem standsFor_of_numberAll {first : Nat} {declared : List Nonterminal}
    {entries : List NumberedProduction}
    (h : numberAll terminals nonterminals first declared = .ok entries) :
    List.Forall₂ (StandsFor terminals nonterminals) (placedFrom first declared) entries := by
  rw [numberAll_eq_mapM] at h
  exact (forall₂_of_mapM_eq_ok h).imp fun _ _ => standsFor_of_numberPlaced

theorem exists_numberPlaced_iff {placed : PlacedProduction} :
    (∃ entry, numberPlaced terminals nonterminals placed = .ok entry) ↔
      ∀ reference ∈ placed.declared.rhs,
        ∃ symbol, resolve terminals nonterminals reference = .ok symbol := by
  rw [← exists_mapM_eq_ok_iff]
  constructor
  · rintro ⟨entry, hentry⟩
    obtain ⟨rhs, hrhs, -⟩ := bind_eq_ok_iff.mp hentry
    exact ⟨rhs, hrhs⟩
  · rintro ⟨rhs, hrhs⟩
    exact ⟨⟨_, _, rhs⟩, bind_eq_ok_iff.mpr ⟨rhs, hrhs, rfl⟩⟩

/-- All productions are numbered exactly if all their references are to declared symbols. -/
theorem exists_numberAll_iff {grammar : Grammar} :
    (∃ entries, numberAll (grammar.terminals.map Terminal.name)
      (grammar.coreNonterminals.map Nonterminal.name) 0 grammar.coreNonterminals = .ok entries) ↔
      ∀ nonterminal ∈ grammar.coreNonterminals, ∀ production ∈ nonterminal.productions,
        ∀ reference ∈ production.rhs, grammar.Declares reference := by
  simp only [numberAll_eq_mapM, exists_mapM_eq_ok_iff, exists_numberPlaced_iff, exists_resolve_iff,
    mem_placedFrom_iff]
  constructor
  · intro h nonterminal hnonterminal production hproduction
    -- a declared production has a place, and the production in a place is declared
    obtain ⟨i, hi⟩ := List.getElem?_of_mem hnonterminal
    obtain ⟨place, hplace⟩ := List.getElem?_of_mem hproduction
    exact h ⟨⟨i⟩, place, production⟩ ⟨nonterminal, hi, hplace⟩
  · rintro h placed ⟨nonterminal, hnonterminal, hproduction⟩
    exact h nonterminal (List.mem_of_getElem? hnonterminal) placed.declared
      (List.mem_of_getElem? hproduction)

/-! ## Grammars -/

variable {symbols : SymbolTable} {grammar : Grammar}

theorem start_declared_of_ofGrammar (h : ofGrammar grammar = .ok symbols) {start : String}
    (hstart : grammar.augmentedStart? = some start) :
    start ∈ grammar.nonterminals.map Nonterminal.name := by
  by_contra hmem
  have hany : (grammar.nonterminals.any fun nonterminal => nonterminal.name == start) = false := by
    simpa using hmem
  -- the check of the augmenting symbol comes first and fails
  simp [ofGrammar, hstart, hany, throw, throwThe, MonadExceptOf.throw, bind, Except.bind] at h

/-- A grammar that passes all checks has a table. -/
theorem ofGrammar_eq_ok {productions : List NumberedProduction}
    (hstart : ∀ start, grammar.augmentedStart? = some start →
      start ∈ grammar.nonterminals.map Nonterminal.name)
    (hterminals : firstRepeated [] (grammar.terminals.map Terminal.name) = none)
    (hnonterminals : firstRepeated [] (grammar.nonterminals.map Nonterminal.name) = none)
    (hproductions : numberAll (grammar.terminals.map Terminal.name)
      (grammar.coreNonterminals.map Nonterminal.name) 0 grammar.coreNonterminals =
        .ok productions) :
    ofGrammar grammar = .ok ⟨grammar.terminals, grammar.coreNonterminals.map Nonterminal.name,
      productions, grammar.augmentedStart?⟩ := by
  cases haugmented : grammar.augmentedStart? with
  | none => simp [ofGrammar, haugmented, hterminals, hnonterminals, hproductions]
  | some start =>
    have hany : (grammar.nonterminals.any fun nonterminal => nonterminal.name == start) = true := by
      simpa using hstart start haugmented
    simp [ofGrammar, haugmented, hany, hterminals, hnonterminals, hproductions]

/-- A grammar has a table exactly if it can be numbered. -/
theorem exists_ofGrammar_iff :
    (∃ symbols, ofGrammar grammar = .ok symbols) ↔ grammar.Numberable := by
  constructor
  -- each check that has been passed gives one part
  · rintro ⟨symbols, h⟩
    obtain ⟨hterminals, hnonterminals, productions, hproductions, -⟩ := ofGrammar_ok h
    exact {
      start_declared := fun start => start_declared_of_ofGrammar h
      terminals_nodup := nodup_iff_firstRepeated.mpr hterminals
      nonterminals_nodup := nodup_iff_firstRepeated.mpr hnonterminals
      declares := exists_numberAll_iff.mp ⟨productions, hproductions⟩ }
  · intro h
    obtain ⟨productions, hproductions⟩ := exists_numberAll_iff.mpr h.declares
    exact ⟨_, ofGrammar_eq_ok h.start_declared (nodup_iff_firstRepeated.mp h.terminals_nodup)
      (nodup_iff_firstRepeated.mp h.nonterminals_nodup) hproductions⟩

end SymbolTable

end ParserFoundry
