import ParserFoundry.Proofs.Numbering.Exactness
import ParserFoundry.Proofs.Parser.Cells
/-!
# Productions of a Numbered Grammar

A grammar is numbered only if all references of its productions are resolved, so that every symbol
of a right-hand side has a number in range, and every production can be shown.

Main results:
- `numbers_of_mem_rhs`: the symbols of right-hand sides are numbered.
- `exists_display`: every production has a text for people.
-/

namespace ParserFoundry

namespace SymbolTable

variable {symbols : SymbolTable}

/-! ## Right-hand sides -/

/-- A symbol that a reference is to has a number in range. -/
theorem numbers_of_refersTo {reference : SymbolRef} {symbol : Symbol}
    (h : RefersTo (symbols.terminals.map Terminal.name) symbols.nonterminals reference symbol) :
    symbols.Numbers symbol := by
  -- a reference to a terminal never leads to a nonterminal, nor the other way round
  cases reference with
  | terminal name =>
    cases symbol with
    | terminal id => simpa [Numbers] using (List.getElem?_eq_some_iff.mp h).1
    | nonterminal id => cases h
  | nonterminal name =>
    cases symbol with
    | terminal id => cases h
    | nonterminal id => exact (List.getElem?_eq_some_iff.mp h).1

/-- The symbols of right-hand sides are numbered. -/
theorem numbers_of_mem_rhs {grammar : Grammar} (h : ofGrammar grammar = .ok symbols)
    {entry : NumberedProduction} (hentry : entry ∈ symbols.productions) {symbol : Symbol}
    (hsymbol : symbol ∈ entry.rhs) : symbols.Numbers symbol := by
  obtain ⟨i, hi⟩ := List.getElem?_of_mem hentry
  have hget : symbols.production? ⟨i⟩ = some entry := hi
  -- the entry has a declaration, and its symbols are those that the references of this are to
  obtain ⟨nonterminal, declared, -, -, hrhs⟩ := exists_declared h hget
  obtain ⟨place, hplace, rfl⟩ := List.getElem_of_mem hsymbol
  exact numbers_of_refersTo (hrhs.get (hrhs.length_eq ▸ hplace) hplace)

/-! ## Texts for people -/

theorem exists_symbolName {symbol : Symbol} (h : symbols.Numbers symbol) :
    ∃ name, symbols.symbolName? symbol = some name := by
  cases symbol with
  | terminal id => exact exists_terminalName h
  | nonterminal id => exact exists_nonterminalName h

theorem exists_symbolNames {rhs : List Symbol} (h : ∀ symbol ∈ rhs, symbols.Numbers symbol) :
    ∃ names, rhs.mapM symbols.symbolName? = some names := by
  induction rhs with
  | nil => exact ⟨[], rfl⟩
  | cons symbol rest ih =>
    obtain ⟨name, hname⟩ := exists_symbolName (h symbol (List.mem_cons_self ..))
    obtain ⟨names, hnames⟩ := ih fun other hother => h other (List.mem_cons_of_mem _ hother)
    exact ⟨name :: names, by simp [hname, hnames]⟩

/-- Every production has a text for people. -/
theorem exists_display {grammar : Grammar} (h : ofGrammar grammar = .ok symbols)
    {production : ProductionId} {entry : NumberedProduction}
    (hentry : symbols.production? production = some entry) :
    ∃ text, symbols.display? production = some text := by
  have hmem : entry ∈ symbols.productions := List.mem_of_getElem? hentry
  -- the nonterminal in front, and then the symbols
  obtain ⟨name, hname⟩ :=
    exists_nonterminalName ((wellFormed_of_ofGrammar h).numbers_nonterminal hentry)
  obtain ⟨names, hnames⟩ :=
    exists_symbolNames fun symbol hsymbol => numbers_of_mem_rhs h hmem hsymbol
  exact ⟨_, by simp only [display?, hentry, hname, hnames, Option.bind_eq_bind, Option.bind_some]; rfl⟩

end SymbolTable

end ParserFoundry
