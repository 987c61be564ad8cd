import Mathlib.Data.List.Nodup
import ParserFoundry.Naming.NameTable
import ParserFoundry.Proofs.Checked
/-!
# What Name Tables Promise

A name table holds one name for each terminal, nonterminal and production, in their order. All kinds
are identifiers, and no two names of a class are the same.

Main results:
- `checkIdentifier_eq_ok_iff`, `checkUnique_eq_ok_iff`: what the checks of names let pass.
- `ofSymbols_eq_ok_iff`: tables are the names derived from symbols, if they may stand side by side.
-/

namespace ParserFoundry

namespace NameTable

/-! ## Checks of names -/

/-- A name that generated code can use: an identifier that is no reserved word. -/
def Usable (name : String) : Prop :=
  isIdentifier name.toList ∧ name ∉ reserved

theorem checkIdentifier_eq_ok_iff {source identifier result : String} :
    checkIdentifier source identifier = .ok result ↔ Usable identifier ∧ result = identifier := by
  have hempty : identifier.isEmpty = true → isIdentifier identifier.toList = false := by
    intro h
    rw [String.isEmpty_iff.mp h]
    rfl
  rw [checkIdentifier]
  split
  -- the three branches of the check: an empty name, no identifier or a reserved word, and usable
  case isTrue h => simp [Usable, hempty h]
  case isFalse =>
    split
    case isTrue h =>
      have hunusable : ¬ Usable identifier := by
        rintro ⟨hidentifier, hreserved⟩
        simp [hidentifier, hreserved] at h
      simp [hunusable]
    case isFalse h =>
      have husable : Usable identifier := by simpa [Usable] using h
      simp [husable, eq_comm]

/-- Names pass exactly if all are different, also from those that have been seen. -/
theorem checkUnique_eq_ok_iff {seen pairs : List (String × String)} :
    checkUnique seen pairs = .ok () ↔
      (pairs.map Prod.fst).Nodup ∧ ∀ name ∈ pairs.map Prod.fst, seen.lookup name = none := by
  -- what has been seen grows along the list, so both halves are needed at once
  induction pairs generalizing seen with
  | nil => simp [checkUnique]
  | cons pair rest ih =>
    obtain ⟨name, source⟩ := pair
    have hlookup : ∀ other, List.lookup other ((name, source) :: seen) = none ↔
        other ≠ name ∧ seen.lookup other = none := by
      intro other
      rw [List.lookup_cons]
      split
      case h_1 hsame => simp [beq_iff_eq.mp hsame]
      case h_2 hother => simp [beq_eq_false_iff_ne.mp hother]
    rw [checkUnique]
    split
    -- a name that has been seen is refused, so it cannot be new
    case h_1 earlier hseen =>
      refine iff_of_false (by simp) fun ⟨_, hnew⟩ => ?_
      cases hseen.symm.trans (hnew name (List.mem_cons_self ..))
    case h_2 hnew =>
      simp only [ih, hlookup, List.map_cons, List.nodup_cons, List.forall_mem_cons]
      constructor
      · rintro ⟨hnodup, hrest⟩
        exact ⟨⟨fun hmem => (hrest name hmem).1 rfl, hnodup⟩, hnew,
          fun other hother => (hrest other hother).2⟩
      · rintro ⟨⟨hname, hnodup⟩, -, hrest⟩
        exact ⟨hnodup, fun other hother => ⟨fun heq => hname (heq ▸ hother), hrest other hother⟩⟩

theorem checkUnique_zip_eq_ok_iff {names sources : List String}
    (hlength : names.length = sources.length) :
    checkUnique [] (names.zip sources) = .ok () ↔ names.Nodup := by
  rw [checkUnique_eq_ok_iff, List.map_fst_zip (Nat.le_of_eq hlength)]
  simp

/-! ## Tables -/

/-- The names of a table are derived from the symbols and may stand side by side. -/
structure DerivedFrom (names : NameTable) (symbols : SymbolTable) : Prop where
  terminalKinds_eq :
    names.terminalKinds = symbols.terminals.map fun terminal => Naming.terminalKind terminal.name
  recognizers_eq : names.recognizers = names.terminalKinds.map Naming.recognizerName
  nonterminalKinds_eq : names.nonterminalKinds = symbols.nonterminals.map Naming.nonterminalKind
  productionKinds_eq : names.productionKinds = symbols.productions.map fun production =>
    Naming.productionKind ((symbols.nonterminalName? production.nonterminal).getD "")
      production.ordinal
  actions_eq : names.actions = names.productionKinds.map Naming.actionName
  terminalKinds_usable : ∀ kind ∈ names.terminalKinds, Usable kind
  nonterminalKinds_usable : ∀ kind ∈ names.nonterminalKinds, Usable kind
  productionKinds_usable : ∀ kind ∈ names.productionKinds, Usable kind
  terminalKinds_nodup : names.terminalKinds.Nodup
  recognizers_nodup : names.recognizers.Nodup
  nonterminalKinds_nodup : names.nonterminalKinds.Nodup
  productionKinds_nodup : names.productionKinds.Nodup
  actions_nodup : names.actions.Nodup

variable {symbols : SymbolTable} {names : NameTable}

/-- Names are derived and pass one by one exactly if all of them are usable. -/
theorem mapM_checkIdentifier_eq_ok_iff {α : Type} {source identifier : α → String}
    {values : List α} {results : List String} :
    values.mapM (fun value => checkIdentifier (source value) (identifier value)) = .ok results ↔
      results = values.map identifier ∧ ∀ name ∈ results, Usable name := by
  rw [mapM_eq_ok_iff (fun _ _ => checkIdentifier_eq_ok_iff) values results]
  constructor
  · rintro ⟨husable, rfl⟩
    exact ⟨rfl, List.forall_mem_map.mpr husable⟩
  · rintro ⟨rfl, husable⟩
    exact ⟨List.forall_mem_map.mp husable, rfl⟩

/-- The names of a table are those derived from its symbols. -/
theorem derivedFrom_of_ofSymbols (h : ofSymbols symbols = .ok names) :
    names.DerivedFrom symbols := by
  -- the checks in their order, and what each of them has let pass
  simp only [ofSymbols, bind_eq_ok_iff, pure, Except.pure, Except.ok.injEq] at h
  obtain ⟨terminalKinds, hterminals, ⟨⟩, hterminalsUnique, ⟨⟩, hrecognizers, nonterminalKinds,
    hnonterminals, ⟨⟩, hnonterminalsUnique, productionKinds, hproductions, ⟨⟩,
    hproductionsUnique, ⟨⟩, hactions, rfl⟩ := h
  obtain ⟨rfl, hterminalKinds⟩ := mapM_checkIdentifier_eq_ok_iff.mp hterminals
  obtain ⟨rfl, hnonterminalKinds⟩ := mapM_checkIdentifier_eq_ok_iff.mp hnonterminals
  obtain ⟨rfl, hproductionKinds⟩ := mapM_checkIdentifier_eq_ok_iff.mp hproductions
  exact {
    terminalKinds_eq := by simp [Function.comp_def]
    recognizers_eq := rfl
    nonterminalKinds_eq := rfl
    productionKinds_eq := by simp [Function.comp_def]
    actions_eq := rfl
    terminalKinds_usable := hterminalKinds
    nonterminalKinds_usable := hnonterminalKinds
    productionKinds_usable := hproductionKinds
    terminalKinds_nodup := (checkUnique_zip_eq_ok_iff (by simp)).mp hterminalsUnique
    recognizers_nodup := (checkUnique_zip_eq_ok_iff (by simp)).mp hrecognizers
    nonterminalKinds_nodup := (checkUnique_zip_eq_ok_iff (by simp)).mp hnonterminalsUnique
    productionKinds_nodup := (checkUnique_zip_eq_ok_iff (by simp)).mp hproductionsUnique
    actions_nodup := (checkUnique_zip_eq_ok_iff (by simp)).mp hactions }

/-- The names that are derived from the symbols, whether or not they may stand side by side. -/
def namesOf (symbols : SymbolTable) : NameTable :=
  let terminalKinds := symbols.terminals.map fun terminal => Naming.terminalKind terminal.name
  let productionKinds := symbols.productions.map fun production =>
    Naming.productionKind ((symbols.nonterminalName? production.nonterminal).getD "")
      production.ordinal
  { terminalKinds := terminalKinds
    recognizers := terminalKinds.map Naming.recognizerName
    nonterminalKinds := symbols.nonterminals.map Naming.nonterminalKind
    productionKinds := productionKinds
    actions := productionKinds.map Naming.actionName }

theorem DerivedFrom.eq_namesOf (derived : names.DerivedFrom symbols) : names = namesOf symbols := by
  -- recognizers and actions are derived from kinds, which are derived themselves
  have hrecognizers := derived.recognizers_eq
  have hactions := derived.actions_eq
  rw [derived.terminalKinds_eq] at hrecognizers
  rw [derived.productionKinds_eq] at hactions
  cases names
  simp only [namesOf, NameTable.mk.injEq]
  exact ⟨derived.terminalKinds_eq, hrecognizers, derived.nonterminalKinds_eq,
    derived.productionKinds_eq, hactions⟩

/-- Names that are derived and may stand side by side pass all checks. -/
theorem ofSymbols_of_derivedFrom (derived : names.DerivedFrom symbols) :
    ofSymbols symbols = .ok names := by
  obtain rfl := derived.eq_namesOf
  simp only [ofSymbols, bind_eq_ok_iff, pure, Except.pure, Except.ok.injEq]
  -- the checks are passed in their order, each class behind the kinds that it is derived from
  refine ⟨_, mapM_checkIdentifier_eq_ok_iff.mpr ⟨?_, derived.terminalKinds_usable⟩, (),
    (checkUnique_zip_eq_ok_iff ?_).mpr derived.terminalKinds_nodup, (),
    (checkUnique_zip_eq_ok_iff ?_).mpr derived.recognizers_nodup,
    _, mapM_checkIdentifier_eq_ok_iff.mpr ⟨rfl, derived.nonterminalKinds_usable⟩, (),
    (checkUnique_zip_eq_ok_iff ?_).mpr derived.nonterminalKinds_nodup,
    _, mapM_checkIdentifier_eq_ok_iff.mpr ⟨?_, derived.productionKinds_usable⟩, (),
    (checkUnique_zip_eq_ok_iff ?_).mpr derived.productionKinds_nodup, (),
    (checkUnique_zip_eq_ok_iff ?_).mpr derived.actions_nodup, rfl⟩
  all_goals simp [namesOf, Function.comp_def]

/-- A table comes out exactly if its names may stand side by side. -/
theorem ofSymbols_eq_ok_iff : ofSymbols symbols = .ok names ↔ names.DerivedFrom symbols :=
  ⟨derivedFrom_of_ofSymbols, ofSymbols_of_derivedFrom⟩

namespace DerivedFrom

theorem length_terminalKinds (derived : names.DerivedFrom symbols) :
    names.terminalKinds.length = symbols.terminals.length := by
  simp [derived.terminalKinds_eq]

theorem length_recognizers (derived : names.DerivedFrom symbols) :
    names.recognizers.length = symbols.terminals.length := by
  simp [derived.recognizers_eq, derived.length_terminalKinds]

theorem length_nonterminalKinds (derived : names.DerivedFrom symbols) :
    names.nonterminalKinds.length = symbols.nonterminals.length := by
  simp [derived.nonterminalKinds_eq]

theorem length_productionKinds (derived : names.DerivedFrom symbols) :
    names.productionKinds.length = symbols.productions.length := by
  simp [derived.productionKinds_eq]

theorem length_actions (derived : names.DerivedFrom symbols) :
    names.actions.length = symbols.productions.length := by
  simp [derived.actions_eq, derived.length_productionKinds]

end DerivedFrom

end NameTable

end ParserFoundry
