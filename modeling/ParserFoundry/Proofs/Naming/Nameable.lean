import ParserFoundry.Proofs.Naming.Shapes
import ParserFoundry.Proofs.Numbering.Exactness
import ParserFoundry.Proofs.Parser.Cells
/-!
# Nameable Grammars

Kinds and functions are checked class by class, but not all of the checks can fail. The kind of a
production is that of its nonterminal with the letter `P` and an ordinal, so that it is usable if
that of the nonterminal is, and tells which production it is for. In its action the kind of the
nonterminal is put into lower case, where `AB` and `Ab` are alike; what still tells them apart is the
underscore between a lower-case letter and the `P`.

Main results:
- `Naming.actionName_eq_iff`: which productions have the same action.
- `NameTable.usable_productionKind`: kinds of productions are usable.
- `NameTable.nameable_exactly`: for which grammars there is a table of names.
-/

namespace ParserFoundry

namespace Naming

open NameTable (Usable)

/-! ## Actions -/

/-- Whether a lower-case letter ends the name. -/
def endsLower (name : String) : Bool :=
  name.toList.getLast?.any Unicode.isLower

/-- What snake case puts between a kind and a capital letter behind it. -/
def joint (kind : String) : List Char :=
  if endsLower kind then ['_'] else []

theorem lowerAfter_toList (name : String) : lowerAfter false name.toList = endsLower name := by
  unfold lowerAfter endsLower
  cases name.toList.getLast? <;> rfl

theorem isUpper_eq_false_of_isDigit {c : Char} (h : c.isDigit = true) :
    Unicode.isUpper c = false := by
  have hall : c.isDigit = true → Unicode.isUpper c = false :=
    Unicode.forall_ascii (P := fun c => c.isDigit = true → Unicode.isUpper c = false)
      (by decide +kernel) (toNat_lt_of_isDigit h)
  exact hall h

/-- Digits have no case. -/
theorem snakeFrom_of_isDigit {chars : List Char} (h : ∀ c ∈ chars, c.isDigit = true)
    (afterLower : Bool) : snakeFrom afterLower chars = chars :=
  snakeFrom_eq_self (fun c hc => ⟨isUpper_eq_false_of_isDigit (h c hc), toLower_of_isDigit (h c hc)⟩)
    afterLower

/-- An action is the kind of its nonterminal in snake case, and then a letter and the ordinal. -/
theorem toList_actionName (name : String) (ordinal : Nat) :
    (actionName (productionKind name ordinal)).toList =
      (snakeCase (nonterminalKind name)).toList ++ joint (nonterminalKind name) ++
        'p' :: (toString ordinal).toList := by
  have hkind : (productionKind name ordinal).toList =
      (nonterminalKind name).toList ++ 'P' :: (toString ordinal).toList := by
    simp [productionKind, nonterminalKind]
  have hdigits : ∀ c ∈ (toString ordinal).toList, c.isDigit = true :=
    fun c hc => isDigit_of_mem_toString hc
  -- the letter is the only capital among what stands behind the kind
  have hletter : Unicode.isUpper 'P' = true ∧ Unicode.toLower 'P' = ['p'] := by decide
  simp only [actionName, snakeCase, String.toList_ofList, snakeChars, hkind, snakeFrom_append,
    lowerAfter_toList, snakeFrom, hletter, snakeFrom_of_isDigit hdigits, joint, Bool.true_and,
    List.append_assoc, List.singleton_append]

/-- A kind in snake case does not end with an underscore. -/
theorem getLast?_snakeCase_ne {kind : String} (h : isKindName kind = true) :
    (snakeCase kind).toList.getLast? ≠ some '_' := by
  obtain ⟨c, tail, hkind, hupper, htail⟩ := isKindName_iff.mp h
  have halphanum : ∀ d ∈ c :: tail, d.isAlphanum = true := by
    refine List.forall_mem_cons.mpr ⟨?_, htail⟩
    simp [Char.isAlphanum, Char.isAlpha, hupper]
  have hsplit : (c :: tail).dropLast ++ [(c :: tail).getLast (List.cons_ne_nil c tail)] = c :: tail :=
    List.dropLast_append_getLast (List.cons_ne_nil c tail)
  generalize (c :: tail).getLast (List.cons_ne_nil c tail) = last at hsplit
  have hlast : last.isAlphanum = true := halphanum last (hsplit ▸ List.mem_concat_self)
  have hascii := Code.toNat_lt_of_isIdentifierChar (isIdentifierChar_of_isAlphanum hlast)
  -- the last character stays one character, and no letter or digit becomes an underscore
  have hlower : last.isAlphanum = true → last.toLower ≠ '_' :=
    Unicode.forall_ascii (P := fun c => c.isAlphanum = true → c.toLower ≠ '_') (by decide +kernel)
      hascii
  obtain ⟨front, hfront⟩ := snakeFrom_concat false (c :: tail).dropLast last
  rw [hsplit, Unicode.toLower_ascii hascii] at hfront
  rw [snakeCase, String.toList_ofList, snakeChars, hkind, hfront, List.getLast?_concat]
  exact fun heq => hlower hlast (Option.some.inj heq)

/-- A name that does not end with an underscore is told from the joint behind it. -/
theorem append_joint_inj {first second : List Char} {kind other : String}
    (hfirst : first.getLast? ≠ some '_') (hsecond : second.getLast? ≠ some '_')
    (h : first ++ joint kind = second ++ joint other) :
    first = second ∧ endsLower kind = endsLower other := by
  unfold joint at h
  cases hkind : endsLower kind <;> cases hother : endsLower other <;>
    simp only [hkind, hother, Bool.false_eq_true, if_true, if_false, List.append_nil] at h
  · exact ⟨h, rfl⟩
  · exact absurd (h ▸ List.getLast?_concat) hfirst
  · exact absurd (h ▸ List.getLast?_concat) hsecond
  · exact ⟨List.append_cancel_right h, rfl⟩

/-- Two productions have the same action exactly if their ordinals are the same, and the kinds of
their nonterminals are the same in lower case and end alike. -/
theorem actionName_eq_iff {first second : String} (hfirst : Usable (nonterminalKind first))
    (hsecond : Usable (nonterminalKind second)) {i j : Nat} :
    actionName (productionKind first i) = actionName (productionKind second j) ↔
      (snakeCase (nonterminalKind first) = snakeCase (nonterminalKind second) ∧
        endsLower (nonterminalKind first) = endsLower (nonterminalKind second)) ∧ i = j := by
  rw [← String.toList_inj, toList_actionName, toList_actionName]
  constructor
  · intro h
    obtain ⟨hkinds, hordinals⟩ := append_cons_number_inj (by decide) h
    obtain ⟨hsnake, hends⟩ :=
      append_joint_inj (getLast?_snakeCase_ne (isKindName_camelCase hfirst))
        (getLast?_snakeCase_ne (isKindName_camelCase hsecond)) hkinds
    exact ⟨⟨String.toList_inj.mp hsnake, hends⟩, hordinals⟩
  · rintro ⟨⟨hsnake, hends⟩, rfl⟩
    rw [hsnake, joint, joint, hends]

end Naming

/-! ## Productions of a numbered grammar -/

namespace SymbolTable

variable {symbols : SymbolTable}

/-- No two productions of a nonterminal have the same ordinal. -/
theorem production_unique (hsymbols : symbols.WellFormed) {i j : ProductionId}
    {first second : NumberedProduction} (hfirst : symbols.production? i = some first)
    (hsecond : symbols.production? j = some second)
    (howner : first.nonterminal = second.nonterminal) (hordinal : first.ordinal = second.ordinal) :
    i = j := by
  obtain ⟨name, hname⟩ := exists_nonterminalName (hsymbols.numbers_nonterminal hfirst)
  -- one reference describes both productions
  have hi : symbols.IsProduction ⟨name, first.ordinal⟩ i := ⟨first, hfirst, hname, rfl⟩
  have hj : symbols.IsProduction ⟨name, first.ordinal⟩ j :=
    ⟨second, hsecond, howner ▸ hname, hordinal.symm⟩
  have hfound := (productionRef?_eq_some_iff hsymbols).mpr hi
  rw [(productionRef?_eq_some_iff hsymbols).mpr hj] at hfound
  exact (Option.some.inj hfound).symm

/-- What tells nonterminals and ordinals apart tells all productions apart. -/
theorem nodup_map_productions (hsymbols : symbols.WellFormed) {f : NumberedProduction → String}
    (hf : ∀ first ∈ symbols.productions, ∀ second ∈ symbols.productions, f first = f second →
      first.nonterminal = second.nonterminal ∧ first.ordinal = second.ordinal) :
    (symbols.productions.map f).Nodup := by
  refine List.pairwise_map.mpr (List.pairwise_iff_getElem.mpr fun i j hi hj hlt hsame => ?_)
  obtain ⟨howner, hordinal⟩ := hf _ (List.getElem_mem hi) _ (List.getElem_mem hj) hsame
  have hfirst : symbols.production? ⟨i⟩ = some symbols.productions[i] := List.getElem?_eq_getElem hi
  have hsecond : symbols.production? ⟨j⟩ = some symbols.productions[j] := List.getElem?_eq_getElem hj
  have hequal := production_unique hsymbols hfirst hsecond howner hordinal
  exact absurd (congrArg ProductionId.index hequal) (Nat.ne_of_lt hlt)

/-- A nonterminal with productions has one with the ordinal zero. -/
theorem exists_first_production (hsymbols : symbols.WellFormed) {id : NonterminalId}
    (h : symbols.productionsOf id ≠ []) :
    ∃ production entry, symbols.production? production = some entry ∧ entry.nonterminal = id ∧
      entry.ordinal = 0 := by
  obtain ⟨production, others, hown⟩ := List.exists_cons_of_ne_nil h
  have hhead : (symbols.productionsOf id)[0]? = some production := by rw [hown]; rfl
  obtain ⟨entry, hentry, howner⟩ := mem_productionsOf_iff.mp (List.mem_of_getElem? hhead)
  exact ⟨production, entry, hentry, howner, ordinal_of_productionsOf hsymbols hhead hentry⟩

/-- The nonterminal that a production belongs to. -/
def ownerName (symbols : SymbolTable) (entry : NumberedProduction) : String :=
  (symbols.nonterminalName? entry.nonterminal).getD ""

theorem nonterminalName?_ownerName (hsymbols : symbols.WellFormed) {entry : NumberedProduction}
    (hentry : entry ∈ symbols.productions) :
    symbols.nonterminalName? entry.nonterminal = some (symbols.ownerName entry) := by
  obtain ⟨name, hname⟩ := exists_nonterminalName (hsymbols.nonterminal_lt entry hentry)
  rw [ownerName, hname, Option.getD_some]

theorem ownerName_mem (hsymbols : symbols.WellFormed) {entry : NumberedProduction}
    (hentry : entry ∈ symbols.productions) : symbols.ownerName entry ∈ symbols.nonterminals :=
  List.mem_of_getElem? (nonterminalName?_ownerName hsymbols hentry)

/-- If the kinds of nonterminals are all different, a kind belongs to one of them only. -/
theorem eq_of_nonterminalKind_eq (hkinds : (symbols.nonterminals.map Naming.nonterminalKind).Nodup)
    {i j : NonterminalId} {first second : String} (hfirst : symbols.nonterminalName? i = some first)
    (hsecond : symbols.nonterminalName? j = some second)
    (hsame : Naming.nonterminalKind first = Naming.nonterminalKind second) : i = j := by
  have hget : symbols.nonterminals[i.index]? = some first := hfirst
  have hget' : symbols.nonterminals[j.index]? = some second := hsecond
  have hlt := (List.getElem?_eq_some_iff.mp hget).1
  have hplaces : i.index = j.index := by
    refine (List.getElem?_inj (by rwa [List.length_map]) hkinds).mp ?_
    rw [List.getElem?_map, List.getElem?_map, hget, hget', Option.map_some, Option.map_some, hsame]
  cases i
  cases j
  exact congrArg NonterminalId.mk hplaces

end SymbolTable

namespace NameTable

open SymbolTable (ownerName)

variable {symbols : SymbolTable} {names : NameTable}

/-! ## Kinds of productions -/

/-- No reserved word ends with a number. -/
theorem not_mem_reserved_of_number (front : String) (number : Nat) :
    front ++ toString number ∉ reserved := by
  have hall : ∀ word ∈ reserved, word.toList.getLast?.any Char.isDigit = false := by decide
  -- a number ends with a digit, and no reserved word does
  obtain ⟨digits, last, hdigits, hlast⟩ := Naming.toString_eq_concat number
  intro hmem
  have hnone := hall _ hmem
  rw [String.toList_append, hdigits, ← List.append_assoc, List.getLast?_concat, Option.any_some,
    hlast] at hnone
  cases hnone

theorem isIdentifier_append {chars more : List Char} (h : isIdentifier chars = true)
    (hmore : ∀ c ∈ more, (c.isAlphanum || c == '_') = true) :
    isIdentifier (chars ++ more) = true := by
  cases chars with
  | nil => cases h
  | cons c rest =>
    obtain ⟨hc, hrest⟩ := Bool.and_eq_true_iff.mp h
    rw [List.cons_append, isIdentifier, hc, List.all_append, hrest, Bool.true_and, Bool.true_and]
    exact List.all_eq_true.mpr hmore

/-- Where the kind of a nonterminal is usable, so are those of its productions. -/
theorem usable_productionKind {name : String} (h : Usable (Naming.nonterminalKind name))
    (ordinal : Nat) : Usable (Naming.productionKind name ordinal) := by
  refine ⟨?_, not_mem_reserved_of_number _ ordinal⟩
  rw [Naming.productionKind, String.append_assoc, String.toList_append]
  refine isIdentifier_append h.1 fun c hc => ?_
  rw [String.toList_append] at hc
  -- behind the kind stand a letter and digits, which may stand anywhere but at the start
  rcases List.mem_append.mp hc with hletter | hdigit
  · obtain rfl : c = 'P' := List.mem_singleton.mp hletter
    rfl
  · simp [Char.isAlphanum, Naming.isDigit_of_mem_toString hdigit]

/-- The kind of an entry among the productions. -/
def productionKindOf (symbols : SymbolTable) (entry : NumberedProduction) : String :=
  Naming.productionKind (symbols.ownerName entry) entry.ordinal

theorem nodup_productionKinds (hsymbols : symbols.WellFormed)
    (hkinds : (symbols.nonterminals.map Naming.nonterminalKind).Nodup) :
    (symbols.productions.map (productionKindOf symbols)).Nodup := by
  refine SymbolTable.nodup_map_productions hsymbols fun first hfirst second hsecond hsame => ?_
  -- the kind of a production tells both the kind of its nonterminal and its ordinal
  obtain ⟨hkind, hordinal⟩ := Naming.append_letter_number_inj hsame
  exact ⟨SymbolTable.eq_of_nonterminalKind_eq hkinds
    (SymbolTable.nonterminalName?_ownerName hsymbols hfirst)
    (SymbolTable.nonterminalName?_ownerName hsymbols hsecond) hkind, hordinal⟩

theorem actions_namesOf (symbols : SymbolTable) :
    (namesOf symbols).actions = symbols.productions.map fun entry =>
      Naming.actionName (productionKindOf symbols entry) :=
  List.map_map

theorem recognizers_namesOf (symbols : SymbolTable) :
    (namesOf symbols).recognizers = (symbols.terminals.map fun terminal =>
      Naming.snakeCase (Naming.terminalKind terminal.name)).map fun name => "recognize_" ++ name := by
  simp [namesOf, Naming.recognizerName, Function.comp_def]

/-- What can be said of the productions once the kinds of the nonterminals have passed: all checks
of their kinds pass, and actions are the same at the same ordinal only. -/
structure ProductionsPass (symbols : SymbolTable) : Prop where
  checkIdentifier_eq : ∀ entry ∈ symbols.productions, ∀ source,
    checkIdentifier source (productionKindOf symbols entry) = .ok (productionKindOf symbols entry)
  checkUnique_eq : ∀ sources : List String, sources.length = symbols.productions.length →
    checkUnique [] ((symbols.productions.map (productionKindOf symbols)).zip sources) = .ok ()
  ordinal_eq : ∀ first ∈ symbols.productions, ∀ second ∈ symbols.productions,
    Naming.actionName (productionKindOf symbols first) =
      Naming.actionName (productionKindOf symbols second) → first.ordinal = second.ordinal

theorem productionsPass (hsymbols : symbols.WellFormed)
    (husable : ∀ name ∈ symbols.nonterminals, Usable (Naming.nonterminalKind name))
    (hkinds : (symbols.nonterminals.map Naming.nonterminalKind).Nodup) :
    ProductionsPass symbols where
  checkIdentifier_eq entry hentry source :=
    checkIdentifier_eq_ok_iff.mpr ⟨usable_productionKind
      (husable _ (SymbolTable.ownerName_mem hsymbols hentry)) entry.ordinal, rfl⟩
  checkUnique_eq sources hsources :=
    (checkUnique_zip_eq_ok_iff (by rw [List.length_map, hsources])).mpr
      (nodup_productionKinds hsymbols hkinds)
  ordinal_eq first hfirst second hsecond hsame :=
    ((Naming.actionName_eq_iff (husable _ (SymbolTable.ownerName_mem hsymbols hfirst))
      (husable _ (SymbolTable.ownerName_mem hsymbols hsecond))).mp hsame).2

/-! ## Nameable grammars -/

/-- What a table of names asks of a numbered grammar. -/
structure Nameable (symbols : SymbolTable) : Prop where
  terminalKinds_usable : ∀ terminal ∈ symbols.terminals, Usable (Naming.terminalKind terminal.name)
  nonterminalKinds_usable : ∀ name ∈ symbols.nonterminals, Usable (Naming.nonterminalKind name)
  /-- The kinds of terminals are different in snake case. -/
  terminals_differ : (symbols.terminals.map fun terminal =>
    Naming.snakeCase (Naming.terminalKind terminal.name)).Nodup
  nonterminals_differ : (symbols.nonterminals.map Naming.nonterminalKind).Nodup
  /-- The kinds of nonterminals with productions are different in snake case, unless just one of them
  ends with a lower-case letter. -/
  actions_differ : ∀ i j first second, i ≠ j →
    symbols.nonterminalName? i = some first → symbols.nonterminalName? j = some second →
    symbols.productionsOf i ≠ [] → symbols.productionsOf j ≠ [] →
    ¬ (Naming.snakeCase (Naming.nonterminalKind first) =
        Naming.snakeCase (Naming.nonterminalKind second) ∧
      Naming.endsLower (Naming.nonterminalKind first) =
        Naming.endsLower (Naming.nonterminalKind second))

theorem Nameable.nodup_actions (hsymbols : symbols.WellFormed) (h : Nameable symbols) :
    (symbols.productions.map fun entry =>
      Naming.actionName (productionKindOf symbols entry)).Nodup := by
  have hexists : ∀ entry ∈ symbols.productions, symbols.productionsOf entry.nonterminal ≠ [] := by
    intro entry hentry
    obtain ⟨i, hi⟩ := List.getElem?_of_mem hentry
    have hmem : ⟨i⟩ ∈ symbols.productionsOf entry.nonterminal :=
      SymbolTable.mem_productionsOf_iff.mpr ⟨entry, hi, rfl⟩
    exact List.ne_nil_of_mem hmem
  refine SymbolTable.nodup_map_productions hsymbols fun first hfirst second hsecond hsame => ?_
  -- two productions with one action have one ordinal, and their nonterminals have kinds alike
  obtain ⟨halike, hordinal⟩ := (Naming.actionName_eq_iff
    (h.nonterminalKinds_usable _ (SymbolTable.ownerName_mem hsymbols hfirst))
    (h.nonterminalKinds_usable _ (SymbolTable.ownerName_mem hsymbols hsecond))).mp hsame
  refine ⟨?_, hordinal⟩
  by_contra hne
  exact h.actions_differ _ _ _ _ hne (SymbolTable.nonterminalName?_ownerName hsymbols hfirst)
    (SymbolTable.nonterminalName?_ownerName hsymbols hsecond) (hexists first hfirst)
    (hexists second hsecond) halike

/-- The names of a nameable grammar may stand side by side. -/
theorem Nameable.derivedFrom (hsymbols : symbols.WellFormed) (h : Nameable symbols) :
    (namesOf symbols).DerivedFrom symbols := by
  have hpass := productionsPass hsymbols h.nonterminalKinds_usable h.nonterminals_differ
  constructor
  case terminalKinds_eq => rfl
  case recognizers_eq => rfl
  case nonterminalKinds_eq => rfl
  case productionKinds_eq => rfl
  case actions_eq => rfl
  case terminalKinds_usable => exact List.forall_mem_map.mpr h.terminalKinds_usable
  case nonterminalKinds_usable => exact List.forall_mem_map.mpr h.nonterminalKinds_usable
  case productionKinds_usable =>
    refine List.forall_mem_map.mpr fun entry hentry => ?_
    exact (checkIdentifier_eq_ok_iff.mp (hpass.checkIdentifier_eq entry hentry "")).1
  -- recognizers are named after kinds in snake case, so kinds differ if these names do
  case terminalKinds_nodup =>
    apply List.Nodup.of_map Naming.snakeCase
    rw [namesOf, List.map_map]
    exact h.terminals_differ
  case recognizers_nodup =>
    rw [recognizers_namesOf]
    exact h.terminals_differ.map fun first second => (String.append_right_inj _).mp
  case nonterminalKinds_nodup => exact h.nonterminals_differ
  case productionKinds_nodup => exact nodup_productionKinds hsymbols h.nonterminals_differ
  case actions_nodup =>
    rw [actions_namesOf]
    exact h.nodup_actions hsymbols

/-- A grammar whose names may stand side by side is nameable. -/
theorem nameable_of_derivedFrom (hsymbols : symbols.WellFormed)
    (derived : names.DerivedFrom symbols) : Nameable symbols := by
  obtain rfl := derived.eq_namesOf
  have hkinds := List.forall_mem_map.mp derived.nonterminalKinds_usable
  constructor
  case terminalKinds_usable => exact List.forall_mem_map.mp derived.terminalKinds_usable
  case nonterminalKinds_usable => exact hkinds
  case terminals_differ =>
    have hnodup := derived.recognizers_nodup
    rw [recognizers_namesOf] at hnodup
    exact hnodup.of_map _
  case nonterminals_differ => exact derived.nonterminalKinds_nodup
  case actions_differ =>
    rintro i j first second hne hfirst hsecond hi hj halike
    -- both nonterminals have a production with the ordinal zero, and these would have one action
    obtain ⟨production, entry, hentry, rfl, hordinal⟩ :=
      SymbolTable.exists_first_production hsymbols hi
    obtain ⟨other, another, hanother, rfl, hordinal'⟩ :=
      SymbolTable.exists_first_production hsymbols hj
    have howner : symbols.ownerName entry = first := by rw [ownerName, hfirst, Option.getD_some]
    have howner' : symbols.ownerName another = second := by rw [ownerName, hsecond, Option.getD_some]
    have hactions : Naming.actionName (productionKindOf symbols entry) =
        Naming.actionName (productionKindOf symbols another) := by
      rw [productionKindOf, productionKindOf, howner, howner', hordinal, hordinal']
      exact (Naming.actionName_eq_iff (hkinds _ (List.mem_of_getElem? hfirst))
        (hkinds _ (List.mem_of_getElem? hsecond))).mpr ⟨halike, rfl⟩
    have hnodup := derived.actions_nodup
    rw [actions_namesOf] at hnodup
    have hsame := List.inj_on_of_nodup_map hnodup (List.mem_of_getElem? hentry)
      (List.mem_of_getElem? hanother) hactions
    exact hne (congrArg NumberedProduction.nonterminal hsame)

/-- **Which grammars can be named**: a numbered grammar has a table of names exactly if it is
nameable. Once the kinds of its nonterminals have passed, no check of the kinds of its productions
can fail, and actions are the same at the same ordinal only. -/
theorem nameable_exactly {grammar : Grammar}
    (hsymbols : SymbolTable.ofGrammar grammar = .ok symbols) :
    ((∃ names, ofSymbols symbols = .ok names) ↔ Nameable symbols) ∧
      ((∀ name ∈ symbols.nonterminals, Usable (Naming.nonterminalKind name)) →
        (symbols.nonterminals.map Naming.nonterminalKind).Nodup → ProductionsPass symbols) := by
  have hwellFormed := SymbolTable.wellFormed_of_ofGrammar hsymbols
  refine ⟨⟨?_, ?_⟩, productionsPass hwellFormed⟩
  · rintro ⟨names, hnames⟩
    exact nameable_of_derivedFrom hwellFormed (ofSymbols_eq_ok_iff.mp hnames)
  · intro h
    exact ⟨_, ofSymbols_eq_ok_iff.mpr (h.derivedFrom hwellFormed)⟩

/-- Nonterminals whose kinds are alike in lower case: `AB` and `Ab`, and `ABc` and `Abc`, the last of
which has the given productions. -/
def alikeGrammar (productions : List Production) : Grammar where
  terminals := [⟨";", .literal ";"⟩, ⟨"while", .literal "while"⟩]
  nonterminals := [
    ⟨"AB", [⟨[]⟩, ⟨[.terminal ";"]⟩]⟩,
    ⟨"Ab", [⟨[]⟩]⟩,
    ⟨"ABc", [⟨[]⟩]⟩,
    ⟨"abc", productions⟩]
  augmentedStart? := none

def alikeSymbols (last : List NumberedProduction) : SymbolTable where
  terminals := (alikeGrammar []).terminals
  nonterminals := ["AB", "Ab", "ABc", "abc"]
  productions := [⟨⟨0⟩, 0, []⟩, ⟨⟨0⟩, 1, [.terminal ⟨0⟩]⟩, ⟨⟨1⟩, 0, []⟩, ⟨⟨2⟩, 0, []⟩] ++ last
  augmentedStart? := none

/-- The two that end differently have different actions. The other two can be told apart only as long
as one of them has no productions. -/
theorem nameable_exactly_alike :
    (SymbolTable.ofGrammar (alikeGrammar []) = .ok (alikeSymbols []) ∧
      Nameable (alikeSymbols []) ∧ ProductionsPass (alikeSymbols [])) ∧
    SymbolTable.ofGrammar (alikeGrammar [⟨[]⟩]) = .ok (alikeSymbols [⟨⟨3⟩, 0, []⟩]) ∧
      ¬ Nameable (alikeSymbols [⟨⟨3⟩, 0, []⟩]) ∧
      ofSymbols (alikeSymbols [⟨⟨3⟩, 0, []⟩]) =
        .error (.duplicateIdentifier "abc_p0" "ABcP0" "abcP0") := by
  have hapart : SymbolTable.ofGrammar (alikeGrammar []) = .ok (alikeSymbols []) := rfl
  have hclash : SymbolTable.ofGrammar (alikeGrammar [⟨[]⟩]) = .ok (alikeSymbols [⟨⟨3⟩, 0, []⟩]) := rfl
  have hnames : ∃ names, ofSymbols (alikeSymbols []) = .ok names :=
    ⟨namesOf (alikeSymbols []), by decide +kernel⟩
  have herror : ofSymbols (alikeSymbols [⟨⟨3⟩, 0, []⟩]) =
      .error (.duplicateIdentifier "abc_p0" "ABcP0" "abcP0") := by decide +kernel
  have hnameable := (nameable_exactly hapart).1.mp hnames
  refine ⟨⟨hapart, hnameable, ?_⟩, hclash, fun h => ?_, herror⟩
  · exact (nameable_exactly hapart).2 hnameable.nonterminalKinds_usable hnameable.nonterminals_differ
  · obtain ⟨names, hok⟩ := (nameable_exactly hclash).1.mpr h
    rw [herror] at hok
    cases hok

end NameTable

end ParserFoundry
