import ParserFoundry.Proofs.Generation.Blueprint
import ParserFoundry.Proofs.Table.AccessingSymbols
/-!
# Generating without Accessing Symbols

Nothing but the table itself shows the accessing symbols that an automaton records: the generated
files and the runs of the parser are the same without them.

Main results:
- `parserFile_withoutSymbols`: the items of the parser file.
- `Parser.actsAs_withoutSymbols`: the runs of a parser.
- `generate_withoutSymbols`: a whole generation.
-/

namespace ParserFoundry

variable {erased : StateId → Bool}

/-! ## Tables and parsers -/

theorem ParseTable.stateCount_withoutSymbols (table : ParseTable) (erased : StateId → Bool) :
    (table.withoutSymbols erased).stateCount = table.stateCount := by
  simp [stateCount, withoutSymbols]

/-- The records that are left are those of the states that are not erased. -/
theorem ParseTable.stateSymbol?_withoutSymbols (table : ParseTable) (erased : StateId → Bool)
    (s : StateId) :
    (table.withoutSymbols erased).stateSymbol? s =
      (table.stateSymbol? s).map fun symbol? => if erased s then none else symbol? := by
  simp [stateSymbol?, withoutSymbols]

/-- The parser whose table lacks the accessing symbols of the states that are `erased`. -/
def Parser.withoutSymbols (parser : Parser) (erased : StateId → Bool) : Parser :=
  { parser with table := parser.table.withoutSymbols erased }

/-- No run looks an accessing symbol up. -/
theorem Parser.actsAs_withoutSymbols (parser : Parser) (erased : StateId → Bool) :
    (parser.withoutSymbols erased).ActsAs parser where
  matchers_eq := rfl
  handlers_eq := rfl
  action?_eq _ _ := rfl
  goto?_eq _ _ := rfl
  expected_eq _ := rfl

/-! ## Blueprints -/

/-- The blueprint whose table lacks the accessing symbols of the states that are `erased`. -/
def Blueprint.withoutSymbols (blueprint : Blueprint) (erased : StateId → Bool) : Blueprint :=
  { blueprint with table := blueprint.table.withoutSymbols erased }

namespace Artifact

variable (blueprint : Blueprint) (erased : StateId → Bool)

theorem sizes_withoutSymbols : sizes (blueprint.withoutSymbols erased) = sizes blueprint := by
  -- of the table only the number of states is written
  simp only [sizes, Blueprint.withoutSymbols, ParseTable.stateCount_withoutSymbols]
  rfl

theorem stateRows_withoutSymbols (row : StateId → List Code.Expr) :
    stateRows (blueprint.withoutSymbols erased) row = stateRows blueprint row := by
  simp only [stateRows, ParseTable.stateIds, Blueprint.withoutSymbols,
    ParseTable.stateCount_withoutSymbols]

theorem parserItems_withoutSymbols :
    parserItems (blueprint.withoutSymbols erased) = parserItems blueprint := by
  simp only [parserItems, stateRows_withoutSymbols]
  rfl

theorem lexerItems_withoutSymbols :
    lexerItems (blueprint.withoutSymbols erased) = lexerItems blueprint := by
  simp only [lexerItems, stateRows_withoutSymbols]
  rfl

theorem childPatterns_withoutSymbols (bound : Nat) (shapes : List ChildShape) :
    childPatterns (blueprint.withoutSymbols erased) bound shapes =
      childPatterns blueprint bound shapes := by
  -- the names of kinds are the same, value by value
  induction shapes generalizing bound with
  | nil => rfl
  | cons shape rest ih =>
    simp only [childPatterns, ih]
    rfl

theorem reduceArm_withoutSymbols (handler : ReduceHandler) :
    reduceArm (blueprint.withoutSymbols erased) handler = reduceArm blueprint handler := by
  simp only [reduceArm, childPatterns_withoutSymbols]
  rfl

theorem builderItems_withoutSymbols :
    builderItems (blueprint.withoutSymbols erased) = builderItems blueprint := by
  -- arm by arm, as the arms are made of names and handlers
  have harms : reduceArm (blueprint.withoutSymbols erased) = reduceArm blueprint :=
    funext (reduceArm_withoutSymbols blueprint erased)
  simp only [builderItems, harms]
  rfl

/-- No item of the parser file is made of an accessing symbol. -/
theorem parserFile_withoutSymbols :
    parserFile (blueprint.withoutSymbols erased) = parserFile blueprint := by
  have himports : imports (blueprint.withoutSymbols erased) = imports blueprint := rfl
  rw [parserFile, himports, sizes_withoutSymbols, parserItems_withoutSymbols,
    lexerItems_withoutSymbols, builderItems_withoutSymbols, parserFile]

end Artifact

/-- The files of a blueprint are the same without the accessing symbols. -/
theorem Blueprint.generated_withoutSymbols (blueprint : Blueprint) (erased : StateId → Bool) :
    (blueprint.withoutSymbols erased).generated =
      { blueprint.generated with table := blueprint.table.withoutSymbols erased } := by
  simp only [generated, Artifact.parserFile_withoutSymbols]
  rfl

/-! ## Generation -/

namespace Generation

variable {options : GenerationOptions} {grammar : Grammar} {automaton : Automaton}
variable {library : Library}

/-- The parts of a blueprint are made as before, with a table that lacks the symbols. -/
theorem madeFrom_withoutSymbols {blueprint : Blueprint}
    (made : blueprint.MadeFrom options grammar automaton library) (erased : StateId → Bool) :
    (blueprint.withoutSymbols erased).MadeFrom options grammar
      (automaton.withoutSymbols erased) library where
  symbols_eq := made.symbols_eq
  names_eq := made.names_eq
  matchers_eq := made.matchers_eq
  table_eq := by
    -- an automaton without the symbols passes the checks that it has passed with them
    have hequal := ParseTable.encode_withoutSymbols blueprint.symbols automaton
      options.errorOnConflicts erased
    rw [made.table_eq] at hequal
    exact hequal.eq_ok rfl
  handlers_eq := made.handlers_eq
  stem_isName := made.stem_isName

/-- What makes a blueprint usable does not look at the table. -/
theorem usableFor_withoutSymbols {blueprint : Blueprint}
    (usable : blueprint.UsableFor options library) (erased : StateId → Bool) :
    (blueprint.withoutSymbols erased).UsableFor options library where
  stem_eq := usable.stem_eq
  paths_eq := usable.paths_eq
  callee_eq := usable.callee_eq
  visibility_eq := usable.visibility_eq
  parser_sound := usable.parser_sound
  types_sound := usable.types_sound

/-- The parser that runs on the parts of a blueprint. -/
def parserOf (blueprint : Blueprint) : Parser :=
  ⟨blueprint.table, blueprint.matchers, blueprint.handlers⟩

/-- The parts of a blueprint make a parser. -/
theorem parser_of_madeFrom {blueprint : Blueprint}
    (made : blueprint.MadeFrom options grammar automaton library) :
    (parser grammar automaton options.errorOnConflicts library).result.1 =
      .ok (parserOf blueprint) :=
  result_of_parts made.symbols_eq made.table_eq made.matchers_eq made.handlers_eq

/-- **Accessing symbols are a check.** Where a parser is generated, it is generated as well when the
accessing symbols of any states are erased: with the same files and a table that differs in the
records of these states only, which nothing that is looked up during a run shows. Both automata make
a parser, and the two come to the same end on every input. -/
theorem generate_withoutSymbols {generated : GeneratedParser}
    (h : (generate options grammar automaton library).result.1 = .ok generated)
    (erased : StateId → Bool) :
    ∃ other,
      (generate options grammar (automaton.withoutSymbols erased) library).result.1 = .ok other ∧
      other.symbols = generated.symbols ∧ other.parser = generated.parser ∧
      other.types = generated.types ∧
      (∀ s terminal, other.table.action? s terminal = generated.table.action? s terminal) ∧
      (∀ s nonterminal, other.table.goto? s nonterminal = generated.table.goto? s nonterminal) ∧
      (∀ s, other.table.expected s = generated.table.expected s) ∧
      other.table.maxActions = generated.table.maxActions ∧
      other.table.conflicts? = generated.table.conflicts? ∧
      (∀ s, other.table.stateSymbol? s =
        (generated.table.stateSymbol? s).map fun symbol? => if erased s then none else symbol?) ∧
      ∃ first second, first.table = generated.table ∧ second.table = other.table ∧
        (parser grammar automaton options.errorOnConflicts library).result.1 = .ok first ∧
        (parser grammar (automaton.withoutSymbols erased) options.errorOnConflicts
          library).result.1 = .ok second ∧
        ∀ moves input, second.parse moves input = first.parse moves input := by
  obtain ⟨blueprint, made, usable, rfl⟩ := exists_usable_blueprint h
  -- without the records, the same stages come to the same parts, the table aside
  have made' := madeFrom_withoutSymbols made erased
  have hgenerated := generate_of_blueprint made' (usableFor_withoutSymbols usable erased)
  rw [Blueprint.generated_withoutSymbols] at hgenerated
  refine ⟨_, hgenerated, rfl, rfl, rfl, fun _ _ => rfl, fun _ _ => rfl, fun _ => rfl, rfl, rfl,
    ParseTable.stateSymbol?_withoutSymbols blueprint.table erased, ?_⟩
  exact ⟨parserOf blueprint, (parserOf blueprint).withoutSymbols erased, rfl, rfl,
    parser_of_madeFrom made, parser_of_madeFrom made',
    (Parser.actsAs_withoutSymbols (parserOf blueprint) erased).parse_eq⟩

/-- The parser of statements is generated as well when the state that is entered on numbers does not
say so, and reads the same. -/
theorem generate_withoutSymbols_statements :
    (generate {} Statements.grammar Statements.automaton).result.1 =
        .ok Statements.blueprint.generated ∧
      ∃ other, (generate {} Statements.grammar
            (Statements.automaton.withoutSymbols fun s => s = ⟨2⟩)).result.1 = .ok other ∧
        other.parser = Statements.blueprint.generated.parser ∧
        other.types = Statements.blueprint.generated.types ∧
        other.table.action? ⟨2⟩ ⟨1⟩ = some (.shift ⟨4⟩ ⟨1⟩) ∧
        other.table.stateSymbol? ⟨2⟩ = some none ∧
        other.table.stateSymbol? ⟨3⟩ = some (some "Stmt") := by
  -- the state that is entered on numbers loses its record, and the others keep theirs
  obtain ⟨other, hother, -, hparser, htypes, haction, -, -, -, -, hrecords, -⟩ :=
    generate_withoutSymbols Statements.generate_blueprint fun s => s = ⟨2⟩
  exact ⟨Statements.generate_blueprint, other, hother, hparser, htypes,
    (haction ⟨2⟩ ⟨1⟩).trans rfl, (hrecords ⟨2⟩).trans rfl, (hrecords ⟨3⟩).trans rfl⟩

end Generation

end ParserFoundry
