import ParserFoundry.Generation.Generate
import ParserFoundry.Proofs.Generation.Stages
import ParserFoundry.Proofs.Parser.Conservation
/-!
# What Files are Generated From

A generation that succeeds has gone through all stages: its files are the texts of the two lists of
items that are made of one blueprint. This is so for every reader of paths and every compiler of
patterns.

Main results:
- `exists_usable_blueprint`: every generated parser is generated from a blueprint.
- `generate_of_blueprint`: a blueprint that can be used is generated.
-/

namespace ParserFoundry

/-- All parts of the blueprint are made for the grammar and the automaton. -/
structure Blueprint.MadeFrom (blueprint : Blueprint) (options : GenerationOptions)
    (grammar : Grammar) (automaton : Automaton) (library : Library) : Prop where
  symbols_eq : SymbolTable.ofGrammar grammar = .ok blueprint.symbols
  names_eq : NameTable.ofSymbols blueprint.symbols = .ok blueprint.names
  matchers_eq : Matcher.ofSymbols blueprint.symbols library.compile = .ok blueprint.matchers
  table_eq :
    ParseTable.encode blueprint.symbols automaton options.errorOnConflicts = .ok blueprint.table
  handlers_eq : blueprint.handlers = .ofSymbols blueprint.symbols
  stem_isName : Code.isName blueprint.typeStem = true

/-- The names and the paths of the blueprint are those that are asked for, and leave both files
without a syntax error. -/
structure Blueprint.UsableFor (blueprint : Blueprint) (options : GenerationOptions)
    (library : Library) : Prop where
  stem_eq : Generation.typeStem options = .ok blueprint.typeStem
  paths_eq : Generation.readPaths options (Naming.snakeCase blueprint.typeStem) library =
    .ok (blueprint.runtime, blueprint.types, blueprint.actions)
  callee_eq : blueprint.callee = library.callee blueprint.actions
  visibility_eq : blueprint.visibility = options.visibility
  parser_sound : Generation.parserFault? blueprint = none
  types_sound : Generation.typesFault? blueprint = none

/-- All that is checked before code is made passes, and comes to the parts of the blueprint. -/
structure Blueprint.PreparedFor (blueprint : Blueprint) (options : GenerationOptions)
    (grammar : Grammar) (automaton : Automaton) (library : Library) : Prop where
  stem_eq : Generation.typeStem options = .ok blueprint.typeStem
  paths_eq : Generation.readPaths options (Naming.snakeCase blueprint.typeStem) library =
    .ok (blueprint.runtime, blueprint.types, blueprint.actions)
  callee_eq : blueprint.callee = library.callee blueprint.actions
  symbols_eq : SymbolTable.ofGrammar grammar = .ok blueprint.symbols
  names_eq : NameTable.ofSymbols blueprint.symbols = .ok blueprint.names
  matchers_eq : Matcher.ofSymbols blueprint.symbols library.compile = .ok blueprint.matchers
  table_eq :
    ParseTable.encode blueprint.symbols automaton options.errorOnConflicts = .ok blueprint.table
  handlers_eq : blueprint.handlers = .ofSymbols blueprint.symbols
  visibility_eq : blueprint.visibility = options.visibility

/-- The parser that is generated from the blueprint. -/
def Blueprint.generated (blueprint : Blueprint) : GeneratedParser :=
  let stem := Naming.snakeCase blueprint.typeStem
  { symbols := blueprint.symbols
    table := blueprint.table
    parser := ⟨stem ++ ".rs", Generation.header ++ Code.fileText (Artifact.parserFile blueprint)⟩
    types :=
      ⟨stem ++ "_types.rs", Generation.header ++ Code.fileText (Artifact.typesFile blueprint)⟩ }

/-- A path whose generic arguments all follow a `::` is called as it stands. -/
theorem Library.callee_eq_path (library : Library) {path : Code.Path} (h : path.isBare = false) :
    library.callee path = .ok (.path path) := by
  rw [callee, if_neg (by simp [h])]

namespace Blueprint.UsableFor

variable {blueprint : Blueprint} {options : GenerationOptions} {library : Library}
variable (usable : blueprint.UsableFor options library)

include usable

theorem called_eq_path (h : blueprint.actions.isBare = false) :
    blueprint.called = .path blueprint.actions := by
  rw [called, usable.callee_eq, library.callee_eq_path h]
  rfl

/-- Where there are actions to be called, they can be. -/
theorem callee_eq_ok (h : blueprint.symbols.productions ≠ []) :
    library.callee blueprint.actions = .ok blueprint.called := by
  -- a path that cannot be called is a fault of the parser file, unless nothing is to be called
  have hfault : Generation.callFault? blueprint = none := by
    have hsound := usable.parser_sound
    simp only [Generation.parserFault?, Option.orElse_eq_orElse, Option.orElse_eq_or,
      Option.or_eq_none_iff, List.isEmpty_iff, h, if_false] at hsound
    exact hsound.2.2
  rw [← usable.callee_eq, called]
  cases hcallee : blueprint.callee with
  | error cause => simp [Generation.callFault?, hcallee] at hfault
  | ok callee => rfl

end Blueprint.UsableFor

namespace Generation

variable {options : GenerationOptions} {grammar : Grammar} {automaton : Automaton}
variable {library : Library} {blueprint : Blueprint}

/-! ## Checks and code -/

/-- The checks of a generation, and the blueprint that they come to. -/
def prepare (options : GenerationOptions) (grammar : Grammar) (automaton : Automaton)
    (library : Library) : Journaled GenerationError Blueprint := do
  let typeStem ← .ofExcept id (typeStem options)
  let stem := Naming.snakeCase typeStem
  let (runtime, types, actions) ← .ofExcept id (readPaths options stem library)
  let symbols ← number grammar
  let names ← deriveNames symbols
  let matchers ← compileMatchers symbols library
  let table ← encode symbols automaton options.errorOnConflicts
  Journaled.note .debug ("Emitting " ++ stem)
  return ⟨symbols, names, matchers, table, .ofSymbols symbols, typeStem, runtime, types, actions,
    library.callee actions, options.visibility⟩

/-- The files of a blueprint, with what they are made from. -/
def emit (blueprint : Blueprint) : Journaled GenerationError GeneratedParser := do
  let (parserFile, typesFile) ← .ofExcept id <|
    renderFiles blueprint (Naming.snakeCase blueprint.typeStem)
  return ⟨blueprint.symbols, blueprint.table, parserFile, typesFile⟩

theorem generate_eq_prepare_bind :
    generate options grammar automaton library =
      prepare options grammar automaton library >>= emit := by
  simp only [generate, prepare, bind_assoc, pure_bind]
  rfl

theorem prepare_returns (h : (prepare options grammar automaton library).Returns blueprint) :
    blueprint.PreparedFor options grammar automaton library := by
  -- stage by stage; the note in front of the code comes to nothing
  obtain ⟨typeStem, htypeStem, h⟩ := h.of_bind
  obtain ⟨⟨runtime, types, actions⟩, hpaths, h⟩ := h.of_bind
  obtain ⟨symbols, hsymbols, h⟩ := h.of_bind
  obtain ⟨names, hnames, h⟩ := h.of_bind
  obtain ⟨matchers, hmatchers, h⟩ := h.of_bind
  obtain ⟨table, htable, h⟩ := h.of_bind
  obtain ⟨-, -, h⟩ := h.of_bind
  obtain rfl := Journaled.eq_of_returns_pure h
  exact {
    stem_eq := Journaled.eq_ok_of_returns_ofExcept htypeStem
    paths_eq := Journaled.eq_ok_of_returns_ofExcept hpaths
    callee_eq := rfl
    symbols_eq := number_returns hsymbols
    names_eq := deriveNames_returns hnames
    matchers_eq := compileMatchers_returns hmatchers
    table_eq := encode_returns htable
    handlers_eq := rfl
    visibility_eq := rfl }

/-- Once all checks have passed, the generation comes to what the files come to. -/
theorem result_of_preparedFor
    (prepared : blueprint.PreparedFor options grammar automaton library) :
    (generate options grammar automaton library).result.1 =
      (renderFiles blueprint (Naming.snakeCase blueprint.typeStem)).map fun files =>
        ⟨blueprint.symbols, blueprint.table, files.1, files.2⟩ := by
  have hblueprint : (⟨blueprint.symbols, blueprint.names, blueprint.matchers, blueprint.table,
      .ofSymbols blueprint.symbols, blueprint.typeStem, blueprint.runtime, blueprint.types,
      blueprint.actions, library.callee blueprint.actions, options.visibility⟩ : Blueprint) =
      blueprint := by
    rw [← prepared.handlers_eq, ← prepared.callee_eq, ← prepared.visibility_eq]
  -- every stage comes to the part of the blueprint that it makes
  simp only [generate, prepared.stem_eq, prepared.paths_eq, pure_bind, bind_assoc, number,
    prepared.symbols_eq, deriveNames, prepared.names_eq, compileMatchers, prepared.matchers_eq,
    encode, prepared.table_eq, hblueprint, Journaled.ofExcept, Journaled.result]
  cases renderFiles blueprint (Naming.snakeCase blueprint.typeStem) with
  | error cause => rfl
  | ok files => rfl

/-! ## Files -/

/-- Files are rendered exactly if the stem of the type names is a name and neither file has a syntax
error. -/
theorem renderFiles_eq_ok_iff {files : GeneratedFile × GeneratedFile} :
    renderFiles blueprint (Naming.snakeCase blueprint.typeStem) = .ok files ↔
      Code.isName blueprint.typeStem = true ∧ parserFault? blueprint = none ∧
        typesFault? blueprint = none ∧
        files = (blueprint.generated.parser, blueprint.generated.types) := by
  -- the faults in the order in which they are looked for
  cases hname : Code.isName blueprint.typeStem with
  | false => simp [renderFiles, hname, throw, throwThe, MonadExceptOf.throw, bind, Except.bind]
  | true =>
    cases hparser : parserFault? blueprint with
    | some cause => simp [renderFiles, hname, hparser, render, bind, Except.bind]
    | none =>
      cases htypes : typesFault? blueprint with
      | some cause => simp [renderFiles, hname, hparser, htypes, render, bind, Except.bind]
      | none =>
        simp [renderFiles, hname, hparser, htypes, render, bind, Except.bind, pure, Except.pure,
          Blueprint.generated, eq_comm]

theorem typeStem_eq {stem : String} (h : typeStem options = .ok stem) :
    stem = Naming.camelCase options.parserName := by
  simp only [typeStem] at h
  split at h
  · cases h
  · split at h
    · cases h
      rfl
    · cases h

/-- Every generated parser is generated from a blueprint that can be used. -/
theorem exists_usable_blueprint {generated : GeneratedParser}
    (h : (generate options grammar automaton library).result.1 = .ok generated) :
    ∃ blueprint : Blueprint, blueprint.MadeFrom options grammar automaton library ∧
      blueprint.UsableFor options library ∧ generated = blueprint.generated := by
  -- behind the blueprint, only the files can still fail
  rw [generate_eq_prepare_bind] at h
  obtain ⟨blueprint, hblueprint, h⟩ := (Journaled.returns_of_result h).of_bind
  obtain ⟨files, hfiles, h⟩ := h.of_bind
  obtain rfl := Journaled.eq_of_returns_pure h
  have prepared := prepare_returns hblueprint
  obtain ⟨hstem, hparser, htypes, rfl⟩ :=
    renderFiles_eq_ok_iff.mp (Journaled.eq_ok_of_returns_ofExcept hfiles)
  have made : blueprint.MadeFrom options grammar automaton library :=
    { prepared with stem_isName := hstem }
  have usable : blueprint.UsableFor options library :=
    { prepared with parser_sound := hparser, types_sound := htypes }
  exact ⟨blueprint, made, usable, rfl⟩

/-- The type names of a generated parser start with the name of the parser. -/
theorem exists_named_blueprint {generated : GeneratedParser}
    (h : (generate options grammar automaton library).result.1 = .ok generated) :
    ∃ blueprint : Blueprint, blueprint.MadeFrom options grammar automaton library ∧
      blueprint.typeStem = Naming.camelCase options.parserName ∧
      generated = blueprint.generated := by
  obtain ⟨blueprint, made, usable, heq⟩ := exists_usable_blueprint h
  exact ⟨blueprint, made, typeStem_eq usable.stem_eq, heq⟩

/-- A blueprint that can be used is generated. -/
theorem generate_of_blueprint (made : blueprint.MadeFrom options grammar automaton library)
    (usable : blueprint.UsableFor options library) :
    (generate options grammar automaton library).result.1 = .ok blueprint.generated := by
  have prepared : blueprint.PreparedFor options grammar automaton library := { made, usable with }
  have hfiles := renderFiles_eq_ok_iff.mpr
    ⟨made.stem_isName, usable.parser_sound, usable.types_sound, rfl⟩
  rw [result_of_preparedFor prepared, hfiles]
  rfl

end Generation

/-! ## The parser of statements -/

namespace Statements

/-- The paths of the library, the types and the actions. -/
@[irreducible]
def paths : Code.Path × Code.Path × Code.Path :=
  (Generation.readPaths {} "grammar").toOption.getD default

def blueprint : Blueprint where
  symbols := symbols
  names := ⟨["EOF", "SemiColon", "Num"],
    ["recognize_eof", "recognize_semi_colon", "recognize_num"], ["Stmts", "Stmt"],
    ["StmtsP0", "StmtsP1", "StmtP0"], ["stmts_p0", "stmts_p1", "stmt_p0"]⟩
  matchers := parser.matchers
  table := parser.table
  handlers := parser.handlers
  typeStem := "Grammar"
  runtime := paths.1
  types := paths.2.1
  actions := paths.2.2
  callee := .ok (.path paths.2.2)
  visibility := .crate

theorem blueprint_madeFrom : blueprint.MadeFrom {} grammar automaton {} where
  symbols_eq := ofGrammar_grammar
  names_eq := by decide +kernel
  matchers_eq := ofSymbols_matchers
  table_eq := rfl
  handlers_eq := rfl
  stem_isName := by decide +kernel

theorem generate_blueprint :
    (Generation.generate {} grammar automaton).result.1 = .ok blueprint.generated := by
  have hpaths : Generation.readPaths {} (Naming.snakeCase blueprint.typeStem) =
      .ok (blueprint.runtime, blueprint.types, blueprint.actions) := by
    -- the paths are read once, and only the names of the parts are compared
    have hstem : Naming.snakeCase blueprint.typeStem = "grammar" := by decide +kernel
    have hok : (Generation.readPaths {} "grammar").isOk = true := by decide +kernel
    have hparts : (blueprint.runtime, blueprint.types, blueprint.actions) = paths :=
      Prod.ext rfl (Prod.ext rfl rfl)
    rw [hstem, eq_ok_of_isOk hok, hparts, paths]
  have hbare : blueprint.actions.isBare = false := by decide +kernel
  exact Generation.generate_of_blueprint blueprint_madeFrom {
    stem_eq := by decide +kernel
    paths_eq := hpaths
    callee_eq := (Library.callee_eq_path {} hbare).symm
    visibility_eq := rfl
    parser_sound := by decide +kernel
    types_sound := by decide +kernel }

end Statements

end ParserFoundry
