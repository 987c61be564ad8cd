import ParserFoundry.Proofs.Artifact.Payloads
import ParserFoundry.Proofs.Naming.Shapes
/-!
# Names that Files Define

The parser file imports a fixed list of names and defines five types, whose names are the stem of
the type names with five endings. Some of the imported names have one of these endings as well, so
that two stems make a generated type and an import share a name.

Main results:
- `disjoint_typeNames_iff`: exactly those stems do.
- `nodup_valueNames`, `nodup_variantNames`: all other names are defined once.
- `generate_defines`: what this says about generated parsers.
- `Statements.lexer_clashes`: a generated parser whose lexer has the name of an import.
-/

namespace ParserFoundry

namespace Artifact

open Code
open Parts (typeNames valueNames importedNames variantNames)

variable {blueprint : Blueprint}

/-! ## Types -/

/-- What the names of the generated types end with. -/
def typeEndings : List String :=
  ["ParserDefinition", "Parser", "LexerDefinition", "Lexer", "Builder"]

theorem typeNames_parserFile (blueprint : Blueprint) :
    typeNames (parserFile blueprint) = typeEndings.map blueprint.typeName := by
  have himports : typeNames (imports blueprint) = [] := by
    rw [imports]
    split <;> rfl
  rw [parserFile, lexerItems, ← recognizerFunctions]
  simp only [typeNames, List.filterMap_append] at himports ⊢
  rw [himports, filterMap_recognizerFunctions _ fun _ => rfl]
  rfl

/-- The names that the file imports; those for patterns are not always needed. -/
def neededNames (hasPatterns : Bool) : List String :=
  ["PhantomData"] ++ (if hasPatterns then ["Regex", "LazyLock"] else []) ++
    ["Builder", "TerminalInfo", "TerminalInfos", "TerminalsState", "NonTermIndex", "ProdIndex",
      "StateIndex", "TermIndex", "DefaultLexer", "Lexer", "LexerDefinition", "RecognizerIterator",
      "Token", "Action", "LRParser", "ParserDefinition", "Context", "Parser", "NonTerminal",
      "ProdKind", "Symbol", "TermKind", "Terminal"]

theorem importedNames_parserFile (blueprint : Blueprint) :
    importedNames (parserFile blueprint) = neededNames blueprint.hasPatterns := by
  -- functions import nothing, so all names come from the imports in front
  have hfunctions : importedNames (recognizerFunctions blueprint) = [] := by
    refine List.flatMap_eq_nil_iff.mpr fun item hitem => ?_
    obtain ⟨name, -, matcher, rfl⟩ := mem_recognizerFunctions hitem
    obtain ⟨definition, hdefinition, -⟩ := exists_recognizerFunction name matcher
    rw [hdefinition]
  have himports : importedNames (imports blueprint) = neededNames blueprint.hasPatterns := by
    rw [imports]
    cases blueprint.hasPatterns <;> rfl
  rw [parserFile, lexerItems, ← recognizerFunctions]
  simp only [importedNames, List.flatMap_append] at hfunctions himports ⊢
  rw [hfunctions, himports]
  change _ ++ [] ++ [] ++ ([] ++ [] ++ []) ++ [] = _
  simp only [List.append_nil]

/-- What is left of a name in front of an ending. -/
def stem? (ending name : String) : Option String :=
  if ending.toList.isSuffixOf name.toList then
    some (String.ofList (name.toList.take (name.toList.length - ending.toList.length)))
  else none

theorem stem?_eq_some_iff {ending name stem : String} :
    stem? ending name = some stem ↔ stem ++ ending = name := by
  unfold stem?
  constructor
  · intro h
    split at h
    case isTrue hsuffix =>
      -- the front is what is taken
      obtain ⟨front, hfront⟩ := List.isSuffixOf_iff_suffix.mp hsuffix
      rw [← hfront] at h
      obtain rfl : String.ofList front = stem := by simpa using h
      rw [← String.toList_inj, String.toList_append, String.toList_ofList, hfront]
    case isFalse => cases h
  · rintro rfl
    have hsuffix : ending.toList.isSuffixOf (stem ++ ending).toList = true := by
      rw [String.toList_append]
      exact List.isSuffixOf_iff_suffix.mpr (List.suffix_append _ _)
    rw [if_pos hsuffix]
    simp

/-- The stems that give an imported name to a type. -/
def clashingStems (imported : List String) : List String :=
  typeEndings.flatMap fun ending => imported.filterMap (stem? ending)

theorem exists_mem_iff_mem_clashingStems {imported : List String} :
    (∃ ending ∈ typeEndings, blueprint.typeName ending ∈ imported) ↔
      blueprint.typeStem ∈ clashingStems imported := by
  simp only [clashingStems, List.mem_flatMap, List.mem_filterMap, stem?_eq_some_iff]
  constructor
  · rintro ⟨ending, hending, hmem⟩
    exact ⟨ending, hending, _, hmem, rfl⟩
  · rintro ⟨ending, hending, _, hmem, rfl⟩
    exact ⟨ending, hending, hmem⟩

/-- A generated type has the name of an import exactly if the stem of the type names is one of
three. -/
theorem disjoint_typeNames_iff :
    (typeNames (parserFile blueprint)).Disjoint (importedNames (parserFile blueprint)) ↔
      blueprint.typeStem ∉ ["", "LR", "Default"] := by
  -- an ending that is imported as it stands gives the empty stem
  have hclashing : clashingStems (neededNames blueprint.hasPatterns) =
      ["", "LR", "", "", "Default", "", ""] := by
    cases blueprint.hasPatterns <;> rfl
  have hstems : blueprint.typeStem ∈ clashingStems (neededNames blueprint.hasPatterns) ↔
      blueprint.typeStem ∈ ["", "LR", "Default"] := by
    rw [hclashing]
    simp only [List.mem_cons, List.not_mem_nil, or_false]
    tauto
  rw [typeNames_parserFile, importedNames_parserFile, ← hstems, ← exists_mem_iff_mem_clashingStems]
  simp only [List.Disjoint, List.forall_mem_map, not_exists, not_and]

theorem nodup_typeNames (blueprint : Blueprint) : (typeNames (parserFile blueprint)).Nodup := by
  rw [typeNames_parserFile]
  refine List.Nodup.map (fun ending other heq => ?_) (by decide)
  exact (String.append_right_inj blueprint.typeStem).mp heq

theorem nodup_importedNames (blueprint : Blueprint) :
    (importedNames (parserFile blueprint)).Nodup := by
  rw [importedNames_parserFile]
  cases blueprint.hasPatterns <;> decide

/-! ## Values -/

/-- The names of the constants and static values of the file. -/
def tableNames : List String :=
  ["TERMINAL_NO", "NONTERMINAL_NO", "STATE_NO", "MAX_ACTIONS", "PARSER_DEFINITION",
    "LEXER_DEFINITION"]

theorem valueNames_recognizerFunctions
    (hlength : blueprint.names.recognizers.length ≤ blueprint.matchers.length) :
    valueNames (recognizerFunctions blueprint) = blueprint.names.recognizers := by
  calc valueNames (recognizerFunctions blueprint)
      = (blueprint.names.recognizers.zip blueprint.matchers).filterMap (some ∘ Prod.fst) := by
        rw [valueNames, recognizerFunctions, List.filterMap_map]
        refine List.filterMap_congr fun entry _ => ?_
        obtain ⟨definition, hdefinition, hname, -⟩ := exists_recognizerFunction entry.1 entry.2
        dsimp only [Function.comp_apply]
        rw [hdefinition]
        exact congrArg some hname
    _ = blueprint.names.recognizers := by
        rw [List.filterMap_eq_map, List.map_fst_zip hlength]

theorem valueNames_parserFile
    (hlength : blueprint.names.recognizers.length ≤ blueprint.matchers.length) :
    valueNames (parserFile blueprint) = tableNames ++ blueprint.names.recognizers := by
  have himports : valueNames (imports blueprint) = [] := by
    rw [imports]
    split <;> rfl
  have hfunctions := valueNames_recognizerFunctions hlength
  rw [parserFile, lexerItems, ← recognizerFunctions]
  simp only [valueNames, List.filterMap_append] at himports hfunctions ⊢
  rw [himports, hfunctions]
  change [] ++ [_, _, _, _] ++ [_] ++ ([_] ++ blueprint.names.recognizers ++ []) ++ [] = _
  simp [tableNames]

section Made

variable {options : GenerationOptions} {grammar : Grammar} {automaton : Automaton}
  {library : Library} (made : blueprint.MadeFrom options grammar automaton library)

include made

/-- Constants, static values and functions all have different names. -/
theorem nodup_valueNames : (valueNames (parserFile blueprint)).Nodup := by
  have derived := derivedFrom made
  have hlength : blueprint.names.recognizers.length = blueprint.matchers.length := by
    rw [derived.length_recognizers, (forall₂_of_mapM_eq_ok made.matchers_eq).length_eq]
  -- names of functions start with a prefix that no table has
  have hdisjoint : tableNames.Disjoint blueprint.names.recognizers := by
    rw [derived.recognizers_eq]
    intro name htable hname
    obtain ⟨kind, -, rfl⟩ := List.mem_map.mp hname
    exact Naming.recognizerName_not_mem (by decide) kind htable
  rw [valueNames_parserFile hlength.le]
  exact List.Nodup.append (by decide) derived.recognizers_nodup hdisjoint

/-! ## Variants -/

/-- The values of terminals have the variants that their kinds have. -/
theorem map_terminalVariant :
    (blueprint.handlers.shifts.map (terminalVariant blueprint)).map Variant.name =
      blueprint.names.terminalKinds := by
  have hlength : blueprint.names.terminalKinds.length = blueprint.symbols.terminals.length :=
    (derivedFrom made).length_terminalKinds
  rw [made.handlers_eq]
  refine List.ext_getElem (by simp [Handlers.ofSymbols, hlength]) fun i hi hi' => ?_
  simp [Handlers.ofSymbols, terminalVariant, Blueprint.terminalKind, hi']

theorem variantNames_typesFile :
    variantNames (typesFile blueprint) =
      [blueprint.names.terminalKinds, blueprint.names.nonterminalKinds,
        blueprint.names.productionKinds, ["Terminal", "NonTerminal"],
        blueprint.names.terminalKinds, blueprint.names.nonterminalKinds] := by
  -- the numbers of variants do not matter for their names
  have hkinds : ∀ kinds : List String,
      (kinds.mapIdx fun i kind => (⟨kind, .number i⟩ : Variant)).map Variant.name = kinds := by
    intro kinds
    exact List.ext_getElem (by simp) fun i hi hi' => by simp
  have hterminals := map_terminalVariant made
  rw [typesFile]
  simp only [variantNames, List.filterMap_append, kindItems, valueItems, List.filterMap_cons,
    List.filterMap_nil, hkinds, hterminals, List.map_map]
  simp [Function.comp_def]

/-- The variants of every enumeration have different names. -/
theorem nodup_variantNames : ∀ variants ∈ variantNames (typesFile blueprint), variants.Nodup := by
  have derived := derivedFrom made
  rw [variantNames_typesFile made]
  simp only [List.forall_mem_cons]
  exact ⟨derived.terminalKinds_nodup, derived.nonterminalKinds_nodup,
    derived.productionKinds_nodup, by decide, derived.terminalKinds_nodup,
    derived.nonterminalKinds_nodup, nofun⟩

end Made

end Artifact

/-! ## Generated parsers -/

open Artifact (parserFile typesFile)
open Artifact.Parts (typeNames valueNames importedNames variantNames)

/-- The files of a generated parser define and import every name once. The names of its types are
also different from those of its imports, unless the name of the parser is one of the two that make
them clash. -/
theorem generate_defines {options : GenerationOptions} {grammar : Grammar} {automaton : Automaton}
    {library : Library} {generated : GeneratedParser}
    (h : (Generation.generate options grammar automaton library).result.1 = .ok generated) :
    ∃ blueprint : Blueprint, blueprint.MadeFrom options grammar automaton library ∧
      generated = blueprint.generated ∧
      (typeNames (parserFile blueprint)).Nodup ∧ (importedNames (parserFile blueprint)).Nodup ∧
      (valueNames (parserFile blueprint)).Nodup ∧
      (∀ variants ∈ variantNames (typesFile blueprint), variants.Nodup) ∧
      ((typeNames (parserFile blueprint)).Disjoint (importedNames (parserFile blueprint)) ↔
        Naming.camelCase options.parserName ∉ ["LR", "Default"]) := by
  obtain ⟨blueprint, made, hstem, rfl⟩ := Generation.exists_named_blueprint h
  -- of the three stems that clash, the empty one is refused
  have hne : blueprint.typeStem ≠ "" := by
    intro hempty
    have hname := made.stem_isName
    rw [hempty] at hname
    exact absurd hname (by decide)
  refine ⟨blueprint, made, rfl, Artifact.nodup_typeNames blueprint,
    Artifact.nodup_importedNames blueprint, Artifact.nodup_valueNames made,
    Artifact.nodup_variantNames made, ?_⟩
  rw [Artifact.disjoint_typeNames_iff, ← hstem, List.mem_cons, not_or]
  exact and_iff_right hne

namespace Statements

/-- A parser of statements by a name that clashes. -/
def clashingOptions : GenerationOptions where
  parserName := "Default"

@[irreducible]
def clashingPaths : Code.Path × Code.Path × Code.Path :=
  (Generation.readPaths clashingOptions "default").toOption.getD default

def clashingBlueprint : Blueprint :=
  { blueprint with
    typeStem := "Default"
    runtime := clashingPaths.1
    types := clashingPaths.2.1
    actions := clashingPaths.2.2
    callee := .ok (.path clashingPaths.2.2) }

theorem clashingBlueprint_madeFrom :
    clashingBlueprint.MadeFrom clashingOptions grammar automaton {} where
  symbols_eq := blueprint_madeFrom.symbols_eq
  names_eq := blueprint_madeFrom.names_eq
  matchers_eq := blueprint_madeFrom.matchers_eq
  table_eq := blueprint_madeFrom.table_eq
  handlers_eq := blueprint_madeFrom.handlers_eq
  stem_isName := by decide +kernel

theorem generate_clashingBlueprint :
    (Generation.generate clashingOptions grammar automaton).result.1 =
      .ok clashingBlueprint.generated := by
  have hpaths : Generation.readPaths clashingOptions (Naming.snakeCase "Default") =
      .ok (clashingBlueprint.runtime, clashingBlueprint.types, clashingBlueprint.actions) := by
    have hstem : Naming.snakeCase "Default" = "default" := by decide +kernel
    have hok : (Generation.readPaths clashingOptions "default").isOk = true := by decide +kernel
    have hparts : (clashingBlueprint.runtime, clashingBlueprint.types, clashingBlueprint.actions) =
        clashingPaths :=
      Prod.ext rfl (Prod.ext rfl rfl)
    rw [hstem, eq_ok_of_isOk hok, hparts, clashingPaths]
  have hbare : clashingBlueprint.actions.isBare = false := by decide +kernel
  exact Generation.generate_of_blueprint clashingBlueprint_madeFrom {
    stem_eq := by decide +kernel
    paths_eq := hpaths
    callee_eq := (Library.callee_eq_path {} hbare).symm
    visibility_eq := rfl
    parser_sound := by decide +kernel
    types_sound := by decide +kernel }

/-- The lexer of that parser has the name of an import. -/
theorem lexer_clashes :
    "DefaultLexer" ∈ typeNames (parserFile clashingBlueprint) ∧
      "DefaultLexer" ∈ importedNames (parserFile clashingBlueprint) := by
  rw [Artifact.typeNames_parserFile, Artifact.importedNames_parserFile]
  refine ⟨List.mem_map.mpr ⟨"Lexer", by decide, rfl⟩, ?_⟩
  simp [Artifact.neededNames]

end Statements

end ParserFoundry
