import ParserFoundry.Proofs.Code.Identifiers
import ParserFoundry.Proofs.Generation.Blueprint
/-!
# What a Generation Reports

A generation that makes no parser reports why, with one exception. The stem of the type names is
accepted if it spells a name, and blanks and comments may stand around what is spelled; such a stem
is no name as it stands. If all other checks pass, the generation breaks off where the first type
name is made of it.

Main results:
- `failsIn_prepare`: checks that fail are reported.
- `breaksOff_iff`: when a generation breaks off.
- `reports_of_stem`, `reports_of_usable`: stems with which whatever fails is reported.
-/

namespace ParserFoundry

namespace Generation

variable {options : GenerationOptions} {grammar : Grammar} {automaton : Automaton}
variable {library : Library} {blueprint : Blueprint}

/-- The error is reported. -/
def Reported (cause : GenerationError) : Prop :=
  cause.isReported = true

/-! ## Checks -/

theorem errorsIn_typeStem : ErrorsIn Reported (typeStem options) := by
  unfold typeStem
  dsimp only
  split_ifs
  · exact .of_error rfl
  · exact .of_ok _
  · exact .of_error rfl

theorem errorsIn_readPath (path : String) : ErrorsIn Reported (readPath library path) := by
  unfold readPath
  split
  · exact .of_ok _
  · exact .of_error rfl

theorem errorsIn_readPaths (stem : String) :
    ErrorsIn Reported (readPaths options stem library) := by
  apply (errorsIn_readPath _).bind
  intro runtime
  apply (errorsIn_readPath _).bind
  intro types
  exact (errorsIn_readPath _).bind fun _ => .of_ok _

/-- A check that is noted when it passes fails in the way that its errors are put. -/
theorem failsIn_noted {α η : Type} (wrap : η → GenerationError)
    (hwrap : ∀ cause, Reported (wrap cause)) (checked : Except η α) (text : α → String) :
    Journaled.FailsIn Reported do
      let value ← .ofExcept wrap checked
      Journaled.note .debug (text value)
      return value := by
  apply Journaled.FailsIn.bind
  · exact .ofExcept fun cause _ => hwrap cause
  · intro value
    exact (Journaled.FailsIn.note _ _).bind fun _ => .pure value

theorem failsIn_number : (number grammar).FailsIn Reported :=
  failsIn_noted .numbering (fun _ => rfl) _ _

theorem failsIn_deriveNames (symbols : SymbolTable) : (deriveNames symbols).FailsIn Reported :=
  failsIn_noted .naming (fun _ => rfl) _ _

theorem failsIn_compileMatchers (symbols : SymbolTable) :
    (compileMatchers symbols library).FailsIn Reported :=
  failsIn_noted .matcher (fun _ => rfl) _ _

theorem failsIn_encode (symbols : SymbolTable) (errorOnConflicts : Bool) :
    (encode symbols automaton errorOnConflicts).FailsIn Reported := by
  unfold encode
  apply Journaled.FailsIn.bind
  · exact .notes _
  · intro _
    apply Journaled.FailsIn.bind
    · exact .ofExcept fun _ _ => rfl
    · intro table
      apply Journaled.FailsIn.bind
      · exact .notes _
      · intro _
        exact (Journaled.FailsIn.note _ _).bind fun _ => .pure table

/-- Every check that fails is reported. -/
theorem failsIn_prepare : (prepare options grammar automaton library).FailsIn Reported := by
  -- the stages in their order, each with the errors that it may have
  apply (Journaled.FailsIn.ofExcept errorsIn_typeStem).bind
  intro typeStem
  apply (Journaled.FailsIn.ofExcept (errorsIn_readPaths _)).bind
  rintro ⟨runtime, types, actions⟩
  apply failsIn_number.bind
  intro symbols
  apply (failsIn_deriveNames symbols).bind
  intro names
  apply (failsIn_compileMatchers symbols).bind
  intro matchers
  apply (failsIn_encode symbols _).bind
  intro table
  exact (Journaled.FailsIn.note _ _).bind fun _ => .pure _

/-! ## Code -/

theorem errorsIn_render (name : String) (fault? : Option Code.PathError) (items : List Code.Item) :
    ErrorsIn Reported (render name fault? items) := by
  unfold render
  split
  · exact .of_error rfl
  · exact .of_ok _

/-- Behind a stem that is a name, everything is reported. -/
theorem errorsIn_renderFiles (hname : Code.isName blueprint.typeStem = true) (stem : String) :
    ErrorsIn Reported (renderFiles blueprint stem) := by
  unfold renderFiles
  simp only [hname, Bool.not_true, Bool.false_eq_true, if_false]
  apply (errorsIn_render _ _ _).bind
  intro parser
  exact (errorsIn_render _ _ _).bind fun _ => .of_ok _

/-- A stem that is no name leads to no file. -/
theorem renderFiles_of_not_isName (hname : Code.isName blueprint.typeStem = false) (stem : String) :
    renderFiles blueprint stem = .error (.unusableStem blueprint.typeStem) := by
  simp [renderFiles, hname, throw, throwThe, MonadExceptOf.throw, bind, Except.bind]

/-! ## Generations -/

/-- The generation fails without a report. -/
def BreaksOff (options : GenerationOptions) (grammar : Grammar) (automaton : Automaton)
    (library : Library) : Prop :=
  ∃ cause, (generate options grammar automaton library).result.1 = .error cause ∧ ¬ Reported cause

/-- A generation breaks off exactly if all checks pass with a stem of the type names that is no name
as it stands. -/
theorem breaksOff_iff : BreaksOff options grammar automaton library ↔
    ∃ blueprint : Blueprint, blueprint.PreparedFor options grammar automaton library ∧
      Code.isName blueprint.typeStem = false := by
  constructor
  · rintro ⟨cause, hfails, hunreported⟩
    rw [generate_eq_prepare_bind] at hfails
    -- no check is to blame, so there is a blueprint
    obtain ⟨blueprint, hblueprint, h⟩ :=
      failsIn_prepare.exists_of_fails hunreported (Journaled.fails_of_result hfails)
    refine ⟨blueprint, prepare_returns hblueprint, ?_⟩
    cases hname : Code.isName blueprint.typeStem with
    | false => rfl
    | true =>
      have hemit : (emit blueprint).FailsIn Reported :=
        (Journaled.FailsIn.ofExcept (errorsIn_renderFiles hname _)).bind fun _ => .pure _
      exact absurd (hemit cause h) hunreported
  · rintro ⟨blueprint, prepared, hname⟩
    -- nothing stands between the checks and the first type name
    refine ⟨.unusableStem blueprint.typeStem, ?_, by simp [Reported, GenerationError.isReported]⟩
    rw [result_of_preparedFor prepared, renderFiles_of_not_isName hname]
    rfl

/-- If the name of the parser in camel case is a name once it spells one, all failures are
reported. -/
theorem reports_of_stem
    (hstem : Code.spellsName (Naming.camelCase options.parserName) = true →
      Code.isName (Naming.camelCase options.parserName) = true)
    (grammar : Grammar) (automaton : Automaton) (library : Library) :
    ¬ BreaksOff options grammar automaton library := by
  intro h
  obtain ⟨blueprint, prepared, hname⟩ := breaksOff_iff.mp h
  -- the checks have passed, so the name spells one
  have hspells : Code.spellsName (Naming.camelCase options.parserName) = true := by
    have hok := prepared.stem_eq
    simp only [typeStem] at hok
    split_ifs at hok with hempty hspells
    exact hspells
  rw [typeStem_eq prepared.stem_eq, hstem hspells] at hname
  cases hname

theorem isName_of_usable {name : String} (h : NameTable.Usable name) : Code.isName name = true := by
  obtain ⟨c, tail, hname, hdigit, hchars⟩ := Code.mem_isIdentifierChar_of_usable h
  simp [Code.isName, hname, Code.anyName?_word hdigit hchars]

/-- A stem that could be the name of a kind does not let a generation break off. -/
theorem reports_of_usable (hstem : NameTable.Usable (Naming.camelCase options.parserName))
    (grammar : Grammar) (automaton : Automaton) (library : Library) :
    ¬ BreaksOff options grammar automaton library :=
  reports_of_stem (fun _ => isName_of_usable hstem) grammar automaton library

/-- A blank in front of its name keeps the parser of statements from being generated or refused. -/
example : BreaksOff { parserName := " grammar" } Statements.grammar Statements.automaton {} := by
  obtain ⟨⟨runtime, types, actions⟩, hpaths⟩ :
      ∃ paths, readPaths { parserName := " grammar" } " grammar" = .ok paths :=
    ⟨_, eq_ok_of_isOk (by decide +kernel)⟩
  have hstem : typeStem { parserName := " grammar" } = .ok " grammar" := by decide +kernel
  have hsnake : Naming.snakeCase " grammar" = " grammar" := by decide +kernel
  have hname : Code.isName " grammar" = false := by decide +kernel
  have made := Statements.blueprint_madeFrom
  have prepared : Blueprint.PreparedFor
      { Statements.blueprint with
        typeStem := " grammar", runtime := runtime, types := types, actions := actions
        callee := ({} : Library).callee actions }
      { parserName := " grammar" } Statements.grammar Statements.automaton {} := {
    stem_eq := hstem
    paths_eq := (congrArg (readPaths _ · _) hsnake).trans hpaths
    callee_eq := rfl
    symbols_eq := made.symbols_eq
    names_eq := made.names_eq
    matchers_eq := made.matchers_eq
    table_eq := made.table_eq
    handlers_eq := made.handlers_eq
    visibility_eq := rfl }
  exact breaksOff_iff.mpr ⟨_, prepared, hname⟩

end Generation

end ParserFoundry
