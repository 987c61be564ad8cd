import ParserFoundry.Artifact.Parts
import ParserFoundry.Artifact.TypesFile
import ParserFoundry.Proofs.Artifact.Tables
/-!
# Payloads and Arguments

All parts of the two generated files agree on which terminals carry text, and on what a production
pops, matches and hands to its action.

Main results:
- `terminalsAgree`: the places where a terminal is named agree with its recognizer.
- `reductionsAgree`: an arm of the builder pops, matches and passes on what its production has.
-/

namespace ParserFoundry

/-- The text of the terminal is not fixed: a pattern recognizes it. -/
def Terminal.IsPattern (terminal : Terminal) : Prop :=
  ∃ source, terminal.recognizer = .pattern source

theorem Terminal.isPattern_iff {terminal : Terminal} :
    terminal.IsPattern ↔ terminal.recognizer.hasPayload = true := by
  cases h : terminal.recognizer <;> simp [IsPattern, h, Recognizer.hasPayload]

/-- A matcher carries text exactly if its recognizer does. -/
theorem Matcher.hasPayload_of_ofRecognizer {name : String} {recognizer : Recognizer}
    {compile : Pattern.Compiler} {matcher : Matcher}
    (h : ofRecognizer name recognizer compile = .ok matcher) :
    matcher.hasPayload = recognizer.hasPayload := by
  cases recognizer with
  | literal text =>
    rw [ofRecognizer] at h
    split at h
    · cases h
    · cases h
      rfl
  | pattern source =>
    rw [ofRecognizer] at h
    split at h
    · cases h
      rfl
    · cases h
  | endOfInput =>
    cases h
    rfl

namespace Artifact

open Code
open Parts (Shift Child Reduction)

variable {blueprint : Blueprint}

/-! ## Terminals -/

/-- The places where a terminal is named agree on its kind and on whether it carries text. -/
structure TerminalAgrees (terminal : Terminal) (kind : String) (variant : Variant) (shift : Shift)
    (function : Code.Function) : Prop where
  variant_name : variant.name = kind
  shift_kind : shift.kind = kind
  shift_variant : shift.variant = kind
  variant_text : Parts.carriesText variant = true ↔ terminal.IsPattern
  shift_text : shift.payload = true ↔ terminal.IsPattern
  function_regex : (Parts.regex? function).isSome = true ↔ terminal.IsPattern

/-- The two files agree on all terminals. -/
structure TerminalsAgree (parserItems typesItems : List Item) (symbols : SymbolTable)
    (names : NameTable) : Prop where
  exists_places : ∃ variants shifts,
    Parts.enumerations "Terminal" typesItems = [variants] ∧
    Parts.shifts? parserItems = some shifts ∧
    variants.length = symbols.terminals.length ∧ shifts.length = symbols.terminals.length ∧
    (Parts.functions parserItems).length = symbols.terminals.length ∧
    ∀ id terminal, symbols.terminal? id = some terminal →
      ∃ kind variant shift function, names.terminalKinds[id.index]? = some kind ∧
        variants[id.index]? = some variant ∧ shifts[id.index]? = some shift ∧
        (Parts.functions parserItems)[id.index]? = some function ∧
        names.recognizers[id.index]? = some function.name ∧
        TerminalAgrees terminal kind variant shift function
  imports_of_pattern : (∃ terminal ∈ symbols.terminals, terminal.IsPattern) →
    Parts.imports "Regex" parserItems = [.ofNames ["regex"]] ∧
      Parts.imports "LazyLock" parserItems = [.ofNames ["std", "sync"]]
  no_imports : (¬ ∃ terminal ∈ symbols.terminals, terminal.IsPattern) →
    Parts.imports "Regex" parserItems = [] ∧ Parts.imports "LazyLock" parserItems = []

theorem shift?_shiftArm (blueprint : Blueprint) (handler : ShiftHandler) :
    Parts.shift? (shiftArm blueprint handler) =
      some ⟨blueprint.terminalKind handler.terminal, blueprint.terminalKind handler.terminal,
        handler.payload⟩ := by
  obtain ⟨terminal, payload⟩ := handler
  -- a text is bound or the pattern has no argument: the two shapes of an arm
  cases payload <;> rfl

theorem regex?_recognizer (name : String) (matcher : Matcher) :
    ∃ definition : Code.Function, recognizerFunction name matcher = .function definition ∧
      definition.name = name ∧ (Parts.regex? definition).isSome = matcher.hasPayload := by
  -- literals, patterns and the end of the input have three different bodies, of which one names a
  -- regular expression
  cases matcher <;> exact ⟨_, rfl, rfl, rfl⟩

/-! ### Parts of the parser file -/

theorem map_functions {items : List Item}
    (h : ∀ item ∈ items, ∃ definition, item = .function definition) :
    (Parts.functions items).map Item.function = items := by
  induction items with
  | nil => rfl
  | cons item rest ih =>
    obtain ⟨⟨definition, rfl⟩, hrest⟩ := List.forall_mem_cons.mp h
    exact congrArg _ (ih hrest)

/-- The functions of the file are those that recognize the terminals. -/
theorem map_functions_parserFile (blueprint : Blueprint) :
    (Parts.functions (parserFile blueprint)).map Item.function = recognizerFunctions blueprint := by
  -- no import is a function, whether the file has imports for patterns or not
  have himports : Parts.functions (imports blueprint) = [] := by
    rw [imports]
    split <;> rfl
  have hparts : Parts.functions (parserFile blueprint) =
      Parts.functions (recognizerFunctions blueprint) := by
    rw [parserFile, lexerItems, ← recognizerFunctions]
    simp only [Parts.functions, List.filterMap_append] at himports ⊢
    rw [himports]
    change [] ++ [] ++ [] ++ ([] ++ _ ++ []) ++ [] = _
    simp
  rw [hparts]
  refine map_functions fun item hitem => ?_
  obtain ⟨name, -, matcher, rfl⟩ := mem_recognizerFunctions hitem
  obtain ⟨definition, hdefinition, -⟩ := exists_recognizerFunction name matcher
  exact ⟨definition, hdefinition⟩

/-- The methods that shift and reduce are those of the builder. -/
theorem methods_parserFile {name : String} (hname : name ∈ ["shift_action", "reduce_action"]) :
    Parts.methods name (parserFile blueprint) = Parts.methods name (builderItems blueprint) := by
  have himports : Parts.methods name (imports blueprint) = [] := by
    rw [imports]
    split <;> rfl
  have hfunctions : Parts.methods name (recognizerFunctions blueprint) = [] := by
    refine List.flatMap_eq_nil_iff.mpr fun item hitem => ?_
    obtain ⟨other, -, matcher, rfl⟩ := mem_recognizerFunctions hitem
    obtain ⟨definition, hdefinition, -⟩ := exists_recognizerFunction other matcher
    rw [hdefinition]
  rw [parserFile, lexerItems, ← recognizerFunctions]
  simp only [Parts.methods, List.flatMap_append] at himports hfunctions ⊢
  rw [himports, hfunctions]
  simp only [List.mem_cons, List.not_mem_nil, or_false] at hname
  rcases hname with rfl | rfl <;> rfl

theorem arms?_shift (blueprint : Blueprint) :
    Parts.arms? "shift_action" (parserFile blueprint) =
      some (blueprint.handlers.shifts.map (shiftArm blueprint)) := by
  rw [Parts.arms?, methods_parserFile (by decide)]
  change some (List.dropLast (_ ++ [_])) = _
  -- the last arm is the one for all other terminals, which is no shift
  rw [List.dropLast_concat]

theorem arms?_reduce (blueprint : Blueprint) :
    Parts.arms? "reduce_action" (parserFile blueprint) =
      some (blueprint.handlers.reduces.map (reduceArm blueprint)) := by
  rw [Parts.arms?, methods_parserFile (by decide)]
  change some (List.dropLast (_ ++ [_])) = _
  rw [List.dropLast_concat]

/-- What the builder does with shifted terminals. -/
def shiftsOf (blueprint : Blueprint) : List Shift :=
  blueprint.handlers.shifts.map fun handler =>
    ⟨blueprint.terminalKind handler.terminal, blueprint.terminalKind handler.terminal,
      handler.payload⟩

theorem shifts?_parserFile (blueprint : Blueprint) :
    Parts.shifts? (parserFile blueprint) = some (shiftsOf blueprint) := by
  rw [Parts.shifts?, arms?_shift, Option.bind_some]
  exact mapM_map_eq_some fun handler _ => shift?_shiftArm blueprint handler

theorem enumerations_typesFile (blueprint : Blueprint) :
    Parts.enumerations "Terminal" (typesFile blueprint) =
      [blueprint.handlers.shifts.map (terminalVariant blueprint)] := rfl

theorem imports_parserFile {name : String} {path : Path}
    (h : (name, path) ∈ [("Regex", Path.ofNames ["regex"]), ("LazyLock", .ofNames ["std", "sync"])]) :
    Parts.imports name (parserFile blueprint) = if blueprint.hasPatterns then [path] else [] := by
  rw [parserFile, lexerItems, ← recognizerFunctions]
  simp only [Parts.imports, List.filterMap_append]
  rw [filterMap_recognizerFunctions _ fun _ => rfl, imports]
  simp only [List.mem_cons, List.not_mem_nil, or_false, Prod.mk.injEq] at h
  rcases h with ⟨rfl, rfl⟩ | ⟨rfl, rfl⟩ <;> cases blueprint.hasPatterns <;> rfl

/-- The function of a terminal, in the place of the terminal. -/
theorem getElem?_functions {i : Nat} {name : String} {matcher : Matcher}
    (hname : blueprint.names.recognizers[i]? = some name)
    (hmatcher : blueprint.matchers[i]? = some matcher) :
    ∃ definition, (Parts.functions (parserFile blueprint))[i]? = some definition ∧
      definition.name = name ∧ (Parts.regex? definition).isSome = matcher.hasPayload := by
  obtain ⟨definition, hdefinition, hdefinitionName, hregex⟩ := regex?_recognizer name matcher
  have hzip : (blueprint.names.recognizers.zip blueprint.matchers)[i]? = some (name, matcher) :=
    List.getElem?_zip_eq_some.mpr ⟨hname, hmatcher⟩
  have hget : (recognizerFunctions blueprint)[i]? = some (.function definition) := by
    rw [recognizerFunctions, List.getElem?_map, hzip]
    exact congrArg some hdefinition
  rw [← map_functions_parserFile, List.getElem?_map] at hget
  obtain ⟨found, hfound, heq⟩ := Option.map_eq_some_iff.mp hget
  cases heq
  exact ⟨definition, hfound, hdefinitionName, hregex⟩

section Terminals

variable {options : GenerationOptions} {grammar : Grammar} {automaton : Automaton}
variable {library : Library} (made : blueprint.MadeFrom options grammar automaton library)

include made

/-- Terminals and matchers agree on which of them carry text. -/
theorem map_hasPayload :
    blueprint.matchers.map Matcher.hasPayload =
      blueprint.symbols.terminals.map fun terminal => terminal.recognizer.hasPayload := by
  -- the matchers are made one by one, each of the recognizer of its terminal
  have hmatchers := (forall₂_of_mapM_eq_ok made.matchers_eq).imp
    fun _ _ => Matcher.hasPayload_of_ofRecognizer
  rw [← List.forall₂_eq_eq_eq, List.forall₂_map_left_iff, List.forall₂_map_right_iff]
  exact hmatchers.flip

/-- Some terminal of the file is recognized by a pattern exactly if one of the grammar is. -/
theorem hasPatterns_iff :
    blueprint.hasPatterns = true ↔ ∃ terminal ∈ blueprint.symbols.terminals, terminal.IsPattern := by
  have hpayloads := map_hasPayload made
  calc blueprint.hasPatterns = true
      ↔ (blueprint.matchers.map Matcher.hasPayload).any id = true := by
        simp [Blueprint.hasPatterns]
    _ ↔ ∃ terminal ∈ blueprint.symbols.terminals, terminal.IsPattern := by
        simp [hpayloads, Terminal.isPattern_iff]

theorem getElem?_shifts {id : TerminalId} {terminal : Terminal}
    (hterminal : blueprint.symbols.terminal? id = some terminal) :
    blueprint.handlers.shifts[id.index]? = some ⟨id, terminal.recognizer.hasPayload⟩ := by
  have hget : blueprint.symbols.terminals[id.index]? = some terminal := hterminal
  simp [made.handlers_eq, Handlers.ofSymbols, hget]

/-- The places where a terminal is named agree with its recognizer. -/
theorem exists_terminalAgrees {id : TerminalId} {terminal : Terminal}
    (hterminal : blueprint.symbols.terminal? id = some terminal) :
    ∃ kind variant shift function, blueprint.names.terminalKinds[id.index]? = some kind ∧
      (blueprint.handlers.shifts.map (terminalVariant blueprint))[id.index]? = some variant ∧
      (shiftsOf blueprint)[id.index]? = some shift ∧
      (Parts.functions (parserFile blueprint))[id.index]? = some function ∧
      blueprint.names.recognizers[id.index]? = some function.name ∧
      TerminalAgrees terminal kind variant shift function := by
  have derived := derivedFrom made
  have hmatchers := forall₂_of_mapM_eq_ok made.matchers_eq
  have hget : blueprint.symbols.terminals[id.index]? = some terminal := hterminal
  -- the number of the terminal is its place in every list that was derived from the symbols
  obtain ⟨hlt, rfl⟩ := List.getElem?_eq_some_iff.mp hget
  obtain ⟨kind, hkind⟩ : ∃ kind, blueprint.names.terminalKinds[id.index]? = some kind :=
    ⟨_, List.getElem?_eq_getElem (derived.length_terminalKinds ▸ hlt)⟩
  obtain ⟨name, hname⟩ : ∃ name, blueprint.names.recognizers[id.index]? = some name :=
    ⟨_, List.getElem?_eq_getElem (derived.length_recognizers ▸ hlt)⟩
  have hmatcher : id.index < blueprint.matchers.length := hmatchers.length_eq ▸ hlt
  have hpayload : blueprint.matchers[id.index].hasPayload =
      blueprint.symbols.terminals[id.index].recognizer.hasPayload :=
    Matcher.hasPayload_of_ofRecognizer (hmatchers.get hlt hmatcher)
  have hshift := getElem?_shifts made hterminal
  obtain ⟨definition, hdefinition, rfl, hregex⟩ :=
    getElem?_functions hname (List.getElem?_eq_getElem hmatcher)
  have hterminalKind : blueprint.terminalKind id = kind := by
    simp [Blueprint.terminalKind, hkind]
  refine ⟨kind, _, _, definition, hkind, by rw [List.getElem?_map, hshift, Option.map_some],
    by rw [shiftsOf, List.getElem?_map, hshift, Option.map_some], hdefinition, hname, ?_⟩
  -- all kinds are the derived one; all payloads are that of the recognizer
  constructor
  case variant_name => exact hterminalKind
  case shift_kind => exact hterminalKind
  case shift_variant => exact hterminalKind
  case variant_text =>
    rw [Terminal.isPattern_iff]
    cases hrecognizer : blueprint.symbols.terminals[id.index].recognizer.hasPayload <;>
      simp [terminalVariant, Parts.carriesText, Ty.named]
  case shift_text => exact Terminal.isPattern_iff.symm
  case function_regex => rw [hregex, hpayload, Terminal.isPattern_iff]

/-- The two files agree on all terminals. -/
theorem terminalsAgree :
    TerminalsAgree (parserFile blueprint) (typesFile blueprint) blueprint.symbols
      blueprint.names := by
  have derived := derivedFrom made
  have hmatchers := forall₂_of_mapM_eq_ok made.matchers_eq
  -- as many functions as terminals, since recognizers and matchers are zipped
  have hfunctions := congrArg List.length (map_functions_parserFile blueprint)
  simp only [recognizerFunctions, List.length_map, List.length_zip, derived.length_recognizers,
    ← hmatchers.length_eq, Nat.min_self] at hfunctions
  have hshifts : blueprint.handlers.shifts.length = blueprint.symbols.terminals.length := by
    simp [made.handlers_eq, Handlers.ofSymbols]
  constructor
  case exists_places =>
    exact ⟨_, _, enumerations_typesFile blueprint, shifts?_parserFile blueprint,
      by simpa using hshifts, by simpa [shiftsOf] using hshifts, hfunctions,
      fun id terminal => exists_terminalAgrees made⟩
  case imports_of_pattern =>
    intro hpattern
    have hpatterns := (hasPatterns_iff made).mpr hpattern
    rw [imports_parserFile (List.mem_cons_self ..),
      imports_parserFile (List.mem_cons_of_mem _ (List.mem_cons_self ..)), hpatterns]
    exact ⟨rfl, rfl⟩
  case no_imports =>
    intro hnone
    have hpatterns : blueprint.hasPatterns = false :=
      Bool.eq_false_iff.mpr (mt (hasPatterns_iff made).mp hnone)
    rw [imports_parserFile (List.mem_cons_self ..),
      imports_parserFile (List.mem_cons_of_mem _ (List.mem_cons_self ..)), hpatterns]
    exact ⟨rfl, rfl⟩

end Terminals

/-! ## Productions -/

/-- The pattern for the value of a symbol names the kind of the symbol, and binds the content unless
the symbol is a terminal whose text is fixed. -/
inductive ChildAgrees (symbols : SymbolTable) (names : NameTable) : Symbol → Child → Prop
  | fixed {id : TerminalId} {terminal : Terminal} {kind : String} :
      symbols.terminal? id = some terminal → ¬ terminal.IsPattern →
      names.terminalKinds[id.index]? = some kind →
      ChildAgrees symbols names (.terminal id) ⟨"Terminal", kind, none⟩
  | pattern {id : TerminalId} {terminal : Terminal} {kind : String} (name : String) :
      symbols.terminal? id = some terminal → terminal.IsPattern →
      names.terminalKinds[id.index]? = some kind →
      ChildAgrees symbols names (.terminal id) ⟨"Terminal", kind, some name⟩
  | nonterminal {id : NonterminalId} {kind : String} (name : String) :
      names.nonterminalKinds[id.index]? = some kind →
      ChildAgrees symbols names (.nonterminal id) ⟨"NonTerminal", kind, some name⟩

/-- The arm for a production pops the values of its symbols, matches each of them, and hands the
contents that it binds to the action of the production, in order. -/
structure ReductionAgrees (symbols : SymbolTable) (names : NameTable) (callee : Callee)
    (production : ProductionId) (entry : NumberedProduction) (reduction : Reduction) : Prop where
  kind : names.productionKinds[production.index]? = some reduction.kind
  nonterminal : names.nonterminalKinds[entry.nonterminal.index]? = some reduction.nonterminal
  popped : reduction.popped? = if entry.rhs = [] then none else some entry.rhs.length
  children : List.Forall₂ (ChildAgrees symbols names) entry.rhs reduction.children
  bound : reduction.children.filterMap Child.bound? = reduction.arguments
  arguments : reduction.arguments =
    (List.range reduction.arguments.length).map fun i => "p" ++ toString i
  arguments_nodup : reduction.arguments.Nodup
  action : ∃ name, names.actions[production.index]? = some name ∧
    reduction.action = callee.target.child name
  direct : reduction.direct = callee.isDirect

/-- The parser file has an arm for every production, with the actions called through one path. -/
structure ReductionsAgree (parserItems : List Item) (symbols : SymbolTable) (names : NameTable)
    (callee : Callee) : Prop where
  exists_reductions : ∃ reductions, Parts.reductions? parserItems = some reductions ∧
    reductions.length = symbols.productions.length ∧
    ∀ production entry, symbols.production? production = some entry →
      ∃ reduction, reductions[production.index]? = some reduction ∧
        ReductionAgrees symbols names callee production entry reduction

/-! ### Patterns -/

/-- The name of an argument. -/
def argumentName (i : Nat) : String :=
  "p" ++ toString i

theorem argumentName_injective {i j : Nat} (h : argumentName i = argumentName j) : i = j := by
  have hdigits : toString i = toString j := by simpa [argumentName] using h
  -- a number is read back from its digits, so the digits tell it
  have hread : ∀ value : Nat,
      Code.Reading.number? ((toString value).toList ++ []) = some (value, []) :=
    fun value => Code.Reading.number?_toString value nofun
  have hboth := hread j
  rw [← hdigits, hread i] at hboth
  simpa using hboth

/-- What the patterns of values say; `bound` is how many arguments there are before. -/
def childrenOf (blueprint : Blueprint) (bound : Nat) : List ChildShape → List Child
  | [] => []
  | .discard id :: rest =>
    ⟨"Terminal", blueprint.terminalKind id, none⟩ :: childrenOf blueprint bound rest
  | .terminal id :: rest =>
    ⟨"Terminal", blueprint.terminalKind id, some (argumentName bound)⟩ ::
      childrenOf blueprint (bound + 1) rest
  | .nonterminal id :: rest =>
    ⟨"NonTerminal", blueprint.nonterminalKind id, some (argumentName bound)⟩ ::
      childrenOf blueprint (bound + 1) rest

theorem mapM_childPatterns (blueprint : Blueprint) (bound : Nat) (shapes : List ChildShape) :
    (childPatterns blueprint bound shapes).mapM Parts.child? =
      some (childrenOf blueprint bound shapes) := by
  -- shape by shape; only those that are arguments use up a number
  induction shapes generalizing bound with
  | nil => rfl
  | cons shape rest ih =>
    cases shape with
    | discard id => simp [childPatterns, childrenOf, Parts.child?, ih]
    | terminal id => simp [childPatterns, childrenOf, Parts.child?, ih, argumentName]
    | nonterminal id => simp [childPatterns, childrenOf, Parts.child?, ih, argumentName]

/-- The arguments are numbered without gaps. -/
theorem filterMap_childrenOf (blueprint : Blueprint) (bound : Nat) (shapes : List ChildShape) :
    (childrenOf blueprint bound shapes).filterMap Child.bound? =
      (List.range' bound (shapes.countP ChildShape.isArgument)).map argumentName := by
  -- a discarded terminal takes no number, and any other value takes the next one
  induction shapes generalizing bound with
  | nil => rfl
  | cons shape rest ih =>
    cases shape with
    | discard id => simpa [childrenOf, ChildShape.isArgument] using ih bound
    | terminal id => simp [childrenOf, List.countP_cons, ChildShape.isArgument, ih, List.range'_succ]
    | nonterminal id =>
      simp [childrenOf, List.countP_cons, ChildShape.isArgument, ih, List.range'_succ]

theorem length_childPatterns (blueprint : Blueprint) (bound : Nat) (shapes : List ChildShape) :
    (childPatterns blueprint bound shapes).length = shapes.length := by
  induction shapes generalizing bound with
  | nil => rfl
  | cons shape rest ih => cases shape <;> simp [childPatterns, ih]

/-! ### Arms -/

/-- What an arm for a production says. -/
def reductionOf (blueprint : Blueprint) (handler : ReduceHandler) : Reduction where
  kind := blueprint.productionKind handler.production
  popped? := if handler.children = [] then none else some handler.arity
  children := childrenOf blueprint 0 handler.children
  nonterminal := blueprint.nonterminalKind handler.nonterminal
  action := blueprint.called.target.child (blueprint.actionName handler.production)
  arguments := (List.range handler.argumentCount).map argumentName
  direct := blueprint.called.isDirect

theorem action?_call (action : Path) (count : Nat) :
    Parts.action? (.call (.path action)
      ((List.range count).map fun i => .name ("p" ++ toString i))) =
        some (action, (List.range count).map argumentName) := by
  -- every argument is a name, and is read as one
  have harguments : ((List.range count).map fun i => Expr.name ("p" ++ toString i)).mapM
      Reading.function? = some ((List.range count).map argumentName) :=
    mapM_map_eq_some fun _ _ => rfl
  simp only [Parts.action?, harguments, Option.map_some]

/-- The call that a content consists of, or ends in, is read back. -/
theorem content?_call (callee : Callee) (kind action : String) (count : Nat) :
    Parts.content? (.apply ["NonTerminal", kind] (callee.call action
      ((List.range count).map fun i => .name ("p" ++ toString i)))) =
        some (kind, (callee.target.child action, (List.range count).map argumentName),
          callee.isDirect) := by
  have hnames : Reading.names? (.names ["NonTerminal", kind]) = some ["NonTerminal", kind] := rfl
  have hcalled := action?_call (callee.target.child action) count
  -- the path of the callee is written in one piece, or compared with something in front of it
  cases callee with
  | path whole =>
    simp only [Parts.content?, Expr.apply, Callee.call, hnames, List.getLast?_singleton, hcalled,
      Option.map_some]
    rfl
  | compared comparisons =>
    -- the call is within the last of the arguments
    simp only [Parts.content?, Expr.apply, Callee.call, hnames, List.getLast?_concat, hcalled,
      Option.map_some]
    rfl

/-- What the arm for a production says is read back. -/
theorem reduction?_reduceArm (blueprint : Blueprint) (handler : ReduceHandler) :
    Parts.reduction? (reduceArm blueprint handler) = some (reductionOf blueprint handler) := by
  have hcall := content?_call blueprint.called (blueprint.nonterminalKind handler.nonterminal)
    (blueprint.actionName handler.production) handler.argumentCount
  rw [reduceArm]
  split
  -- without children, the arm does not touch the values
  case isTrue hnone =>
    have hchildren : handler.children = [] := List.length_eq_zero_iff.mp hnone
    simp only [Parts.reduction?, hcall, Option.bind_eq_bind, Option.bind_some, reductionOf, hchildren,
      if_true]
    rfl
  case isFalse hsome =>
    have hchildren : handler.children ≠ [] := fun hnil => hsome (List.length_eq_zero_iff.mpr hnil)
    -- the values are split off, taken one by one, and matched against the patterns
    have hsplit : Parts.splitOff? (.cases
        (.method (.method (.ofSelf "res_stack") "len" []) "checked_sub" [.number handler.arity])
        [.mk (.variant ["Some"] [.bind "n"]) []
            (.method (.method (.ofSelf "res_stack") "split_off" [.name "n"]) "into_iter" []),
          .mk (.bind "None") [] (.fail "Invalid symbol parse stack data." [])]) =
        some handler.arity := rfl
    have htaken : (List.replicate handler.arity (Expr.method (.name "i") "next" [])).all
        (Parts.isNext "i") = true := by
      refine List.all_eq_true.mpr fun taken htaken => ?_
      rw [List.eq_of_mem_replicate htaken]
      rfl
    simp only [Parts.reduction?, hsplit, mapM_childPatterns, hcall, Option.bind_eq_bind,
      Option.bind_some, List.length_replicate, length_childPatterns, htaken]
    simp only [reductionOf, hchildren, ReduceHandler.arity, and_self, if_true, if_false]
    rfl

/-! ### Agreement -/

/-- The name in a place within a list is the one that is looked up there. -/
theorem getElem?_eq_getD {names : List String} {i : Nat} (h : i < names.length) :
    names[i]? = some (names.getD i "") := by
  simp [h]

section Productions

variable {options : GenerationOptions} {grammar : Grammar} {automaton : Automaton}
variable {library : Library} (made : blueprint.MadeFrom options grammar automaton library)

include made

theorem getElem?_terminalKinds {id : TerminalId}
    (h : blueprint.symbols.Numbers (.terminal id)) :
    blueprint.names.terminalKinds[id.index]? = some (blueprint.terminalKind id) :=
  getElem?_eq_getD ((derivedFrom made).length_terminalKinds ▸ h)

theorem getElem?_nonterminalKinds {id : NonterminalId}
    (h : blueprint.symbols.Numbers (.nonterminal id)) :
    blueprint.names.nonterminalKinds[id.index]? = some (blueprint.nonterminalKind id) :=
  getElem?_eq_getD ((derivedFrom made).length_nonterminalKinds ▸ h)

/-- The patterns for the values of a right-hand side agree with its symbols. -/
theorem forall₂_childAgrees {rhs : List Symbol}
    (hrhs : ∀ symbol ∈ rhs, blueprint.symbols.Numbers symbol) (bound : Nat) :
    List.Forall₂ (ChildAgrees blueprint.symbols blueprint.names) rhs
      (childrenOf blueprint bound (rhs.map (Handlers.shapeOf blueprint.symbols))) := by
  -- `bound` counts the arguments that the symbols before have bound
  induction rhs generalizing bound with
  | nil => exact .nil
  | cons symbol rest ih =>
    obtain ⟨hsymbol, hrest⟩ := List.forall_mem_cons.mp hrhs
    cases symbol with
    | nonterminal id =>
      exact .cons (.nonterminal _ (getElem?_nonterminalKinds made hsymbol)) (ih hrest _)
    | terminal id =>
      have hkind := getElem?_terminalKinds made hsymbol
      obtain ⟨terminal, hterminal⟩ : ∃ terminal, blueprint.symbols.terminal? id = some terminal :=
        ⟨_, List.getElem?_eq_getElem hsymbol⟩
      have hpayload : blueprint.symbols.hasPayload id = terminal.recognizer.hasPayload := by
        simp [SymbolTable.hasPayload, hterminal]
      -- a terminal with a fixed text is dropped, and any other one is an argument
      cases hpattern : terminal.recognizer.hasPayload with
      | true =>
        have hshape : Handlers.shapeOf blueprint.symbols (.terminal id) = .terminal id := by
          simp [Handlers.shapeOf, hpayload, hpattern]
        rw [List.map_cons, hshape]
        exact .cons (.pattern _ hterminal (Terminal.isPattern_iff.mpr hpattern) hkind) (ih hrest _)
      | false =>
        have hshape : Handlers.shapeOf blueprint.symbols (.terminal id) = .discard id := by
          simp [Handlers.shapeOf, hpayload, hpattern]
        have hfixed : ¬ terminal.IsPattern := by simp [Terminal.isPattern_iff, hpattern]
        rw [List.map_cons, hshape]
        exact .cons (.fixed hterminal hfixed hkind) (ih hrest _)

/-- The arm for a production agrees with it. -/
theorem reductionAgrees {production : ProductionId} {entry : NumberedProduction}
    (hentry : blueprint.symbols.production? production = some entry) :
    ReductionAgrees blueprint.symbols blueprint.names blueprint.called production entry
      (reductionOf blueprint
        ⟨production, entry.nonterminal, entry.rhs.map (Handlers.shapeOf blueprint.symbols)⟩) := by
  have derived := derivedFrom made
  have hlt : production.index < blueprint.symbols.productions.length :=
    (List.getElem?_eq_some_iff.mp hentry).1
  have hmem : entry ∈ blueprint.symbols.productions := List.mem_of_getElem? hentry
  constructor
  case kind => exact getElem?_eq_getD (derived.length_productionKinds ▸ hlt)
  case nonterminal =>
    exact getElem?_nonterminalKinds made
      ((SymbolTable.wellFormed_of_ofGrammar made.symbols_eq).numbers_nonterminal hentry)
  case popped => simp [reductionOf, ReduceHandler.arity]
  case children =>
    exact forall₂_childAgrees made
      (fun symbol hsymbol => SymbolTable.numbers_of_mem_rhs made.symbols_eq hmem hsymbol) 0
  case bound =>
    rw [reductionOf, filterMap_childrenOf, List.range_eq_range', ReduceHandler.argumentCount]
  case arguments => simp [reductionOf, argumentName]
  case arguments_nodup => exact List.nodup_range.map fun _ _ => argumentName_injective
  case action => exact ⟨_, getElem?_eq_getD (derived.length_actions ▸ hlt), rfl⟩
  case direct => rfl

/-- An arm of the builder pops, matches and passes on what its production has. -/
theorem reductionsAgree :
    ReductionsAgree (parserFile blueprint) blueprint.symbols blueprint.names blueprint.called := by
  refine ⟨blueprint.handlers.reduces.map (reductionOf blueprint), ?_, ?_, ?_⟩
  · rw [Parts.reductions?, arms?_reduce, Option.bind_some]
    exact mapM_map_eq_some fun handler _ => reduction?_reduceArm blueprint handler
  · simp [made.handlers_eq, Handlers.ofSymbols]
  · intro production entry hentry
    have hget : blueprint.symbols.productions[production.index]? = some entry := hentry
    refine ⟨_, ?_, reductionAgrees made hentry⟩
    simp [made.handlers_eq, Handlers.ofSymbols, hget]

end Productions

end Artifact

end ParserFoundry
