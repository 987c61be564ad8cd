import ParserFoundry.Proofs.Artifact.Kinds
import ParserFoundry.Proofs.Artifact.Tables
/-!
# Generated Tables

The files of a generated parser, read back: the parser file holds the table of the automaton, cell
by cell, with the functions that recognize the terminals, and the types file holds the kinds, each
under its number.

Main results:
- `generate_holds`: what the texts of the items of both files hold.
-/

namespace ParserFoundry

open Code (Item)
open Code.Reading (constant? functionName? isPlainName)
open Layout (Spelled)
open Artifact (Tables HoldsKinds recognizerFunction)

/-! ## Texts of items -/

/-- The text spells the item, and readers understand it. -/
def Written (item : Item) (text : List Char) : Prop :=
  item.Readable ∧ Spelled item.document text

section Texts

variable {items : List Item} {texts : List (List Char)}

/-- What is read from the texts of items is what the items say. -/
theorem filterMap_texts {α : Type} {part? : Item → Option α} {read? : List Char → Option α}
    (hread : ∀ item text, Written item text → read? text = part? item)
    (h : List.Forall₂ Written items texts) : texts.filterMap read? = items.filterMap part? := by
  induction h with
  | nil => rfl
  | cons hitem _ ih => simp only [List.filterMap_cons, hread _ _ hitem, ih]

/-- If one item passes a check, then so does one text, and it spells that item. -/
theorem filter_texts {check : Item → Bool} {checkText : List Char → Bool}
    (hcheck : ∀ item text, Written item text → checkText text = check item)
    (h : List.Forall₂ Written items texts) {item : Item} (honly : items.filter check = [item]) :
    ∃ text, texts.filter checkText = [text] ∧ Spelled item.document text := by
  -- what passes on one side stands in step with what passes on the other one
  have hfound : List.Forall₂ Written (items.filter check) (texts.filter checkText) :=
    List.rel_filter (fun item text hitem => Bool.coe_iff_coe.mpr (hcheck item text hitem).symm) h
  rw [honly] at hfound
  generalize texts.filter checkText = found at hfound ⊢
  cases hfound with
  | cons hitem hnil =>
    cases hnil
    exact ⟨_, rfl, hitem.2⟩

end Texts

/-! ## Files -/

/-- Behind its first lines, a file consists of the texts of its items, one after the other. -/
structure GeneratedFile.Consists (file : GeneratedFile) (items : List Item)
    (texts : List (List Char)) : Prop where
  contents_eq : file.contents.toList = Generation.header.toList ++ texts.flatten
  spelled : List.Forall₂ (fun item text => Spelled item.document text) items texts

/-- The function for a terminal is the only one of its name, and runs the terminal's matcher. -/
structure Recognizes (compile : Pattern.Compiler) (texts : List (List Char)) (terminal : Terminal)
    (name : String) : Prop where
  exists_function : ∃ matcher text,
    Matcher.ofRecognizer terminal.name terminal.recognizer compile = .ok matcher ∧
      texts.filter (fun text => functionName? text = some name) = [text] ∧
      Spelled (recognizerFunction name matcher).document text

/-- The texts of items hold the table of an automaton, with its sizes and with a function for each
terminal. -/
structure HoldsTable (compile : Pattern.Compiler) (texts : List (List Char))
    (symbols : SymbolTable) (table : ParseTable) : Prop where
  sizes : texts.filterMap constant? =
    [("TERMINAL_NO", .number symbols.terminals.length),
      ("NONTERMINAL_NO", .number symbols.nonterminals.length),
      ("STATE_NO", .number table.stateCount), ("MAX_ACTIONS", .number table.maxActions)]
  exists_tables : ∃ tables, Tables.read? texts = some tables ∧ tables.Shows symbols table ∧
    ∀ id terminal, symbols.terminal? id = some terminal →
      ∃ name, tables.recognizers[id.index]? = some name ∧ Recognizes compile texts terminal name

theorem GeneratedFile.exists_texts (name : String) (items : List Item) :
    ∃ texts, Consists ⟨name, Generation.header ++ Code.fileText items⟩ items texts := by
  obtain ⟨texts, htext, htexts⟩ := Code.spelled_fileText items
  exact ⟨texts, by rw [String.toList_append, htext], htexts⟩

namespace Blueprint.MadeFrom

variable {blueprint : Blueprint} {options : GenerationOptions} {grammar : Grammar}
variable {automaton : Automaton} {library : Library}
variable (made : blueprint.MadeFrom options grammar automaton library)

include made

theorem isPlainName_recognizers : ∀ name ∈ blueprint.names.recognizers, isPlainName name := by
  have derived := Artifact.derivedFrom made
  rw [derived.recognizers_eq]
  exact List.forall_mem_map.mpr fun kind hkind =>
    Code.isPlainName_recognizerName (derived.terminalKinds_usable kind hkind)

theorem readable_parserFile : ∀ item ∈ Artifact.parserFile blueprint, item.Readable := by
  have hendings : ∀ ending ∈ ["ParserDefinition", "LexerDefinition"], isPlainName ending := by
    decide
  refine Artifact.readable_parserFile (fun ending hending => ?_) made.isPlainName_recognizers
  obtain ⟨-, -, -, -, hword⟩ := Code.Reading.isPlainName_spec (hendings ending hending)
  exact Code.isPlainName_append (Code.isPlainName_of_isName made.stem_isName) hword

/-- The function of a terminal is found under its name. -/
theorem recognizes {texts : List (List Char)}
    (h : List.Forall₂ Written (Artifact.parserFile blueprint) texts) {id : TerminalId}
    {terminal : Terminal}
    (hterminal : blueprint.symbols.terminal? id = some terminal) :
    ∃ name, blueprint.names.recognizers[id.index]? = some name ∧
      Recognizes library.compile texts terminal name := by
  have hget : blueprint.symbols.terminals[id.index]? = some terminal := hterminal
  obtain ⟨hlt, rfl⟩ := List.getElem?_eq_some_iff.mp hget
  have derived := Artifact.derivedFrom made
  have hmatchers := forall₂_of_mapM_eq_ok made.matchers_eq
  -- terminals, their names and their matchers are in step, so one number leads to all three
  have hlength : blueprint.names.recognizers.length = blueprint.matchers.length :=
    derived.length_recognizers.trans hmatchers.length_eq
  have hmatcher : id.index < blueprint.matchers.length := hmatchers.length_eq ▸ hlt
  have hname : id.index < blueprint.names.recognizers.length := hlength ▸ hmatcher
  have hitem : recognizerFunction blueprint.names.recognizers[id.index]
      blueprint.matchers[id.index] ∈ Artifact.recognizerFunctions blueprint := by
    refine List.mem_map.mpr ⟨(_, _), ?_, rfl⟩
    exact List.mem_iff_getElem.mpr ⟨id.index, by rw [List.length_zip]; omega, List.getElem_zip⟩
  -- no other item has this name, so the text that is found is the one of the function
  have honly := Artifact.filter_functionName? derived.recognizers_nodup (Nat.le_of_eq hlength) hitem
  have hcheck : ∀ item text, Written item text →
      decide (functionName? text = some blueprint.names.recognizers[id.index]) =
        decide (item.functionName? = some blueprint.names.recognizers[id.index]) :=
    fun item text hwritten => by rw [Code.functionName?_text hwritten.1 hwritten.2]
  obtain ⟨text, htext, hspelled⟩ := filter_texts hcheck h honly
  exact ⟨_, List.getElem?_eq_getElem hname,
    ⟨_, text, hmatchers.get hlt hmatcher, htext, hspelled⟩⟩

/-- The parser file holds the table of the automaton. -/
theorem holdsTable {texts : List (List Char)}
    (h : List.Forall₂ (fun item text => Spelled item.document text)
      (Artifact.parserFile blueprint) texts) :
    HoldsTable library.compile texts blueprint.symbols blueprint.table := by
  have hitems : List.Forall₂ Written (Artifact.parserFile blueprint) texts :=
    (List.forall₂_and_left _ _).mpr ⟨made.readable_parserFile, h⟩
  -- texts are read as their items are, so it is enough to look at the items
  have hconstants : texts.filterMap constant? = _ :=
    (filterMap_texts (fun item text hitem => Code.constant?_text hitem.1 hitem.2) hitems).trans
      (Artifact.constants_parserFile blueprint)
  have hstatics : texts.filterMap Code.Reading.static? = _ :=
    (filterMap_texts (fun item text hitem => Code.static?_text hitem.1 hitem.2) hitems).trans
      (Artifact.statics_parserFile blueprint)
  refine ⟨hconstants, Artifact.tablesOf blueprint, ?_, Artifact.shows_tablesOf made, ?_⟩
  · rw [Tables.read?, hstatics]
    exact Artifact.ofDefinitions?_tables blueprint
  · exact fun id terminal hterminal => made.recognizes hitems hterminal

/-- The types file holds the kinds. -/
theorem holdsKinds {texts : List (List Char)}
    (h : List.Forall₂ (fun item text => Spelled item.document text)
      (Artifact.typesFile blueprint) texts) :
    HoldsKinds texts "TermKind" blueprint.names.terminalKinds ∧
      HoldsKinds texts "NonTermKind" blueprint.names.nonterminalKinds ∧
      HoldsKinds texts "ProdKind" blueprint.names.productionKinds := by
  have derived := Artifact.derivedFrom made
  exact Artifact.holdsKinds_typesFile
    (fun kind hkind => Code.isPlainName_of_usable (derived.terminalKinds_usable kind hkind))
    (fun kind hkind => Code.isPlainName_of_usable (derived.nonterminalKinds_usable kind hkind))
    (fun kind hkind => Code.isPlainName_of_usable (derived.productionKinds_usable kind hkind)) h

end Blueprint.MadeFrom

/-! ## Generated parsers -/

/-- **Generated tables**: the files of a generated parser consist of the texts of their items. Read
back from these, the sizes, the cells of all tables and the terminals with their recognizers are
those of the numbered grammar and of the table, and each kind has the number of its place, from which
it is found again. This is so whatever reads the paths and compiles the patterns. -/
theorem generate_holds {options : GenerationOptions} {grammar : Grammar} {automaton : Automaton}
    {library : Library} {generated : GeneratedParser}
    (h : (Generation.generate options grammar automaton library).result.1 = .ok generated) :
    ∃ (blueprint : Blueprint) (parserTexts typesTexts : List (List Char)),
      blueprint.MadeFrom options grammar automaton library ∧
      blueprint.UsableFor options library ∧
      generated.symbols = blueprint.symbols ∧ generated.table = blueprint.table ∧
      generated.parser.Consists (Artifact.parserFile blueprint) parserTexts ∧
      generated.types.Consists (Artifact.typesFile blueprint) typesTexts ∧
      HoldsTable library.compile parserTexts generated.symbols generated.table ∧
      HoldsKinds typesTexts "TermKind" blueprint.names.terminalKinds ∧
      HoldsKinds typesTexts "NonTermKind" blueprint.names.nonterminalKinds ∧
      HoldsKinds typesTexts "ProdKind" blueprint.names.productionKinds := by
  obtain ⟨blueprint, made, usable, rfl⟩ := Generation.exists_usable_blueprint h
  obtain ⟨parserTexts, hparser⟩ := GeneratedFile.exists_texts
    (Naming.snakeCase blueprint.typeStem ++ ".rs") (Artifact.parserFile blueprint)
  obtain ⟨typesTexts, htypes⟩ := GeneratedFile.exists_texts
    (Naming.snakeCase blueprint.typeStem ++ "_types.rs") (Artifact.typesFile blueprint)
  exact ⟨blueprint, parserTexts, typesTexts, made, usable, rfl, rfl, hparser, htypes,
    made.holdsTable hparser.spelled, made.holdsKinds htypes.spelled⟩

/-- The files of the parser of statements hold its tables. -/
theorem generate_holds_statements :
    (Generation.generate {} Statements.grammar Statements.automaton).result.1 =
        .ok Statements.blueprint.generated ∧
      ∃ parserTexts,
        Statements.blueprint.generated.parser.contents.toList =
          Generation.header.toList ++ parserTexts.flatten ∧
        HoldsTable Pattern.Program.ofPattern parserTexts Statements.symbols
          Statements.parser.table := by
  obtain ⟨_, parserTexts, _, -, -, -, -, hparser, -, hholds, -⟩ :=
    generate_holds Statements.generate_blueprint
  exact ⟨Statements.generate_blueprint, parserTexts, hparser.contents_eq, hholds⟩

end ParserFoundry
