import ParserFoundry.Automaton
import ParserFoundry.Grammar
import ParserFoundry.Json.Reader
import ParserFoundry.Json.Shape
/-!
# Models as JSON

The exchange form of grammars and automata: an encoder and a decoder for every type. Records have
their fields in a fixed order.
-/

namespace ParserFoundry

open Json (asCount? asString? asList? asPair? fields? optionalField? variant? hasNoContent
  plainVariant fullVariant record)

/-! ## Numbers -/

def TerminalId.toJson (id : TerminalId) : Json := .ofNat id.index
def NonterminalId.toJson (id : NonterminalId) : Json := .ofNat id.index
def ProductionId.toJson (id : ProductionId) : Json := .ofNat id.index
def StateId.toJson (id : StateId) : Json := .ofNat id.index

def TerminalId.ofJson? (json : Json) : Option TerminalId := (asCount? json).map TerminalId.mk
def NonterminalId.ofJson? (json : Json) : Option NonterminalId := (asCount? json).map NonterminalId.mk
def ProductionId.ofJson? (json : Json) : Option ProductionId := (asCount? json).map ProductionId.mk
def StateId.ofJson? (json : Json) : Option StateId := (asCount? json).map StateId.mk

namespace Symbol

def toJson : Symbol → Json
  | nonterminal id => fullVariant "NonTerm" id.toJson
  | terminal id => fullVariant "Term" id.toJson

def ofJson? (json : Json) : Option Symbol := do
  match ← variant? json with
  | ("NonTerm", some content) => return nonterminal (← NonterminalId.ofJson? content)
  | ("Term", some content) => return terminal (← TerminalId.ofJson? content)
  | _ => none

end Symbol

/-! ## Grammars -/

namespace Recognizer

def toJson : Recognizer → Json
  | literal text => fullVariant "Literal" (.ofString text)
  | pattern source => fullVariant "Pattern" (.ofString source)
  | endOfInput => plainVariant "Empty"

def ofJson? (json : Json) : Option Recognizer := do
  match ← variant? json with
  | ("Literal", some content) => return literal (← asString? content)
  | ("Pattern", some content) => return pattern (← asString? content)
  | ("Empty", content?) => if hasNoContent content? then some endOfInput else none
  | _ => none

end Recognizer

namespace Terminal

def toJson (terminal : Terminal) : Json :=
  record [("name", .ofString terminal.name), ("recognizer", terminal.recognizer.toJson)]

def ofJson? (json : Json) : Option Terminal := do
  let [some name, some recognizer] ← fields? ["name", "recognizer"] json | none
  return ⟨← asString? name, ← Recognizer.ofJson? recognizer⟩

end Terminal

namespace SymbolRef

def toJson : SymbolRef → Json
  | terminal name => fullVariant "Terminal" (.ofString name)
  | nonterminal name => fullVariant "NonTerminal" (.ofString name)

def ofJson? (json : Json) : Option SymbolRef := do
  match ← variant? json with
  | ("Terminal", some content) => return terminal (← asString? content)
  | ("NonTerminal", some content) => return nonterminal (← asString? content)
  | _ => none

end SymbolRef

namespace Production

def toJson (production : Production) : Json :=
  record [("rhs", .ofList SymbolRef.toJson production.rhs)]

def ofJson? (json : Json) : Option Production := do
  let [some rhs] ← fields? ["rhs"] json | none
  return ⟨← asList? SymbolRef.ofJson? rhs⟩

end Production

namespace Nonterminal

def toJson (nonterminal : Nonterminal) : Json :=
  record [("name", .ofString nonterminal.name),
    ("productions", .ofList Production.toJson nonterminal.productions)]

def ofJson? (json : Json) : Option Nonterminal := do
  let [some name, some productions] ← fields? ["name", "productions"] json | none
  return ⟨← asString? name, ← asList? Production.ofJson? productions⟩

end Nonterminal

namespace Grammar

def toJson (grammar : Grammar) : Json :=
  record [("terminals", .ofList Terminal.toJson grammar.terminals),
    ("nonterminals", .ofList Nonterminal.toJson grammar.nonterminals),
    ("augmented_start", .ofOption Json.ofString grammar.augmentedStart?)]

def ofJson? (json : Json) : Option Grammar := do
  let [some terminals, some nonterminals, start?] ←
    fields? ["terminals", "nonterminals", "augmented_start"] json | none
  return ⟨← asList? Terminal.ofJson? terminals, ← asList? Nonterminal.ofJson? nonterminals,
    ← optionalField? asString? start?⟩

end Grammar

/-! ## Automata -/

namespace ProductionRef

def toJson (production : ProductionRef) : Json :=
  record [("nonterminal", .ofString production.nonterminal), ("ordinal", .ofNat production.ordinal)]

def ofJson? (json : Json) : Option ProductionRef := do
  let [some nonterminal, some ordinal] ← fields? ["nonterminal", "ordinal"] json | none
  return ⟨← asString? nonterminal, ← asCount? ordinal⟩

end ProductionRef

namespace Move

def toJson : Move → Json
  | shift target => fullVariant "Shift" target.toJson
  | reduce production => fullVariant "Reduce" production.toJson
  | accept => plainVariant "Accept"

def ofJson? (json : Json) : Option Move := do
  match ← variant? json with
  | ("Shift", some content) => return shift (← StateId.ofJson? content)
  | ("Reduce", some content) => return reduce (← ProductionRef.ofJson? content)
  | ("Accept", content?) => if hasNoContent content? then some accept else none
  | _ => none

end Move

namespace State

def toJson (state : State) : Json :=
  record [("symbol", .ofOption Json.ofString state.symbol?),
    ("actions", .ofList (fun (name, moves) =>
      .array [.ofString name, .ofList Move.toJson moves]) state.actions),
    ("gotos", .ofList (fun (name, target) =>
      .array [.ofString name, target.toJson]) state.gotos)]

def ofJson? (json : Json) : Option State := do
  let [symbol?, some actions, some gotos] ← fields? ["symbol", "actions", "gotos"] json | none
  return ⟨← optionalField? asString? symbol?,
    ← asList? (asPair? asString? (asList? Move.ofJson?)) actions,
    ← asList? (asPair? asString? StateId.ofJson?) gotos⟩

end State

namespace Automaton

def toJson (automaton : Automaton) : Json :=
  record [("states", .ofList State.toJson automaton.states)]

def ofJson? (json : Json) : Option Automaton := do
  let [some states] ← fields? ["states"] json | none
  return ⟨← asList? State.ofJson? states⟩

end Automaton

end ParserFoundry
