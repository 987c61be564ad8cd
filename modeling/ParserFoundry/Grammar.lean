/-!
# Grammars

A grammar as an analysis engine hands it over: named terminals with their recognizers, named
nonterminals with their productions, and possibly the nonterminal that augments the grammar with
a start rule. Symbols refer to each other by name, and declaration order is significant because
all numbering follows it.
-/

namespace ParserFoundry

/-! ## Recognizers -/

/-- How a terminal matches input. -/
inductive Recognizer where
  /-- Matches exactly this text. -/
  | literal (text : String)
  /-- Matches this regular expression at the start of the remaining input. -/
  | pattern (source : String)
  /-- Matches only when no input remains. -/
  | endOfInput
deriving DecidableEq, Repr, Inhabited

/-- Why a loosely typed description of a recognizer is refused. -/
inductive ModelError where
  | unknownRecognizerKind (kind : String)
  | missingRecognizerValue (kind : String)
deriving DecidableEq, Repr

def ModelError.message : ModelError → String
  | .unknownRecognizerKind kind => "Unknown recognizer kind '" ++ kind ++ "'"
  | .missingRecognizerValue kind => "Recognizer of kind '" ++ kind ++ "' needs a value"

namespace Recognizer

/-- Read the description `kind`, `value?`: a literal and a pattern have two names each and need
a value, the end of input has two names and ignores the value. -/
def ofKind (kind : String) (value? : Option String) : Except ModelError Recognizer :=
  let valued (make : String → Recognizer) : Except ModelError Recognizer :=
    match value? with
    | some value => .ok (make value)
    | none => .error (.missingRecognizerValue kind)
  if kind = "literal" ∨ kind = "string" then valued .literal
  else if kind = "pattern" ∨ kind = "regex" then valued .pattern
  else if kind = "empty" ∨ kind = "eof" then .ok .endOfInput
  else .error (.unknownRecognizerKind kind)

/-- A token carries its text exactly when the text is not fixed by its terminal. -/
def hasPayload : Recognizer → Bool
  | .pattern _ => true
  | _ => false

/-- The text or pattern that the recognizer was given. -/
def source? : Recognizer → Option String
  | .literal text => some text
  | .pattern source => some source
  | .endOfInput => none

end Recognizer

/-! ## Symbols and productions -/

/-- A declared terminal. -/
structure Terminal where
  name : String
  recognizer : Recognizer
deriving DecidableEq, Repr, Inhabited

/-- A reference by name from the right-hand side of a production. -/
inductive SymbolRef where
  | terminal (name : String)
  | nonterminal (name : String)
deriving DecidableEq, Repr, Inhabited

def SymbolRef.name : SymbolRef → String
  | .terminal name => name
  | .nonterminal name => name

/-- One alternative of a nonterminal. -/
structure Production where
  rhs : List SymbolRef := []
deriving DecidableEq, Repr, Inhabited

/-- A declared nonterminal with its alternatives. -/
structure Nonterminal where
  name : String
  productions : List Production := []
deriving DecidableEq, Repr, Inhabited

/-! ## Whole grammars -/

/-- A grammar; `augmentedStart?` names the nonterminal that takes part in the automaton only. -/
structure Grammar where
  terminals : List Terminal := []
  nonterminals : List Nonterminal := []
  augmentedStart? : Option String := none
deriving DecidableEq, Repr, Inhabited

namespace Grammar

/-- Append a terminal. -/
def addTerminal (grammar : Grammar) (name : String) (recognizer : Recognizer) : Grammar :=
  { grammar with terminals := grammar.terminals ++ [⟨name, recognizer⟩] }

/-- Append a nonterminal. -/
def addNonterminal (grammar : Grammar) (name : String) (productions : List Production) : Grammar :=
  { grammar with nonterminals := grammar.nonterminals ++ [⟨name, productions⟩] }

/-- Mark `name` as the augmenting start nonterminal. -/
def augmentedBy (grammar : Grammar) (name : String) : Grammar :=
  { grammar with augmentedStart? := some name }

def isAugmentedStart (grammar : Grammar) (name : String) : Bool :=
  grammar.augmentedStart? = some name

/-- The nonterminals that generated code knows. -/
def coreNonterminals (grammar : Grammar) : List Nonterminal :=
  grammar.nonterminals.filter fun nonterminal => !grammar.isAugmentedStart nonterminal.name

end Grammar

end ParserFoundry
