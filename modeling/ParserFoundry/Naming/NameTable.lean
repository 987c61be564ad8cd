import ParserFoundry.Naming.Derive
import ParserFoundry.SymbolTable
/-!
# Name Tables

All names that are derived for a numbered grammar. A table exists only if every kind is an
identifier and no two names of a class are the same.
-/

namespace ParserFoundry

/-- Why no usable names can be derived. -/
inductive NamingError where
  /-- The source derives an empty name. -/
  | emptyIdentifier (source : String)
  /-- The source derives a name that is no identifier. -/
  | invalidIdentifier (source identifier : String)
  /-- Two sources derive the same name. -/
  | duplicateIdentifier (identifier first second : String)
deriving DecidableEq, Repr

def NamingError.message : NamingError → String
  | emptyIdentifier source => "Symbol '" ++ source ++ "' derives an empty identifier"
  | invalidIdentifier source identifier =>
    "Symbol '" ++ source ++ "' derives invalid identifier '" ++ identifier ++ "'"
  | duplicateIdentifier identifier first second =>
    "Symbols '" ++ first ++ "' and '" ++ second ++ "' both derive identifier '" ++ identifier ++ "'"

/-- The derived names, by terminal, nonterminal and production. -/
structure NameTable where
  terminalKinds : List String
  recognizers : List String
  nonterminalKinds : List String
  productionKinds : List String
  actions : List String
deriving DecidableEq, Repr

namespace NameTable

/-- A letter or an underscore, and then letters, digits and underscores, all of them ASCII. -/
def isIdentifier : List Char → Bool
  | [] => false
  | c :: rest => (c.isAlpha || c == '_') && rest.all fun d => d.isAlphanum || d == '_'

/-- The words that can never serve as identifiers. -/
def reserved : List String := ["Self", "self", "super", "crate"]

/-- Accept the name derived from a source if it is a usable identifier. -/
def checkIdentifier (source identifier : String) : Except NamingError String :=
  if identifier.isEmpty then .error (.emptyIdentifier source)
  else if !isIdentifier identifier.toList || reserved.contains identifier then
    .error (.invalidIdentifier source identifier)
  else .ok identifier

/-- Accept names, each paired with its source, if no two are the same. A repeated name is reported
with its two nearest sources; `seen` is what came before, the last one first. -/
def checkUnique (seen : List (String × String)) :
    List (String × String) → Except NamingError Unit
  | [] => .ok ()
  | (name, source) :: rest =>
    match seen.lookup name with
    | some earlier => .error (.duplicateIdentifier name earlier source)
    | none => checkUnique ((name, source) :: seen) rest

/-- Derive all names of a numbered grammar. -/
def ofSymbols (symbols : SymbolTable) : Except NamingError NameTable := do
  let terminals := symbols.terminals.map Terminal.name
  let terminalKinds ← terminals.mapM fun name =>
    checkIdentifier name (Naming.terminalKind name)
  checkUnique [] (terminalKinds.zip terminals)
  -- Made of a kind that has been checked, a recognizer's name is an identifier too.
  let recognizers := terminalKinds.map Naming.recognizerName
  checkUnique [] (recognizers.zip terminals)
  let nonterminals := symbols.nonterminals
  let nonterminalKinds ← nonterminals.mapM fun name =>
    checkIdentifier name (Naming.nonterminalKind name)
  checkUnique [] (nonterminalKinds.zip nonterminals)
  let productions := symbols.productions.map fun production =>
    ((symbols.nonterminalName? production.nonterminal).getD "", production.ordinal)
  let sources := productions.map fun (name, ordinal) => name ++ "P" ++ toString ordinal
  let productionKinds ← productions.mapM fun (name, ordinal) =>
    checkIdentifier (name ++ "P" ++ toString ordinal) (Naming.productionKind name ordinal)
  checkUnique [] (productionKinds.zip sources)
  -- Casing may join names of productions that their kinds keep apart, so actions are checked again.
  let actions := productionKinds.map Naming.actionName
  checkUnique [] (actions.zip sources)
  return ⟨terminalKinds, recognizers, nonterminalKinds, productionKinds, actions⟩

end NameTable

end ParserFoundry
