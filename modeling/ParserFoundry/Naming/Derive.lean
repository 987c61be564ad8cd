import ParserFoundry.Naming.Case
/-!
# Derived Names

The names that generated code has for the parts of a grammar: kinds in camel case, functions in
snake case, and fixed words for the punctuation that makes no identifier.
-/

namespace ParserFoundry.Naming

/-- The kinds of terminals that are named by punctuation. -/
def punctuation : List (String × String) :=
  [(";", "SemiColon"),
   (":", "Colon"),
   ("\x7b", "OBrace"),
   ("\x7d", "CBrace"),
   ("|", "Bar"),
   (",", "Comma"),
   ("=", "Equals"),
   ("?=", "QEquals"),
   ("(", "OBracket"),
   (")", "CBracket"),
   ("*", "Asterisk"),
   ("*!", "AsteriskGready"),
   ("+", "Plus"),
   ("+!", "PlusGready"),
   ("?", "Question"),
   ("?!", "QuestionGready"),
   ("[", "OSquare"),
   ("]", "CSquare"),
   ("/*", "OComment"),
   ("*/", "CComment")]

/-- The kind of a terminal. -/
def terminalKind (name : String) : String :=
  match punctuation.lookup name with
  | some kind => kind
  | none => camelCase name

/-- The kind of a nonterminal. -/
def nonterminalKind (name : String) : String :=
  camelCase name

/-- The kind of production number `ordinal` of a nonterminal. -/
def productionKind (name : String) (ordinal : Nat) : String :=
  camelCase name ++ "P" ++ toString ordinal

/-- The semantic action of productions of a kind. -/
def actionName (productionKind : String) : String :=
  snakeCase productionKind

/-- The function that recognizes terminals of a kind. -/
def recognizerName (terminalKind : String) : String :=
  "recognize_" ++ snakeCase terminalKind

end ParserFoundry.Naming
