import ParserFoundry.Numbering
/-!
# Parse Trees

What a parser makes of its input: a token for every terminal whose place in its production does
not say all there is to know, and a node for every reduction.
-/

namespace ParserFoundry

/-- A parse tree. -/
inductive ParseTree where
  /-- A shifted terminal, with its text if the terminal carries it. -/
  | token (terminal : TerminalId) (lexeme? : Option String)
  /-- A reduced production, with the values of those of its symbols that are arguments. -/
  | node (nonterminal : NonterminalId) (production : ProductionId) (children : List ParseTree)
deriving Repr, Inhabited

namespace ParseTree

/-- The symbol that the tree is a value of. -/
def symbol : ParseTree → Symbol
  | token terminal _ => .terminal terminal
  | node nonterminal _ _ => .nonterminal nonterminal

end ParseTree

end ParserFoundry
