import ParserFoundry.SymbolTable
/-!
# Handlers

What a generated builder does with its stack of values. Shifting a terminal pushes a value;
reducing a production pops one value per symbol, hands those that carry information to the
production's action, and pushes the result.
-/

namespace ParserFoundry

/-- How a shifted terminal becomes a value. -/
structure ShiftHandler where
  terminal : TerminalId
  /-- Whether the value carries the matched text. -/
  payload : Bool
deriving DecidableEq, Repr, Inhabited

/-- The value that a reduction expects for one symbol. -/
inductive ChildShape where
  /-- A terminal without text: its place says all there is to know, and it is dropped. -/
  | discard (terminal : TerminalId)
  /-- A terminal with text, an argument of the action. -/
  | terminal (terminal : TerminalId)
  /-- A nonterminal, an argument of the action. -/
  | nonterminal (nonterminal : NonterminalId)
deriving DecidableEq, Repr, Inhabited

def ChildShape.isArgument : ChildShape → Bool
  | .discard _ => false
  | _ => true

/-- How the values of a production become one. -/
structure ReduceHandler where
  production : ProductionId
  nonterminal : NonterminalId
  /-- One shape for each symbol of the right-hand side, in order. -/
  children : List ChildShape
deriving DecidableEq, Repr, Inhabited

namespace ReduceHandler

/-- How many values are popped. -/
def arity (handler : ReduceHandler) : Nat :=
  handler.children.length

/-- How many arguments the action takes. -/
def argumentCount (handler : ReduceHandler) : Nat :=
  handler.children.countP ChildShape.isArgument

end ReduceHandler

/-- The handlers of a grammar, by terminal and by production. -/
structure Handlers where
  shifts : List ShiftHandler
  reduces : List ReduceHandler
deriving DecidableEq, Repr, Inhabited

namespace Handlers

/-- The shape of the value of a symbol. -/
def shapeOf (symbols : SymbolTable) : Symbol → ChildShape
  | .terminal id => if symbols.hasPayload id then .terminal id else .discard id
  | .nonterminal id => .nonterminal id

/-- The handlers of a numbered grammar. -/
def ofSymbols (symbols : SymbolTable) : Handlers where
  shifts := symbols.terminals.mapIdx fun i terminal => ⟨⟨i⟩, terminal.recognizer.hasPayload⟩
  reduces := symbols.productions.mapIdx fun i production =>
    ⟨⟨i⟩, production.nonterminal, production.rhs.map (shapeOf symbols)⟩

def shift? (handlers : Handlers) (id : TerminalId) : Option ShiftHandler :=
  handlers.shifts[id.index]?

def reduce? (handlers : Handlers) (id : ProductionId) : Option ReduceHandler :=
  handlers.reduces[id.index]?

end Handlers

end ParserFoundry
