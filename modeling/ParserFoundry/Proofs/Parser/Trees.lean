import ParserFoundry.Proofs.Parser.Cells
import ParserFoundry.Proofs.Parser.Steps
/-!
# Well-Formed Trees

The trees of a numbered grammar, and the terminals that they stand for. A node keeps the values of
those symbols of its production that are arguments; the other symbols are terminals without text,
and their places say all there is to know about them.

Main results:
- `WellFormed.admits_iff`: a well-formed value has the shape of a symbol when it is a value of it.
- `wellFormed_reduced`: reducing the values of a production's symbols makes a well-formed tree.
- `leaves_reduced`: the reduced tree stands for the same terminals as the values.
-/

namespace ParserFoundry

/-! ## Trees of a grammar -/

/-- Whether the value of a symbol is handed to actions: terminals without text are not. -/
def SymbolTable.isArgument (symbols : SymbolTable) : Symbol → Bool
  | .terminal id => symbols.hasPayload id
  | .nonterminal _ => true

@[simp]
theorem SymbolTable.isArgument_terminal (symbols : SymbolTable) (id : TerminalId) :
    symbols.isArgument (.terminal id) = symbols.hasPayload id := rfl

@[simp]
theorem SymbolTable.isArgument_nonterminal (symbols : SymbolTable) (id : NonterminalId) :
    symbols.isArgument (.nonterminal id) = true := rfl

/-- A leaf of a tree: a terminal, with its text if the terminal carries it. -/
structure Leaf where
  terminal : TerminalId
  lexeme? : Option String
deriving DecidableEq, Repr

namespace ParseTree

@[simp]
theorem symbol_token (terminal : TerminalId) (lexeme? : Option String) :
    (token terminal lexeme?).symbol = .terminal terminal := rfl

@[simp]
theorem symbol_node (nonterminal : NonterminalId) (production : ProductionId)
    (children : List ParseTree) :
    (node nonterminal production children).symbol = .nonterminal nonterminal := rfl

/-- A tree of the grammar: a token carries its text exactly if its terminal does, and the children
of a node are, in order, values of the argument symbols of its production. -/
inductive WellFormed (symbols : SymbolTable) : ParseTree → Prop where
  | token {terminal : TerminalId} {lexeme? : Option String} :
      symbols.Numbers (.terminal terminal) →
      lexeme?.isSome = symbols.hasPayload terminal →
      WellFormed symbols (.token terminal lexeme?)
  | node {nonterminal : NonterminalId} {production : ProductionId} {children : List ParseTree}
      {entry : NumberedProduction} :
      symbols.production? production = some entry →
      nonterminal = entry.nonterminal →
      children.map symbol = entry.rhs.filter symbols.isArgument →
      (∀ child ∈ children, WellFormed symbols child) →
      WellFormed symbols (.node nonterminal production children)

/-- Lay leaves along a right-hand side: those of one argument after the other, with the terminals
that are no arguments in their places. -/
def fillIn (symbols : SymbolTable) : List Symbol → List (List Leaf) → List Leaf
  | [], _ => []
  | .nonterminal _ :: rhs, arguments => arguments.headD [] ++ fillIn symbols rhs arguments.tail
  | .terminal id :: rhs, arguments =>
    if symbols.hasPayload id then arguments.headD [] ++ fillIn symbols rhs arguments.tail
    else ⟨id, none⟩ :: fillIn symbols rhs arguments

mutual

/-- The leaves of a tree from left to right, with the terminals that its nodes do not keep in
their places. -/
def leaves (symbols : SymbolTable) : ParseTree → List Leaf
  | token terminal lexeme? => [⟨terminal, lexeme?⟩]
  | node _ production children =>
    fillIn symbols (((symbols.production? production).map NumberedProduction.rhs).getD [])
      (leavesOfAll symbols children)

/-- The leaves of each tree. -/
def leavesOfAll (symbols : SymbolTable) : List ParseTree → List (List Leaf)
  | [] => []
  | tree :: rest => leaves symbols tree :: leavesOfAll symbols rest

end

@[simp]
theorem leavesOfAll_eq_map (symbols : SymbolTable) (trees : List ParseTree) :
    leavesOfAll symbols trees = trees.map (leaves symbols) := by
  induction trees with
  | nil => simp [leavesOfAll]
  | cons tree rest ih => simp [leavesOfAll, ih]

variable {symbols : SymbolTable}

/-! ## Shapes -/

/-- A well-formed value has the shape of a symbol exactly when it is a value of that symbol. -/
theorem WellFormed.admits_iff {tree : ParseTree} (h : tree.WellFormed symbols) (expected : Symbol) :
    (Handlers.shapeOf symbols expected).admits tree = true ↔ tree.symbol = expected := by
  cases h with
  | @token found lexeme? hnumbers htext =>
    -- the text of a token is that of its terminal, and so is the text that the shape asks for
    cases expected with
    | nonterminal id => simp [Handlers.shapeOf, ChildShape.admits, symbol]
    | terminal id =>
      cases hpayload : symbols.hasPayload id <;> cases lexeme? <;>
        simp only [Handlers.shapeOf, hpayload, ChildShape.admits, symbol] <;> grind
  | node hentry hnonterminal hchildren hall =>
    cases expected with
    | nonterminal id => simp [Handlers.shapeOf, ChildShape.admits, symbol, eq_comm]
    | terminal id =>
      cases hpayload : symbols.hasPayload id <;>
        simp [Handlers.shapeOf, hpayload, ChildShape.admits, symbol]

@[simp]
theorem isArgument_shapeOf (symbols : SymbolTable) (X : Symbol) :
    (Handlers.shapeOf symbols X).isArgument = symbols.isArgument X := by
  cases X with
  | nonterminal id => rfl
  | terminal id =>
    cases hpayload : symbols.hasPayload id <;>
      simp [Handlers.shapeOf, SymbolTable.isArgument, ChildShape.isArgument, hpayload]

/-- As many well-formed values as a right-hand side has symbols have its shapes exactly when they are
values of its symbols. -/
theorem admitted_iff {rhs : List Symbol} {values : List ParseTree}
    (hvalues : ∀ value ∈ values, value.WellFormed symbols) (hlength : rhs.length = values.length) :
    (∀ child ∈ (rhs.map (Handlers.shapeOf symbols)).zip values, child.1.admits child.2 = true) ↔
      values.map symbol = rhs := by
  -- symbol by symbol; the lengths keep the two lists together
  induction rhs generalizing values with
  | nil =>
    obtain rfl := List.length_eq_zero_iff.mp hlength.symm
    simp
  | cons expected rhs ih =>
    cases values with
    | nil => cases hlength
    | cons value rest =>
      simp only [List.length_cons, Nat.add_right_cancel_iff] at hlength
      have hrest := ih (fun other hother => hvalues other (List.mem_cons_of_mem _ hother)) hlength
      have hvalue := (hvalues value (List.mem_cons_self ..)).admits_iff expected
      simp only [List.map_cons, List.zip_cons_cons, List.forall_mem_cons, hvalue, hrest,
        List.cons.injEq]

/-! ## Reducing values -/

/-- The arguments of a production's action are the values of its argument symbols. -/
theorem arguments_eq {handler : ReduceHandler} {values : List ParseTree}
    (hchildren : handler.children = (values.map symbol).map (Handlers.shapeOf symbols)) :
    handler.arguments values = values.filter fun value => symbols.isArgument value.symbol := by
  -- the shapes say what an argument is, and they have been made from the symbols of the values
  rw [ReduceHandler.arguments, hchildren]
  clear hchildren
  induction values with
  | nil => rfl
  | cons value rest ih =>
    rw [List.map_cons, List.map_cons, List.zip_cons_cons, List.filter_cons, List.filter_cons,
      isArgument_shapeOf, ← ih]
    split <;> simp

/-- Reducing well-formed values of a production's symbols makes a well-formed tree. -/
theorem wellFormed_reduced {values : List ParseTree} {production : ProductionId}
    {entry : NumberedProduction} (hvalues : ∀ value ∈ values, value.WellFormed symbols)
    (hentry : symbols.production? production = some entry)
    (hsymbols : values.map symbol = entry.rhs) :
    (node entry.nonterminal production
      (values.filter fun value => symbols.isArgument value.symbol)).WellFormed symbols := by
  refine .node hentry rfl ?_ ?_
  -- the arguments are kept in the order in which their symbols stand
  · rw [← hsymbols, List.filter_map]
    rfl
  · exact fun child hchild => hvalues child (List.mem_of_mem_filter hchild)

/-- Laying the leaves of the arguments along their right-hand side gives the leaves of all values:
the values left out are terminals without text. -/
theorem fillIn_arguments {values : List ParseTree}
    (hvalues : ∀ value ∈ values, value.WellFormed symbols) :
    fillIn symbols (values.map symbol)
        ((values.filter fun value => symbols.isArgument value.symbol).map (leaves symbols)) =
      values.flatMap (leaves symbols) := by
  induction values with
  | nil => rfl
  | cons value rest ih =>
    have hrest := ih fun other hother => hvalues other (List.mem_cons_of_mem _ hother)
    -- nonterminals are arguments, and so are terminals with a text
    cases hvalues value (List.mem_cons_self ..) with
    | node hentry hnonterminal hchildren hall =>
      rw [List.filter_cons_of_pos (by simp)]
      simp [fillIn, hrest]
    | @token terminal lexeme? hnumbers htext =>
      cases hpayload : symbols.hasPayload terminal with
      | true =>
        rw [List.filter_cons_of_pos (by simp [hpayload])]
        simp [fillIn, hpayload, hrest]
      | false =>
        -- the value has been dropped; the symbol puts its leaf back
        rw [hpayload, Option.isSome_eq_false_iff, Option.isNone_iff_eq_none] at htext
        rw [List.filter_cons_of_neg (by simp [hpayload])]
        simp [fillIn, hpayload, hrest, htext, leaves]

/-- The tree that reduced values make stands for the same terminals as the values do. -/
theorem leaves_reduced {values : List ParseTree} {production : ProductionId}
    {entry : NumberedProduction} (hvalues : ∀ value ∈ values, value.WellFormed symbols)
    (hentry : symbols.production? production = some entry)
    (hsymbols : values.map symbol = entry.rhs) :
    (node entry.nonterminal production
      (values.filter fun value => symbols.isArgument value.symbol)).leaves symbols =
        values.flatMap (leaves symbols) := by
  simp only [leaves, leavesOfAll_eq_map, hentry, Option.map_some, Option.getD_some, ← hsymbols]
  exact fillIn_arguments hvalues

end ParseTree

end ParserFoundry
