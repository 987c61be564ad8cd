import ParserFoundry.Parser.Lexing
import ParserFoundry.Parser.Tree
/-!
# Running a Parser

A configuration holds the states that the parser has come through, the values of the symbols in
between, and the lookahead. A step makes one move. Whether an automaton makes sense is not assumed:
a move that cannot be made is a fault, which differs from an input that is rejected.
-/

namespace ParserFoundry

/-- Why a move cannot be made. -/
inductive ParseFault where
  /-- A production has more symbols than there are values. -/
  | stackUnderflow
  /-- A reduction leads nowhere. -/
  | noGoto (state : StateId) (nonterminal : NonterminalId)
  /-- A table or a list of handlers has no such entry. -/
  | missingEntry
  /-- The production's handler takes another number of values than its action. -/
  | arityMismatch
  /-- The values to reduce are not those of the production's symbols. -/
  | misshapenValues
  /-- The token ends inside a character. -/
  | cutCharacter
  /-- The input is accepted with no value or several. -/
  | unsettledResult
deriving DecidableEq, Repr

/-- The text of a fault that has one. -/
def ParseFault.message? : ParseFault → Option String
  | noGoto state nonterminal =>
    some ("No goto from state " ++ toString state.index ++ " on nonterminal " ++
      toString nonterminal.index)
  | misshapenValues => some "Invalid symbol parse stack data."
  | _ => none

/-- What a parser has come to between two moves. -/
structure Configuration where
  /-- The states, the current one first. -/
  states : List StateId
  /-- The values of the symbols between the states, the latest one first. -/
  values : List ParseTree
  /-- The bytes of the input up to the end of the last shifted token. -/
  position : Nat
  lookahead : Lookahead
deriving Repr

/-- How a run ends. -/
inductive ParseOutcome where
  | accepted (tree : ParseTree)
  /-- The input has an error at a byte. -/
  | rejected (position : Nat)
  | failed (fault : ParseFault)
  /-- The moves that were allowed did not suffice. -/
  | unfinished
deriving Repr

/-- What a move leads to. -/
inductive ParseStep where
  | next (configuration : Configuration)
  | done (outcome : ParseOutcome)
deriving Repr

namespace ChildShape

/-- Whether a value is one of the shape. -/
def admits : ChildShape → ParseTree → Bool
  | .discard expected, .token found lexeme? => expected = found && lexeme?.isNone
  | .terminal expected, .token found lexeme? => expected = found && lexeme?.isSome
  | .nonterminal expected, .node found _ _ => expected = found
  | _, _ => false

end ChildShape

namespace Parser

/-! ## Moves -/

/-- Read the next token in a state, or reject the input at `position`. -/
def readToken (parser : Parser) (states : List StateId) (values : List ParseTree)
    (state : StateId) (position : Nat) (rest : List Char) : ParseStep :=
  match parser.lookahead? state position rest with
  | none => .done (.rejected position)
  | some lookahead => .next ⟨states, values, position, lookahead⟩

/-- The configuration at the start of the input. -/
def begin_ (parser : Parser) (input : List Char) : ParseStep :=
  parser.readToken [⟨0⟩] [] ⟨0⟩ 0 input

/-- Shift the lookahead as `terminal` and go to `target`. -/
def shift (parser : Parser) (configuration : Configuration) (target : StateId)
    (terminal : TerminalId) : ParseStep :=
  let ahead := configuration.lookahead
  match splitBytes? ahead.length ahead.rest, parser.handlers.shift? terminal with
  | none, _ => .done (.failed .cutCharacter)
  | _, none => .done (.failed .missingEntry)
  | some (lexeme, rest), some handler =>
    -- The text is kept only if the action of a production may ask for it.
    let token := .token terminal (if handler.payload then some (String.ofList lexeme) else none)
    parser.readToken (target :: configuration.states) (token :: configuration.values) target
      (ahead.start + ahead.length) rest

/-- The states after `length` states are left and the goto on `nonterminal` is made. -/
def reduceStates (parser : Parser) (states : List StateId) (length : Nat)
    (nonterminal : NonterminalId) : Except ParseFault (List StateId) :=
  if states.length < length then .error .stackUnderflow
  else
    match states.drop length with
    | [] => .error .stackUnderflow
    | state :: below =>
      match parser.table.goto? state nonterminal with
      | none => .error .missingEntry
      | some none => .error (.noGoto state nonterminal)
      | some (some target) => .ok (target :: state :: below)

/-- The values after those of the production's symbols are made into one. -/
def reduceValues (parser : Parser) (values : List ParseTree) (production : ProductionId)
    (length : Nat) : Except ParseFault (List ParseTree) :=
  match parser.handlers.reduce? production with
  | none => .error .missingEntry
  | some handler =>
    if handler.arity ≠ length then .error .arityMismatch
    else if values.length < length then .error .stackUnderflow
    else
      -- Values are stacked latest first, while the children are in the order of the production.
      let children := handler.children.zip (values.take length).reverse
      if children.all fun (shape, value) => shape.admits value then
        let arguments := (children.filter fun child => child.1.isArgument).map Prod.snd
        .ok (.node handler.nonterminal production arguments :: values.drop length)
      else .error .misshapenValues

/-- Reduce a production. The lookahead stays. -/
def reduce (parser : Parser) (configuration : Configuration) (production : ProductionId)
    (length : Nat) (nonterminal : NonterminalId) : ParseStep :=
  -- The states are taken off before the values, so a missing goto is found first.
  match parser.reduceStates configuration.states length nonterminal with
  | .error fault => .done (.failed fault)
  | .ok states =>
    match parser.reduceValues configuration.values production length with
    | .error fault => .done (.failed fault)
    | .ok values => .next { configuration with states := states, values := values }

/-- Accept the input with the only value. -/
def accept (configuration : Configuration) : ParseOutcome :=
  match configuration.values with
  | [value] => .accepted value
  | _ => .failed .unsettledResult

/-- Make the move that the table says. -/
def step (parser : Parser) (configuration : Configuration) : ParseStep :=
  match configuration.states with
  | [] => .done (.failed .stackUnderflow)
  | state :: _ =>
    match parser.table.action? state configuration.lookahead.terminal with
    | none => .done (.failed .missingEntry)
    | some (.shift target terminal) => parser.shift configuration target terminal
    | some (.reduce production length nonterminal) =>
      parser.reduce configuration production length nonterminal
    | some .accept => .done (accept configuration)
    -- A move that cannot be made is reported where the lookahead starts, past the blanks.
    | some .error => .done (.rejected configuration.lookahead.start)

/-! ## Runs -/

/-- Make at most so many moves. -/
def run (parser : Parser) : Nat → ParseStep → ParseOutcome
  | _, .done outcome => outcome
  | 0, .next _ => .unfinished
  | moves + 1, .next configuration => parser.run moves (parser.step configuration)

/-- Parse the input with at most so many moves. -/
def parse (parser : Parser) (moves : Nat) (input : String) : ParseOutcome :=
  parser.run moves (parser.begin_ input.toList)

end Parser

end ParserFoundry
