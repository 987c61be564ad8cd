import ParserFoundry.ByteLength
import ParserFoundry.Handler
import ParserFoundry.Matcher
import ParserFoundry.Table.ParseTable
import ParserFoundry.Unicode.Property
/-!
# Lexing

A parser asks for its next token in the state that it is in: blanks are skipped, and the first
expected terminal that is recognized is the lookahead. Places in the input are counted in bytes.
-/

namespace ParserFoundry

/-- The first `bytes` bytes of a text and what follows them, unless that cuts a character. -/
def splitBytes? : Nat → List Char → Option (List Char × List Char)
  | 0, text => some ([], text)
  | _ + 1, [] => none
  | bytes, c :: rest =>
    if c.utf8Size ≤ bytes then
      (splitBytes? (bytes - c.utf8Size) rest).map fun (first, rest) => (c :: first, rest)
    else none

/-- Whether a character separates tokens. -/
def isBlank (c : Char) : Bool :=
  Unicode.whiteSpace.contains c.toNat

/-- A recognized token that is not shifted yet. -/
structure Lookahead where
  terminal : TerminalId
  /-- The byte at which the token starts. -/
  start : Nat
  /-- How many bytes it takes. -/
  length : Nat
  /-- The input from the start of the token on. -/
  rest : List Char
deriving Repr

/-- All that a parser is made of. -/
structure Parser where
  table : ParseTable
  matchers : List Matcher
  handlers : Handlers

namespace Parser

/-- Try the terminals in order and take the first one that is recognized. -/
def recognizeFirst? (parser : Parser) (input : List Char) :
    List TerminalId → Option (TerminalId × List Char)
  | [] => none
  | terminal :: rest =>
    match parser.matchers[terminal.index]?.bind fun matcher => matcher.recognize? input with
    | some lexeme => some (terminal, lexeme)
    | none => parser.recognizeFirst? input rest

/-- The next token in a state, where `rest` is the input from the byte `position` on. -/
def lookahead? (parser : Parser) (state : StateId) (position : Nat) (rest : List Char) :
    Option Lookahead := do
  let start := position + byteLength (rest.takeWhile isBlank)
  let rest := rest.dropWhile isBlank
  let expected := (parser.table.expected state).filterMap id
  let (terminal, lexeme) ← parser.recognizeFirst? rest expected
  return ⟨terminal, start, byteLength lexeme, rest⟩

end Parser

end ParserFoundry
