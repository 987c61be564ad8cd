import ParserFoundry.Pattern.Search
import ParserFoundry.SymbolTable
/-!
# Matchers

Recognizers that are ready to run: literals that are not empty, and patterns as programs. A
pattern is wrapped so that its alternatives are tried at the start of the input as a whole. Its
program may be made by any compiler of patterns; the one of this library lacks the properties of
characters that name an age or a kind of break.
-/

namespace ParserFoundry

/-- Makes the programs of patterns. -/
abbrev Pattern.Compiler := String → Except Pattern.BuildError Pattern.Program

/-- The pattern that matches only at the start of the input. -/
def Pattern.anchored (pattern : String) : String :=
  "\\A(?:" ++ pattern ++ ")"

/-- An executable recognizer. -/
inductive Matcher where
  | literal (text : String)
  | pattern (source : String) (program : Pattern.Program)
  | endOfInput
deriving Repr, Inhabited

/-- Why a recognizer cannot be made executable. -/
inductive MatcherError where
  /-- The terminal's literal is empty. -/
  | emptyLiteral (terminal : String)
  /-- The terminal's pattern is unusable. -/
  | invalidPattern (terminal : String) (cause : Pattern.BuildError)
deriving DecidableEq, Repr

def MatcherError.message : MatcherError → String
  | emptyLiteral terminal => "Terminal '" ++ terminal ++ "' has an empty literal recognizer"
  | invalidPattern terminal cause =>
    "Invalid pattern for terminal '" ++ terminal ++ "': " ++ cause.message

namespace Matcher

/-- Make the recognizer of `terminal` executable. -/
def ofRecognizer (terminal : String) (recognizer : Recognizer)
    (compile : Pattern.Compiler := Pattern.Program.ofPattern) : Except MatcherError Matcher :=
  match recognizer with
  | .literal text => if text.isEmpty then .error (.emptyLiteral terminal) else .ok (.literal text)
  | .pattern source =>
    match compile (Pattern.anchored source) with
    | .ok program => .ok (.pattern source program)
    | .error cause => .error (.invalidPattern terminal cause)
  | .endOfInput => .ok .endOfInput

/-- The text that the recognizer matches in the input. -/
def recognize? (matcher : Matcher) (input : List Char) : Option (List Char) :=
  match matcher with
  | literal text => if text.toList.isPrefixOf input then some text.toList else none
  | pattern _ program =>
    (program.find? input).map fun (start, stop) => (input.drop start).take (stop - start)
  | endOfInput => if input.isEmpty then some [] else none

/-- Whether a match carries its text. -/
def hasPayload : Matcher → Bool
  | pattern .. => true
  | _ => false

/-- The matchers of all terminals, in order. -/
def ofSymbols (symbols : SymbolTable) (compile : Pattern.Compiler := Pattern.Program.ofPattern) :
    Except MatcherError (List Matcher) :=
  symbols.terminals.mapM fun terminal => ofRecognizer terminal.name terminal.recognizer compile

end Matcher

end ParserFoundry
