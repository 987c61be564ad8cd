/-!
# Faults of Patterns

Where a pattern goes wrong and why, and the report of it: the pattern with the faulty stretches
underlined, followed by the cause. Lines and columns count characters from 1.
-/

namespace ParserFoundry.Pattern

/-! ## Positions -/

/-- A place in a pattern. -/
structure Position where
  line : Nat := 1
  column : Nat := 1
deriving DecidableEq, Repr, Inhabited

/-- The stretch from `start` up to but not including `stop`. -/
structure Span where
  start : Position
  stop : Position
deriving DecidableEq, Repr, Inhabited

/-- The position after a character at `position`. -/
def Position.after (position : Position) (c : Char) : Position :=
  if c = '\n' then ⟨position.line + 1, 1⟩ else ⟨position.line, position.column + 1⟩

/-- The empty stretch at a position. -/
def Position.here (position : Position) : Span :=
  ⟨position, position⟩

def Span.isOneLine (span : Span) : Bool :=
  span.start.line == span.stop.line

/-! ## Causes -/

/-- What can be wrong with a pattern. -/
inductive Cause where
  | classEscapeInvalid
  | classRangeInvalid
  | classRangeLiteral
  | classUnclosed
  | decimalEmpty
  | decimalInvalid
  | escapeHexEmpty
  | escapeHexInvalid
  | escapeHexInvalidDigit
  | escapeUnexpectedEnd
  | escapeUnrecognized
  | flagDanglingNegation
  | flagDuplicate (earlier : Span)
  | flagRepeatedNegation (earlier : Span)
  | flagUnexpectedEnd
  | flagUnrecognized
  | groupNameDuplicate (earlier : Span)
  | groupNameEmpty
  | groupNameInvalid
  | groupNameUnexpectedEnd
  | groupUnclosed
  | groupUnopened
  | nestLimitExceeded (limit : Nat)
  | repetitionCountInvalid
  | repetitionCountDecimalEmpty
  | repetitionCountUnclosed
  | repetitionMissing
  | specialWordBoundaryUnclosed
  | specialWordBoundaryUnrecognized
  | specialWordOrRepetitionUnexpectedEnd
  | unicodeClassInvalid
  | unsupportedBackreference
  | unsupportedLookAround
  | unicodeNotAllowed
  | invalidUtf8
  | unicodePropertyNotFound
  | unicodePropertyValueNotFound
deriving DecidableEq, Repr

namespace Cause

def message : Cause → String
  | classEscapeInvalid => "invalid escape sequence found in character class"
  | classRangeInvalid => "invalid character class range, the start must be <= the end"
  | classRangeLiteral => "invalid range boundary, must be a literal"
  | classUnclosed => "unclosed character class"
  | decimalEmpty => "decimal literal empty"
  | decimalInvalid => "decimal literal invalid"
  | escapeHexEmpty => "hexadecimal literal empty"
  | escapeHexInvalid => "hexadecimal literal is not a Unicode scalar value"
  | escapeHexInvalidDigit => "invalid hexadecimal digit"
  | escapeUnexpectedEnd => "incomplete escape sequence, reached end of pattern prematurely"
  | escapeUnrecognized => "unrecognized escape sequence"
  | flagDanglingNegation => "dangling flag negation operator"
  | flagDuplicate _ => "duplicate flag"
  | flagRepeatedNegation _ => "flag negation operator repeated"
  | flagUnexpectedEnd => "expected flag but got end of regex"
  | flagUnrecognized => "unrecognized flag"
  | groupNameDuplicate _ => "duplicate capture group name"
  | groupNameEmpty => "empty capture group name"
  | groupNameInvalid => "invalid capture group character"
  | groupNameUnexpectedEnd => "unclosed capture group name"
  | groupUnclosed => "unclosed group"
  | groupUnopened => "unopened group"
  | nestLimitExceeded limit =>
    "exceed the maximum number of nested parentheses/brackets (" ++ toString limit ++ ")"
  | repetitionCountInvalid => "invalid repetition count range, the start must be <= the end"
  | repetitionCountDecimalEmpty => "repetition quantifier expects a valid decimal"
  | repetitionCountUnclosed => "unclosed counted repetition"
  | repetitionMissing => "repetition operator missing expression"
  | specialWordBoundaryUnclosed =>
    "special word boundary assertion is either unclosed or contains an invalid character"
  | specialWordBoundaryUnrecognized =>
    "unrecognized special word boundary assertion, valid choices are: " ++
      "start, end, start-half or end-half"
  | specialWordOrRepetitionUnexpectedEnd =>
    "found either the beginning of a special word boundary or a bounded repetition " ++
      "on a \\b with an opening brace, but no closing brace"
  | unicodeClassInvalid => "invalid Unicode character class"
  | unsupportedBackreference => "backreferences are not supported"
  | unsupportedLookAround =>
    "look-around, including look-ahead and look-behind, is not supported"
  | unicodeNotAllowed => "Unicode not allowed here"
  | invalidUtf8 => "pattern can match invalid UTF-8"
  | unicodePropertyNotFound => "Unicode property not found"
  | unicodePropertyValueNotFound => "Unicode property value not found"

/-- A second stretch that the report underlines: the first of two things that may occur once. -/
def earlier? : Cause → Option Span
  | flagDuplicate span => some span
  | flagRepeatedNegation span => some span
  | groupNameDuplicate span => some span
  | _ => none

end Cause

/-- A cause and the stretch of the pattern that it is about. -/
structure Fault where
  span : Span
  cause : Cause
deriving DecidableEq, Repr

/-! ## The report -/

/-- The lines of a text; a line end is a line feed, or a carriage return and a line feed, and a
last line that is empty does not count. -/
def lines (text : String) : List String :=
  let whole := text.splitOn "\n"
  let kept := if whole.getLast? = some "" then whole.dropLast else whole
  let closed := if whole.getLast? = some "" then kept.length else kept.length - 1
  kept.mapIdx fun i line =>
    if i < closed ∧ line.endsWith "\r" then (line.dropEnd 1).toString else line

namespace Fault

/-- The underlining below one line, for spans sorted by where they start. -/
def underline (column : Nat) : List Span → List Char
  | [] => []
  | span :: rest =>
    let blanks := span.start.column - 1 - column
    let marks := max 1 (span.stop.column - span.start.column)
    List.replicate blanks ' ' ++ List.replicate marks '^' ++
      underline (column + blanks + marks) rest

/-- All stretches to be shown, sorted by where they start. -/
def spans (fault : Fault) : List Span :=
  match fault.cause.earlier? with
  | none => [fault.span]
  | some earlier =>
    [fault.span, earlier].mergeSort fun a b =>
      a.start.line < b.start.line ||
        (a.start.line == b.start.line && a.start.column ≤ b.start.column)

/-- Number `n`, padded on the left to `width` characters. -/
def padded (width n : Nat) : String :=
  let digits := toString n
  String.ofList (List.replicate (width - digits.length) ' ') ++ digits

/-- The pattern line by line with its underlining; lines are numbered when there are several. -/
def annotated (pattern : String) (fault : Fault) : String :=
  let shown := lines pattern
  let count := shown.length + (if pattern.endsWith "\n" then 1 else 0)
  let width := if count ≤ 1 then 0 else (toString count).length
  let oneLine := fault.spans.filter Span.isOneLine
  String.join <| shown.mapIdx fun i line =>
    let margin := if width = 0 then "    " else padded width (i + 1) ++ ": "
    let notes := oneLine.filter fun span => span.start.line == i + 1
    let indent := String.ofList (List.replicate (if width = 0 then 4 else width + 2) ' ')
    margin ++ line ++ "\n" ++
      (if notes.isEmpty then "" else indent ++ String.ofList (underline 0 notes) ++ "\n")

/-- Stretches over several lines are reported by numbers instead of underlining. -/
def multiLineNotes (fault : Fault) : String :=
  let wide := fault.spans.filter fun span => !span.isOneLine
  if wide.isEmpty then ""
  else
    "\n".intercalate (wide.map fun span =>
      "on line " ++ toString span.start.line ++ " (column " ++ toString span.start.column ++
        ") through line " ++ toString span.stop.line ++ " (column " ++
        toString (span.stop.column - 1) ++ ")") ++ "\n"

/-- The report of a fault in `pattern`. -/
def report (pattern : String) (fault : Fault) : String :=
  if pattern.contains '\n' then
    let divider := String.ofList (List.replicate 79 '~') ++ "\n"
    "regex parse error:\n" ++ divider ++ fault.annotated pattern ++ divider ++
      fault.multiLineNotes ++ "error: " ++ fault.cause.message
  else
    "regex parse error:\n" ++ fault.annotated pattern ++ "error: " ++ fault.cause.message

end Fault

/-- Why a pattern cannot be used. -/
inductive BuildError where
  | malformed (pattern : String) (fault : Fault)
  | tooBig (limit : Nat)
deriving DecidableEq, Repr

def BuildError.message : BuildError → String
  | malformed pattern fault => fault.report pattern
  | tooBig limit => "Compiled regex exceeds size limit of " ++ toString limit ++ " bytes."

end ParserFoundry.Pattern
