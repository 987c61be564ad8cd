import ParserFoundry.Unicode.Property
/-!
# Blanks and Comments

What may stand between the tokens of source code. Comments that document something are tokens, and
no blanks.
-/

namespace ParserFoundry.Code

/-- White space, or one of the two marks of direction. -/
def isBlank (c : Char) : Bool :=
  if c.toNat < 128 then c == ' ' || ('\t' ≤ c && c ≤ '\r')
  else Unicode.whiteSpace.contains c.toNat || c == '\u200e' || c == '\u200f'

/-- The text of a line comment, and what follows it. -/
def lineComment (input : List Char) : List Char × List Char :=
  (input.takeWhile (· != '\n'), input.dropWhile (· != '\n'))

/-- The rest of a block comment that `depth` opening marks precede, and what follows it. -/
def blockComment? (depth : Nat) : List Char → Option (List Char × List Char)
  | '/' :: '*' :: rest =>
    (blockComment? (depth + 1) rest).map fun (inner, rest) => ('/' :: '*' :: inner, rest)
  | '*' :: '/' :: rest =>
    if depth ≤ 1 then some ([], rest)
    else (blockComment? (depth - 1) rest).map fun (inner, rest) => ('*' :: '/' :: inner, rest)
  | c :: rest => (blockComment? depth rest).map fun (inner, rest) => (c :: inner, rest)
  | [] => none

/-- Whether every carriage return is followed by a line feed. -/
def hasWholeLineEnds : List Char → Bool
  | '\r' :: '\n' :: rest => hasWholeLineEnds rest
  | '\r' :: _ => false
  | _ :: rest => hasWholeLineEnds rest
  | [] => true

/-- The input after a line comment that documents something. -/
def afterLineDoc? (input : List Char) : Option (List Char) :=
  let (text, rest) := lineComment input
  let text := if rest.isEmpty ∨ text.getLast? ≠ some '\r' then text else text.dropLast
  if hasWholeLineEnds text then some rest else none

/-- The input after a block comment that documents something. -/
def afterBlockDoc? (input : List Char) : Option (List Char) := do
  let (text, rest) ← blockComment? 1 input
  if hasWholeLineEnds text then some rest else none

/-- The input after a comment that documents something, and whether it is about what surrounds
it. -/
def docComment? : List Char → Option (Bool × List Char)
  | '/' :: '/' :: '!' :: rest => (afterLineDoc? rest).map (true, ·)
  | '/' :: '*' :: '!' :: rest => (afterBlockDoc? rest).map (true, ·)
  | '/' :: '/' :: '/' :: rest =>
    if rest.head? = some '/' then none else (afterLineDoc? rest).map (false, ·)
  | '/' :: '*' :: '*' :: rest =>
    if rest.head? = some '*' then none else (afterBlockDoc? rest).map (false, ·)
  | _ => none

/-- Whether a comment mark starts a comment that documents something; `rest` follows the mark, and
`mark` is its last character. -/
def startsDoc (mark : Char) (rest : List Char) : Bool :=
  match rest with
  | '!' :: _ => true
  | c :: d :: _ => c == mark && d != mark
  | [c] => c == mark
  | [] => false

/-- Skip blanks and comments; the count bounds them. -/
def skipBlanks : Nat → List Char → List Char
  | 0, input => input
  | _ + 1, [] => []
  | steps + 1, '/' :: '/' :: rest =>
    if startsDoc '/' rest then '/' :: '/' :: rest else skipBlanks steps (lineComment rest).2
  | steps + 1, '/' :: '*' :: rest =>
    match rest with
    | '*' :: '/' :: rest => skipBlanks steps rest
    | rest =>
      if startsDoc '*' rest then '/' :: '*' :: rest
      else
        match blockComment? 1 rest with
        | some (_, after) => skipBlanks steps after
        | none => '/' :: '*' :: rest
  | steps + 1, c :: rest => if isBlank c then skipBlanks steps rest else c :: rest

end ParserFoundry.Code
