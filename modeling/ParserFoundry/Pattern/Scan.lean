import ParserFoundry.Pattern.Fault
import ParserFoundry.Unicode.Property
/-!
# Scanning a Pattern

The state in which a pattern is read, and the steps that every construct is read with: look at
the next character, pass it, and pass the blanks and comments that verbose mode allows.
-/

namespace ParserFoundry.Pattern

/-- The unread rest of a pattern and where it starts. In verbose mode, blanks and comments between
tokens are skipped. `names` lists the capture names seen so far. -/
structure Scan where
  rest : List Char
  position : Position := {}
  verbose : Bool := false
  names : List (String × Span) := []
deriving Repr

namespace Scan

def isBlank (c : Char) : Bool :=
  Unicode.whiteSpace.contains c.toNat

def char? (scan : Scan) : Option Char :=
  scan.rest.head?

def atEnd (scan : Scan) : Bool :=
  scan.rest.isEmpty

/-- Pass one character. -/
def bump (scan : Scan) : Scan :=
  match scan.rest with
  | [] => scan
  | c :: rest => { scan with rest := rest, position := scan.position.after c }

/-- Pass several characters. -/
def advance (scan : Scan) : Nat → Scan
  | 0 => scan
  | n + 1 => scan.bump.advance n

/-- Skip blanks and comments; `inComment` says whether the text starts within a comment, which
runs to the end of its line. -/
def skipFrom (inComment : Bool) (position : Position) : List Char → List Char × Position
  | [] => ([], position)
  | c :: rest =>
    if inComment then skipFrom (c != '\n') (position.after c) rest
    else if isBlank c then skipFrom false (position.after c) rest
    else if c = '#' then skipFrom true (position.after c) rest
    else (c :: rest, position)

/-- Skip what verbose mode lets stand between tokens. -/
def skip (scan : Scan) : Scan :=
  if scan.verbose then
    let (rest, position) := skipFrom false scan.position scan.rest
    { scan with rest := rest, position := position }
  else scan

/-- Pass one character and what may stand after it. -/
def next (scan : Scan) : Scan :=
  scan.bump.skip

/-- Pass `token` if the rest starts with it. -/
def accept? (scan : Scan) (token : String) : Option Scan :=
  if token.toList.isPrefixOf scan.rest then some (scan.advance token.length) else none

/-- The character after the next one. -/
def peek? (scan : Scan) : Option Char :=
  scan.rest.tail.head?

/-- The character after the next one and the blanks behind it. A comment is not skipped: its
second character is what comes next. -/
def peekPastBlanks? (scan : Scan) : Option Char :=
  if scan.verbose then
    let ahead := scan.rest.tail
    match go false ahead with
    | some c => some c
    | none => ahead.head?
  else scan.peek?
where
  go (seenHash : Bool) : List Char → Option Char
    | [] => none
    | c :: rest =>
      if isBlank c then go seenHash rest
      else if !seenHash && c = '#' then go true rest
      else some c

/-- The empty stretch before the next character. -/
def here (scan : Scan) : Span :=
  scan.position.here

/-- The stretch of the next character. -/
def charSpan (scan : Scan) : Span :=
  ⟨scan.position, scan.bump.position⟩

/-- The stretch from `start` to here. -/
def since (scan : Scan) (start : Position) : Span :=
  ⟨start, scan.position⟩

/-- Pass characters of a class, skipping what may stand after each; `steps` bounds their number. -/
def takeAtMost (wanted : Char → Bool) : Nat → Scan → List Char × Scan
  | 0, scan => ([], scan)
  | steps + 1, scan =>
    match scan.rest with
    | [] => ([], scan)
    | c :: _ =>
      if wanted c then
        let (taken, after) := takeAtMost wanted steps scan.next
        (c :: taken, after)
      else ([], scan)

/-- Pass all characters of a class that come next, skipping what may stand after each. -/
def take (scan : Scan) (wanted : Char → Bool) : List Char × Scan :=
  takeAtMost wanted scan.rest.length scan

/-- Pass the blanks that come next, also outside verbose mode. -/
def skipBlanks (scan : Scan) : Scan :=
  scan.advance (scan.rest.takeWhile isBlank).length

end Scan

end ParserFoundry.Pattern
