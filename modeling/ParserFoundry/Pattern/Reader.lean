import ParserFoundry.Pattern.Expr
import ParserFoundry.Pattern.Scan
/-!
# Reading Patterns

From the text of a pattern to its tree. Groups, alternations and classes that are still open are
kept on a stack, so that one loop over the text reads a whole pattern; every construct between
them is read by a function of its own.
-/

namespace ParserFoundry.Pattern

namespace Reader

/-! ## Numbers and escapes -/

/-- The largest number of 32 bits. -/
def maxCount : Nat := 0xFFFFFFFF

def digitValue (digits : List Char) : Nat :=
  digits.foldl (fun value c => value * 10 + (c.toNat - 48)) 0

/-- A decimal number, blanks around it allowed. -/
def readDecimal (scan : Scan) : Except Fault (Nat × Scan) :=
  let scan := scan.skipBlanks
  let start := scan.position
  let (digits, scan) := scan.take Char.isDigit
  let span := scan.since start
  let (_, scan) := scan.take Scan.isBlank
  if digits.isEmpty then .error ⟨span, .decimalEmpty⟩
  else if digitValue digits > maxCount then .error ⟨span, .decimalInvalid⟩
  else .ok (digitValue digits, scan)

/-- A decimal number in a counted repetition, where a missing number has a cause of its own. -/
def readCount (scan : Scan) : Except Fault (Nat × Scan) :=
  match readDecimal scan with
  | .error ⟨span, .decimalEmpty⟩ => .error ⟨span, .repetitionCountDecimalEmpty⟩
  | result => result

def isHexDigit (c : Char) : Bool :=
  c.isDigit || ('a' ≤ c && c ≤ 'f') || ('A' ≤ c && c ≤ 'F')

def hexValue (digits : List Char) : Nat :=
  digits.foldl
    (fun value c =>
      value * 16 +
        (if c.isDigit then c.toNat - 48 else if 'a' ≤ c then c.toNat - 87 else c.toNat - 55)) 0

/-- The character with the code point that the digits spell. -/
def hexChar (digits : List Char) (span : Span) : Except Fault Char :=
  let value := hexValue digits
  if value.isValidChar then .ok (Char.ofNat value) else .error ⟨span, .escapeHexInvalid⟩

/-- Exactly `count` hexadecimal digits; only those after the first may be missing. -/
def readHexDigits (first : Bool) : Nat → Scan → Except Fault ((List Char) × Scan)
  | 0, scan => .ok ([], scan)
  | count + 1, scan =>
    let scan := if first then scan else scan.next
    match scan.char? with
    | none => .error ⟨scan.here, .escapeUnexpectedEnd⟩
    | some c =>
      if isHexDigit c then
        match readHexDigits false count scan with
        | .ok (digits, scan) => .ok (c :: digits, scan)
        | .error fault => .error fault
      else .error ⟨scan.charSpan, .escapeHexInvalidDigit⟩

/-- A hexadecimal escape, from the letter after the backslash that stands at `start`: two, four or
eight digits by the letter, or any number of digits in braces. -/
def readHex (start : Position) (scan : Scan) : Except Fault (Literal × Scan) := do
  let count := match scan.char? with
    | some 'x' => 2
    | some 'u' => 4
    | _ => 8
  let scan := scan.next
  match scan.char? with
  | none => throw ⟨scan.here, .escapeUnexpectedEnd⟩
  | some '{' =>
    let brace := scan.position
    let inner := scan.charSpan.stop
    let (digits, scan) := scan.next.take isHexDigit
    match scan.char? with
    | none => throw ⟨scan.since brace, .escapeUnexpectedEnd⟩
    | some '}' =>
      let close := scan.position
      let scan := scan.next
      if digits.isEmpty then throw ⟨scan.since brace, .escapeHexEmpty⟩
      let c ← hexChar digits ⟨inner, close⟩
      return (⟨scan.since start, c, false⟩, scan)
    | some _ => throw ⟨scan.charSpan, .escapeHexInvalidDigit⟩
  | some _ =>
    let inner := scan.position
    let (digits, scan) ← readHexDigits true count scan
    let scan := scan.next
    let c ← hexChar digits (scan.since inner)
    -- Only two digits make a byte; the other forms name a character.
    return (⟨scan.since start, c, count == 2⟩, scan)

/-- Split at the first occurrence of `separator`. -/
def splitAtFirst (separator : List Char) : List Char → Option (List Char × List Char)
  | [] => none
  | c :: rest =>
    if separator.isPrefixOf (c :: rest) then some ([], (c :: rest).drop separator.length)
    else (splitAtFirst separator rest).map fun (left, right) => (c :: left, right)

/-- What the text between the braces of a property class asks for; it is cut at the first of the
separators `!=`, `:` and `=` that occurs. -/
def propertyQuery (text : List Char) : PropertyQuery :=
  let valued (parts : List Char × List Char) : PropertyQuery :=
    .valued (String.ofList parts.1) (String.ofList parts.2)
  match splitAtFirst ['!', '='] text with
  | some parts => valued parts
  | none =>
    match splitAtFirst [':'] text with
    | some parts => valued parts
    | none =>
      match splitAtFirst ['='] text with
      | some parts => valued parts
      | none => .named (String.ofList text)

/-- A class by property, from the letter after the backslash. -/
def readProperty (scan : Scan) : Except Fault (PropertyQuery × Scan) := do
  let scan := scan.next
  match scan.char? with
  | none => throw ⟨scan.here, .escapeUnexpectedEnd⟩
  | some '{' =>
    let (name, scan) := scan.next.take (· != '}')
    if scan.atEnd then throw ⟨scan.here, .escapeUnexpectedEnd⟩
    return (propertyQuery name, scan.bump)
  | some '\\' => throw ⟨scan.charSpan, .unicodeClassInvalid⟩
  | some c => return (.named (String.ofList [c]), scan.next)

/-! ## Single items -/

/-- What a single item of a pattern can be, in or outside a class. -/
inductive Primitive where
  | literal (literal : Literal)
  | dot (span : Span)
  | assertion (span : Span) (kind : Assertion)
  | property (span : Span) (query : PropertyQuery) (negated : Bool)
  | short (span : Span) (kind : ShortClass) (negated : Bool)
deriving Repr

namespace Primitive

def span : Primitive → Span
  | literal lit => lit.span
  | dot span => span
  | assertion span _ => span
  | property span .. => span
  | short span .. => span

def toExpr : Primitive → Expr
  | literal lit => .literal lit
  | dot span => .dot span
  | assertion span kind => .assertion span kind
  | property span query negated => .property span query negated
  | short span kind negated => .short span kind negated

/-- A class holds characters and classes, but no assertions. -/
def toClassItem : Primitive → Except Fault ClassExpr
  | literal lit => .ok (.literal lit)
  | property span query negated => .ok (.property span query negated)
  | short span kind negated => .ok (.short span kind negated)
  | other => .error ⟨other.span, .classEscapeInvalid⟩

/-- The ends of a range are characters. -/
def toRangeEnd : Primitive → Except Fault Literal
  | literal lit => .ok lit
  | other => .error ⟨other.span, .classRangeLiteral⟩

end Primitive

/-- The kinds of word boundary that are asked for by name. -/
def namedBoundary? : List Char → Option Assertion
  | ['s', 't', 'a', 'r', 't'] => some .wordStart
  | ['e', 'n', 'd'] => some .wordEnd
  | ['s', 't', 'a', 'r', 't', '-', 'h', 'a', 'l', 'f'] => some .wordStartHalf
  | ['e', 'n', 'd', '-', 'h', 'a', 'l', 'f'] => some .wordEndHalf
  | _ => none

def isBoundaryNameChar (c : Char) : Bool :=
  c.isAlpha || c == '-'

/-- The braces that may follow the word boundary escape at `start`. Braces that cannot hold a name
are left for a counted repetition. -/
def readBoundaryName (start : Position) (scan : Scan) : Except Fault ((Option Assertion) × Scan) := do
  let brace := scan.position
  let inner := scan.next
  match inner.char? with
  | none => throw ⟨inner.since start, .specialWordOrRepetitionUnexpectedEnd⟩
  | some c =>
    if !isBoundaryNameChar c then return (none, scan)
    let (name, after) := inner.take isBoundaryNameChar
    if after.char? != some '}' then throw ⟨after.since brace, .specialWordBoundaryUnclosed⟩
    match namedBoundary? name with
    | some kind => return (some kind, after.bump)
    | none => throw ⟨after.since inner.position, .specialWordBoundaryUnrecognized⟩

def isMeta (c : Char) : Bool :=
  "\\.+*?()|[]\x7b\x7d^$#&-~".contains c

/-- A character that may be escaped although it has no meaning of its own. -/
def isEscapable (c : Char) : Bool :=
  c.toNat < 128 && !(c.isAlphanum || c == '<' || c == '>')

/-- The control characters with an escape letter. -/
def controlEscape? : Char → Option Char
  | 'a' => some '\x07'
  | 'f' => some '\x0C'
  | 't' => some '\t'
  | 'n' => some '\n'
  | 'r' => some '\r'
  | 'v' => some '\x0B'
  | _ => none

def assertionEscape? : Char → Option Assertion
  | 'A' => some .startText
  | 'z' => some .endText
  | 'B' => some .notWordBoundary
  | '<' => some .wordStart
  | '>' => some .wordEnd
  | _ => none

def shortEscape? : Char → Option (ShortClass × Bool)
  | 'd' => some (.digit, false)
  | 'D' => some (.digit, true)
  | 's' => some (.space, false)
  | 'S' => some (.space, true)
  | 'w' => some (.word, false)
  | 'W' => some (.word, true)
  | _ => none

/-- An escape, from its backslash. -/
def readEscape (scan : Scan) : Except Fault (Primitive × Scan) := do
  let start := scan.position
  let scan := scan.bump
  match scan.char? with
  | none => throw ⟨scan.since start, .escapeUnexpectedEnd⟩
  | some c =>
    if c.isDigit then throw ⟨⟨start, scan.charSpan.stop⟩, .unsupportedBackreference⟩
    if c = 'x' ∨ c = 'u' ∨ c = 'U' then
      let (lit, scan) ← readHex start scan
      return (.literal lit, scan)
    if c = 'p' ∨ c = 'P' then
      let (query, scan) ← readProperty scan
      return (.property (scan.since start) query (c == 'P'), scan)
    let scan := scan.bump
    let span := scan.since start
    if let some (kind, negated) := shortEscape? c then
      return (.short span kind negated, scan)
    if isMeta c || isEscapable c then
      return (.literal ⟨span, c, false⟩, scan)
    if let some control := controlEscape? c then
      return (.literal ⟨span, control, false⟩, scan)
    if let some kind := assertionEscape? c then
      return (.assertion span kind, scan)
    if c = 'b' then
      if scan.char? != some '{' then return (.assertion span .wordBoundary, scan)
      match ← readBoundaryName start scan with
      | (some kind, scan) => return (.assertion (scan.since start) kind, scan)
      | (none, scan) => return (.assertion span .wordBoundary, scan)
    throw ⟨span, .escapeUnrecognized⟩

/-- One item outside a class that is no group, class or operator. -/
def readPrimitive (c : Char) (scan : Scan) : Except Fault (Primitive × Scan) :=
  let span := scan.charSpan
  if c = '\\' then readEscape scan
  else if c = '.' then .ok (.dot span, scan.bump)
  else if c = '^' then .ok (.assertion span .startLine, scan.bump)
  else if c = '$' then .ok (.assertion span .endLine, scan.bump)
  else .ok (.literal ⟨span, c, false⟩, scan.bump)

/-! ## Classes -/

/-- The named ASCII classes. -/
def asciiClass? : List Char → Option (List (Nat × Nat))
  | ['a', 'l', 'n', 'u', 'm'] => some [(0x30, 0x39), (0x41, 0x5A), (0x61, 0x7A)]
  | ['a', 'l', 'p', 'h', 'a'] => some [(0x41, 0x5A), (0x61, 0x7A)]
  | ['a', 's', 'c', 'i', 'i'] => some [(0, 0x7F)]
  | ['b', 'l', 'a', 'n', 'k'] => some [(9, 9), (0x20, 0x20)]
  | ['c', 'n', 't', 'r', 'l'] => some [(0, 0x1F), (0x7F, 0x7F)]
  | ['d', 'i', 'g', 'i', 't'] => some [(0x30, 0x39)]
  | ['g', 'r', 'a', 'p', 'h'] => some [(0x21, 0x7E)]
  | ['l', 'o', 'w', 'e', 'r'] => some [(0x61, 0x7A)]
  | ['p', 'r', 'i', 'n', 't'] => some [(0x20, 0x7E)]
  | ['p', 'u', 'n', 'c', 't'] => some [(0x21, 0x2F), (0x3A, 0x40), (0x5B, 0x60), (0x7B, 0x7E)]
  | ['s', 'p', 'a', 'c', 'e'] => some [(9, 0xD), (0x20, 0x20)]
  | ['u', 'p', 'p', 'e', 'r'] => some [(0x41, 0x5A)]
  | ['w', 'o', 'r', 'd'] => some [(0x30, 0x39), (0x41, 0x5A), (0x5F, 0x5F), (0x61, 0x7A)]
  | ['x', 'd', 'i', 'g', 'i', 't'] => some [(0x30, 0x39), (0x41, 0x46), (0x61, 0x66)]
  | _ => none

/-- A named ASCII class in its double brackets, if that is what comes next. -/
def readAsciiClass? (scan : Scan) : Option (ClassExpr × Scan) := do
  let inner ← scan.accept? "[:"
  let (negated, inner) := match inner.accept? "^" with
    | some after => (true, after)
    | none => (false, inner)
  if inner.atEnd then none
  let name := inner.rest.takeWhile (· != ':')
  let after ← (inner.advance name.length).accept? ":]"
  -- An unknown name makes no class: the bracket then opens one in the ordinary way.
  let ranges ← asciiClass? name
  return (.ascii (after.since scan.position) ranges negated, after)

/-- The items read so far between two brackets or operators, last one first. -/
structure Items where
  span : Span
  reversed : List ClassExpr := []
deriving Repr

namespace Items

def push (items : Items) (item : ClassExpr) : Items where
  span := ⟨if items.reversed.isEmpty then item.span.start else items.span.start, item.span.stop⟩
  reversed := item :: items.reversed

/-- All items as one; a single item stands for itself. -/
def toClass (items : Items) : ClassExpr :=
  match items.reversed with
  | [] => .empty items.span
  | [item] => item
  | several => .union items.span several.reverse

end Items

/-- What is open around the current place in a class. -/
inductive ClassFrame where
  /-- A bracket: the items before it, and where and how it starts. -/
  | bracket (outer : Items) (span : Span) (negated : Bool)
  /-- The left operand of a set operation. -/
  | operand (op : ClassOp) (left : ClassExpr)
deriving Repr

/-- The fault of a class that is never closed: it is reported at the innermost open bracket. -/
def unclosedClass (scan : Scan) : List ClassFrame → Fault
  | [] => ⟨scan.here, .classUnclosed⟩
  | .bracket _ span _ :: _ => ⟨span, .classUnclosed⟩
  | .operand .. :: frames => unclosedClass scan frames

/-- The hyphens at the start of a class, which stand for themselves. -/
def readLeadingHyphens (start : Position) (items : Items) :
    Nat → Scan → Except Fault (Items × Scan)
  | 0, scan => .ok (items, scan)
  | steps + 1, scan =>
    if scan.char? = some '-' then
      let after := scan.next
      if after.atEnd then .error ⟨start.here, .classUnclosed⟩
      else readLeadingHyphens start (items.push (.literal ⟨scan.charSpan, '-', false⟩)) steps after
    else .ok (items, scan)

/-- The start of a class: the bracket, a negation, and the characters that stand for themselves
only there. -/
def readClassOpen (scan : Scan) : Except Fault ((Span × Bool × Items) × Scan) := do
  let start := scan.position
  let scan := scan.next
  if scan.atEnd then throw ⟨scan.since start, .classUnclosed⟩
  let negated := scan.char? == some '^'
  let scan := if negated then scan.next else scan
  if scan.atEnd then throw ⟨scan.since start, .classUnclosed⟩
  let (items, scan) ← readLeadingHyphens start ⟨scan.here, []⟩ scan.rest.length scan
  -- A bracket that closes nothing yet stands for itself, so a class is never empty.
  if items.reversed.isEmpty && scan.char? == some ']' then
    let items := items.push (.literal ⟨scan.charSpan, ']', false⟩)
    let scan := scan.next
    if scan.atEnd then throw ⟨scan.since start, .classUnclosed⟩
    return ((scan.since start, negated, items), scan)
  return ((scan.since start, negated, items), scan)

/-- One character or escape within a class. -/
def readClassPrimitive (scan : Scan) : Except Fault (Primitive × Scan) :=
  match scan.char? with
  | some '\\' => readEscape scan
  | some c => .ok (.literal ⟨scan.charSpan, c, false⟩, scan.bump)
  | none => .error ⟨scan.here, .classUnclosed⟩

/-- One item or range within a class. A hyphen before a bracket or another hyphen makes no
range. -/
def readClassItem (frames : List ClassFrame) (scan : Scan) : Except Fault (ClassExpr × Scan) := do
  let (first, scan) ← readClassPrimitive scan
  let scan := scan.skip
  if scan.atEnd then throw (unclosedClass scan frames)
  let ahead := scan.peekPastBlanks?
  if scan.char? != some '-' || ahead == some ']' || ahead == some '-' then
    return (← first.toClassItem, scan)
  let scan := scan.next
  if scan.atEnd then throw (unclosedClass scan frames)
  let (last, scan) ← readClassPrimitive scan
  let span : Span := ⟨first.span.start, last.span.stop⟩
  -- The two ends are read before either is judged, so an unclosed class is reported first.
  let low ← first.toRangeEnd
  let high ← last.toRangeEnd
  if low.char ≤ high.char then return (.range span low high, scan)
  else throw ⟨span, .classRangeInvalid⟩

/-- Apply the pending set operation, if there is one, to its right operand. -/
def closeOperation (right : ClassExpr) : List ClassFrame → ClassExpr × List ClassFrame
  | .operand op left :: frames =>
    (.binary ⟨left.span.start, right.span.stop⟩ op left right, frames)
  | frames => (right, frames)

/-- A set operator, if it comes next. -/
def readClassOp? (scan : Scan) : Option (ClassOp × Scan) :=
  match scan.accept? "&&" with
  | some after => some (.intersection, after)
  | none =>
    match scan.accept? "--" with
    | some after => some (.difference, after)
    | none => (scan.accept? "~~").map fun after => (.symmetricDifference, after)

/-- The inside of a class up to the bracket that closes it; `frames` is what is open. -/
def readClassLoop : Nat → List ClassFrame → Items → Scan → Except Fault (Expr × Scan)
  | 0, frames, _, scan => .error (unclosedClass scan frames)
  | steps + 1, frames, items, scan => do
    let scan := scan.skip
    match scan.char? with
    | none => throw (unclosedClass scan frames)
    | some '[' =>
      if let some (ascii, scan) := readAsciiClass? scan then
        readClassLoop steps frames (items.push ascii) scan
      else
        let ((span, negated, inner), scan) ← readClassOpen scan
        readClassLoop steps (.bracket items span negated :: frames) inner scan
    | some ']' =>
      let (whole, frames) := closeOperation items.toClass frames
      let scan := scan.bump
      match frames with
      -- The class that was opened first is the whole one.
      | [.bracket _ span negated] =>
        return (.bracketed (scan.since span.start) negated whole, scan)
      | .bracket outer span negated :: frames =>
        let class_ := .bracketed (scan.since span.start) negated whole
        readClassLoop steps frames (outer.push class_) scan
      | frames => throw (unclosedClass scan frames)
    | some _ =>
      -- An operator takes all items so far as its left operand: there is no precedence among them.
      if let some (op, after) := readClassOp? scan then
        let (left, frames) := closeOperation items.toClass frames
        readClassLoop steps (.operand op left :: frames) ⟨after.here, []⟩ after
      else
        let (item, scan) ← readClassItem frames scan
        readClassLoop steps frames (items.push item) scan

/-- A whole class, from its opening bracket. -/
def readClass (scan : Scan) : Except Fault (Expr × Scan) := do
  let ((span, negated, inner), after) ← readClassOpen scan
  readClassLoop scan.rest.length [.bracket ⟨scan.here, []⟩ span negated] inner after

/-! ## Groups and flags -/

def flag? : Char → Option Flag
  | 'i' => some .caseInsensitive
  | 'm' => some .multiLine
  | 's' => some .dotMatchesNewLine
  | 'U' => some .swapGreed
  | 'u' => some .unicode
  | 'R' => some .crlf
  | 'x' => some .ignoreWhitespace
  | _ => none

/-- The flags of a group up to its colon or closing parenthesis, each with its stretch. -/
def readFlags (items : List (FlagItem × Span)) :
    Nat → Scan → Except Fault ((List (FlagItem × Span)) × Scan)
  | 0, scan => .error ⟨scan.here, .flagUnexpectedEnd⟩
  | steps + 1, scan => do
    match scan.char? with
    | none => throw ⟨scan.here, .flagUnexpectedEnd⟩
    | some c =>
      if c = ':' ∨ c = ')' then
        match items.getLast? with
        | some (.negation, span) => throw ⟨span, .flagDanglingNegation⟩
        | _ => return (items, scan)
      let span := scan.charSpan
      let item ← match c, flag? c with
        | '-', _ => pure FlagItem.negation
        | _, some flag => pure (FlagItem.flag flag)
        | _, none => throw ⟨span, .flagUnrecognized⟩
      match items.find? fun entry => entry.1 = item with
      | some (.negation, earlier) => throw ⟨span, .flagRepeatedNegation earlier⟩
      | some (.flag _, earlier) => throw ⟨span, .flagDuplicate earlier⟩
      | none => readFlags (items ++ [(item, span)]) steps scan.bump

def isNameStart (c : Char) : Bool :=
  c == '_' || Unicode.alphabetic.contains c.toNat

def isNameChar (c : Char) : Bool :=
  c == '_' || c == '.' || c == '[' || c == ']' || Unicode.alphabetic.contains c.toNat ||
    Unicode.numbers.contains c.toNat

/-- The characters of a capture name up to the closing angle bracket. -/
def readNameChars (first : Bool) : Nat → Scan → Except Fault ((List Char) × Scan)
  | 0, scan => .ok ([], scan)
  | steps + 1, scan =>
    match scan.char? with
    | none => .error ⟨scan.here, .groupNameUnexpectedEnd⟩
    | some c =>
      if c = '>' then .ok ([], scan)
      else if (if first then isNameStart c else isNameChar c) then
        match readNameChars false steps scan.bump with
        | .ok (name, scan) => .ok (c :: name, scan)
        | .error fault => .error fault
      else .error ⟨scan.charSpan, .groupNameInvalid⟩

/-- A capture name and its closing angle bracket; the name is entered among those seen. -/
def readCaptureName (scan : Scan) : Except Fault (Unit × Scan) := do
  let start := scan.position
  let (name, after) ← readNameChars true (scan.rest.length + 1) scan
  let span := after.since start
  if name.isEmpty then throw ⟨start.here, .groupNameEmpty⟩
  let name := String.ofList name
  match after.names.find? fun entry => entry.1 == name with
  | some (_, earlier) => throw ⟨span, .groupNameDuplicate earlier⟩
  | none => return ((), { after.bump with names := (name, span) :: after.names })

/-- The start of a group, or flags for the rest of the group around them. -/
inductive GroupStart where
  | group (captures : Bool) (items : List (FlagItem × Span))
  | flags (span : Span) (items : List (FlagItem × Span))
deriving Repr

/-- The start of a group, from its parenthesis. -/
def readGroupStart (scan : Scan) : Except Fault (GroupStart × Scan) := do
  let openSpan := scan.charSpan
  let inner := scan.next
  for token in ["?=", "?!", "?<=", "?<!"] do
    if let some after := inner.accept? token then
      throw ⟨after.since openSpan.start, .unsupportedLookAround⟩
  if let some after := inner.accept? "?P<" then
    let (_, after) ← readCaptureName after
    return (.group true [], after)
  if let some after := inner.accept? "?<" then
    let (_, after) ← readCaptureName after
    return (.group true [], after)
  if let some after := inner.accept? "?" then
    if after.atEnd then throw ⟨openSpan, .groupUnclosed⟩
    let (items, after) ← readFlags [] (after.rest.length + 1) after
    let closes := after.char? == some ')'
    let after := after.bump
    if closes then
      -- A repetition is what the question mark would mean if no flags follow it.
      if items.isEmpty then throw ⟨inner.here, .repetitionMissing⟩
      return (.flags (after.since openSpan.start) items, after)
    return (.group false items, after)
  return (.group true [], inner)

/-! ## Whole patterns -/

/-- What is open around the current place in a pattern. -/
inductive Frame where
  /-- A group: where it and the sequence around it start, the sequence before it, last part
  first, and the mode to return to. -/
  | group (outerStart : Position) (outer : List Expr) (openSpan : Span) (captures : Bool)
      (items : List (FlagItem × Span)) (verbose : Bool)
  /-- The branches of an alternation that are complete, last one first. -/
  | branches (start : Position) (reversed : List Expr)
deriving Repr

/-- The progress of reading a pattern: the open frames, and the current sequence, last part
first. -/
structure Progress where
  scan : Scan
  frames : List Frame := []
  start : Position := {}
  parts : List Expr := []
deriving Repr

namespace Progress

/-- The current sequence as one expression. -/
def sequence (progress : Progress) : Expr :=
  .sequence (progress.scan.since progress.start) progress.parts.reverse

/-- Add a part to the current sequence and go on at `scan`. -/
def push (progress : Progress) (part : Expr) (scan : Scan) : Progress :=
  { progress with parts := part :: progress.parts, scan := scan }

/-- The bar between two branches. -/
def pushBranch (progress : Progress) : Progress :=
  let after := progress.scan.bump
  let frames := match progress.frames with
    | .branches start reversed :: frames => .branches start (progress.sequence :: reversed) :: frames
    | frames => .branches progress.start [progress.sequence] :: frames
  { scan := after, frames := frames, start := after.position, parts := [] }

/-- The opening parenthesis of a group, or a list of flags. -/
def pushGroup (progress : Progress) : Except Fault Progress := do
  let openSpan := progress.scan.charSpan
  let verbose := progress.scan.verbose
  let (start, after) ← readGroupStart progress.scan
  match start with
  -- Flags hold up to the end of the group around them, and so does the mode.
  | .flags span items =>
    let mode := (flagState items .ignoreWhitespace).getD verbose
    return progress.push (.flags span items) { after with verbose := mode }
  | .group captures items =>
    let mode := (flagState items .ignoreWhitespace).getD verbose
    -- The mode inside is that of the flags, and the frame keeps the one to return to.
    return {
      scan := { after with verbose := mode }
      frames := .group progress.start progress.parts openSpan captures items verbose ::
        progress.frames
      start := after.position
      parts := [] }

/-- Join the current sequence with the branches before it. -/
def joinBranches (progress : Progress) : Expr × List Frame :=
  match progress.frames with
  | .branches start reversed :: frames =>
    (.alternation (progress.scan.since start) (progress.sequence :: reversed).reverse, frames)
  | frames => (progress.sequence, frames)

/-- The closing parenthesis of a group. -/
def popGroup (progress : Progress) : Except Fault Progress :=
  match progress.joinBranches with
  | (body, .group outerStart outer openSpan captures items verbose :: frames) =>
    let after := progress.scan.bump
    let group := .group (after.since openSpan.start) captures items body
    .ok {
      scan := { after with verbose := verbose }
      frames := frames
      start := outerStart
      parts := group :: outer }
  | _ => .error ⟨progress.scan.charSpan, .groupUnopened⟩

/-- The end of the pattern, where no group may be open. -/
def finish (progress : Progress) : Except Fault Expr :=
  match progress.joinBranches with
  | (whole, []) => .ok whole
  | (_, .group _ _ openSpan _ _ _ :: _) => .error ⟨openSpan, .groupUnclosed⟩
  | (whole, _) => .ok whole

/-- The expression that a repetition operator here applies to, and the sequence before it. -/
def operand (progress : Progress) : Except Fault (Expr × Progress) :=
  match progress.parts with
  | [] => .error ⟨progress.scan.here, .repetitionMissing⟩
  | sub :: before =>
    if sub.isDirective then .error ⟨progress.scan.here, .repetitionMissing⟩
    else .ok (sub, { progress with parts := before })

/-- Complete a repetition of `sub` at `scan`. -/
def pushRepetition (progress : Progress) (sub : Expr) (min : Nat) (max? : Option Nat)
    (greedy : Bool) (scan : Scan) : Progress :=
  progress.push (.repetition (scan.since sub.span.start) min max? greedy sub) scan

/-- An operator of one character, possibly with the mark that makes it lazy. -/
def repeatUncounted (progress : Progress) (min : Nat) (max? : Option Nat) :
    Except Fault Progress := do
  let (sub, progress) ← progress.operand
  let after := progress.scan.bump
  if after.char? = some '?' then
    return progress.pushRepetition sub min max? false after.bump
  return progress.pushRepetition sub min max? true after

/-- The counts within the braces of a repetition that opened at `start`. -/
def readRange (start : Position) (scan : Scan) : Except Fault ((Nat × Option Nat) × Scan) := do
  let unclosed (scan : Scan) : Fault := ⟨scan.since start, .repetitionCountUnclosed⟩
  if scan.atEnd then throw (unclosed scan)
  let first := readCount scan
  -- Braces that end too early are reported before a count that is no number.
  let scan := match first with
    | .ok (_, after) => after
    | .error _ => afterCount scan
  if scan.atEnd then throw (unclosed scan)
  if scan.char? = some ',' then
    let scan := scan.next
    if scan.atEnd then throw (unclosed scan)
    let (low, _) ← first
    if scan.char? = some '}' then return ((low, none), scan)
    let (high, scan) ← readCount scan
    if scan.char? != some '}' then throw (unclosed scan)
    return ((low, some high), scan)
  let (count, _) ← first
  if scan.char? != some '}' then throw (unclosed scan)
  return ((count, some count), scan)
where
  /-- Where a number that is no valid count ends. -/
  afterCount (scan : Scan) : Scan :=
    let (_, scan) := scan.skipBlanks.take Char.isDigit
    (scan.take Scan.isBlank).2

/-- A repetition with counts in braces. -/
def repeatCounted (progress : Progress) : Except Fault Progress := do
  let start := progress.scan.position
  let (sub, progress) ← progress.operand
  let ((min, max?), scan) ← readRange start progress.scan.next
  let after := scan.next
  let lazy := after.char? == some '?'
  let after := if lazy then after.bump else after
  if max?.any (· < min) then throw ⟨after.since start, .repetitionCountInvalid⟩
  return progress.pushRepetition sub min max? (!lazy) after

/-- Read the construct that starts with `c`. -/
def step (progress : Progress) (c : Char) : Except Fault Progress :=
  if c = '(' then progress.pushGroup
  else if c = ')' then progress.popGroup
  else if c = '|' then .ok progress.pushBranch
  else if c = '[' then do
    let (class_, scan) ← readClass progress.scan
    return progress.push class_ scan
  else if c = '?' then progress.repeatUncounted 0 (some 1)
  else if c = '*' then progress.repeatUncounted 0 none
  else if c = '+' then progress.repeatUncounted 1 none
  else if c = '{' then progress.repeatCounted
  else do
    let (primitive, scan) ← readPrimitive c progress.scan
    return progress.push primitive.toExpr scan

/-- Read constructs to the end; each takes at least one of `steps` characters. -/
def run : Nat → Progress → Except Fault Expr
  | 0, progress => { progress with scan := progress.scan.skip }.finish
  | steps + 1, progress =>
    let progress := { progress with scan := progress.scan.skip }
    match progress.scan.char? with
    | none => progress.finish
    | some c => do run steps (← progress.step c)

end Progress

end Reader

/-- The tree of a pattern. -/
def Expr.read (pattern : String) : Except Fault Expr := do
  let scan : Scan := { rest := pattern.toList }
  let expr ← Reader.Progress.run scan.rest.length { scan := scan }
  expr.checkNesting 0
  return expr

end ParserFoundry.Pattern
