import ParserFoundry.Pattern.Reader
import ParserFoundry.Pattern.Regex
import ParserFoundry.Unicode.CaseFolding
import ParserFoundry.Unicode.Script
/-!
# From Pattern to Regular Expression

Flags are resolved here: they select what an item of a pattern means from the place where they
are set to the end of the group. Classes become sets of characters. Without the flag for Unicode
a class works on bytes, so one that would reach beyond ASCII is refused.
-/

namespace ParserFoundry.Pattern

open CodePointSet (unionAll)

/-! ## Flags -/

/-- The flags in force at a place. -/
structure Flags where
  caseInsensitive : Bool := false
  multiLine : Bool := false
  dotMatchesNewLine : Bool := false
  swapGreed : Bool := false
  unicode : Bool := true
  crlf : Bool := false
deriving DecidableEq, Repr

/-- The flags after a flag list: a flag that it does not mention stays as it is. -/
def Flags.update (flags : Flags) (items : List (FlagItem × Span)) : Flags where
  caseInsensitive := (flagState items .caseInsensitive).getD flags.caseInsensitive
  multiLine := (flagState items .multiLine).getD flags.multiLine
  dotMatchesNewLine := (flagState items .dotMatchesNewLine).getD flags.dotMatchesNewLine
  swapGreed := (flagState items .swapGreed).getD flags.swapGreed
  unicode := (flagState items .unicode).getD flags.unicode
  crlf := (flagState items .crlf).getD flags.crlf

/-! ## Characters by property -/

/-- The name of a property or value as names are compared: in lower case, without blanks, hyphens
and underscores, without characters beyond ASCII, and without a leading `is`. -/
def looseName (name : String) : String :=
  let chars := name.toList
  let startsWithIs := (chars.take 2).map Char.toLower == ['i', 's']
  let kept := ((if startsWithIs then chars.drop 2 else chars).filter fun c =>
    c.toNat < 128 && c != ' ' && c != '_' && c != '-').map Char.toLower
  if startsWithIs && kept == ['c'] then "isc" else String.ofList kept

def lookup (name : String) (table : List (List String × CodePointSet)) : Option CodePointSet :=
  (table.find? fun entry => entry.1.contains name).map Prod.snd

/-- The names that are short both for a property and for a general category; alone, they ask for
the category. -/
def categoryFirst : List String := ["cf", "sc", "lc"]

/-- Whether a name stands for a property. -/
def isProperty (name : String) : Bool :=
  (lookup name Unicode.propertyNames).isSome || Unicode.otherPropertyNames.contains name

/-- The characters that a query asks for. The values of ages and of kinds of breaks are not among those
that are known here. -/
def resolveProperty : PropertyQuery → Except Cause CodePointSet
  | .named name =>
    let name := looseName name
    -- These letters name a category, though a property has the same short name.
    let found := (if categoryFirst.contains name then none else lookup name Unicode.propertyNames)
      <|> lookup name Unicode.categoryNames
      <|> (Unicode.script? name).map Unicode.Script.members
    match found with
    | some set => .ok set
    | none => .error .unicodePropertyNotFound
  | .valued name value =>
    let name := looseName name
    let value := looseName value
    let orElse (found : Option CodePointSet) : Except Cause CodePointSet :=
      match found with
      | some set => .ok set
      | none => .error .unicodePropertyValueNotFound
    if name = "gc" ∨ name = "generalcategory" then orElse (lookup value Unicode.categoryNames)
    else if name = "sc" ∨ name = "script" then
      orElse ((Unicode.script? value).map Unicode.Script.members)
    else if name = "scx" ∨ name = "scriptextensions" then
      orElse ((Unicode.script? value).map Unicode.Script.extension)
    else if isProperty name then .error .unicodePropertyValueNotFound
    else .error .unicodePropertyNotFound

/-- The ASCII members of the classes with a one-letter escape. -/
def asciiShortClass : ShortClass → CodePointSet
  | .digit => ⟨[(0x30, 0x39)]⟩
  | .space => ⟨[(9, 0xD), (0x20, 0x20)]⟩
  | .word => ⟨[(0x30, 0x39), (0x41, 0x5A), (0x5F, 0x5F), (0x61, 0x7A)]⟩

/-- The characters of words. -/
def wordChars : CodePointSet :=
  unionAll [Unicode.alphabetic, Unicode.marks, Unicode.decimalNumbers,
    Unicode.connectorPunctuation, Unicode.joinControl]

/-- The members of the classes with a one-letter escape. -/
def unicodeShortClass : ShortClass → CodePointSet
  | .digit => Unicode.decimalNumbers
  | .space => Unicode.whiteSpace
  | .word => wordChars

/-! ## Classes -/

/-- Close a class under case if that is asked for, and negate it if it is negated. Without the
flag for Unicode the result has to stay within ASCII. -/
def finishClass (flags : Flags) (span : Span) (negated : Bool) (set : CodePointSet) :
    Except Fault CodePointSet :=
  -- Folding comes before the negation: the complement of a folded class is closed under case too.
  let folded :=
    if flags.caseInsensitive then
      if flags.unicode then Unicode.foldCase set else Unicode.foldAsciiCase set
    else set
  let whole := if negated then folded.complement else folded
  if flags.unicode || whole.isAscii then .ok whole else .error ⟨span, .invalidUtf8⟩

/-- A class by property, which needs the flag for Unicode. -/
def propertyClass (flags : Flags) (span : Span) (query : PropertyQuery) (negated : Bool) :
    Except Fault CodePointSet :=
  if !flags.unicode then .error ⟨span, .unicodeNotAllowed⟩
  else
    match resolveProperty query with
    | .ok set => finishClass flags span negated set
    | .error cause => .error ⟨span, cause⟩

/-- A class with a one-letter escape; these are closed under case as they are. -/
def shortClass (flags : Flags) (span : Span) (kind : ShortClass) (negated : Bool) :
    Except Fault CodePointSet :=
  let plain : Flags := { flags with caseInsensitive := false }
  finishClass plain span negated
    (if flags.unicode then unicodeShortClass kind else asciiShortClass kind)

/-- The character of a literal. Without the flag for Unicode, a two-digit escape beyond ASCII
stands for a byte that no character consists of. -/
def literalChar (flags : Flags) (lit : Literal) : Except Fault Char :=
  if !flags.unicode && lit.byteEscape && lit.char.toNat > 0x7F then
    .error ⟨lit.span, .invalidUtf8⟩
  else .ok lit.char

/-- A literal in a class, which without the flag for Unicode has to be ASCII. -/
def classChar (flags : Flags) (lit : Literal) : Except Fault Nat := do
  let c ← literalChar flags lit
  if !flags.unicode && c.toNat > 0x7F then throw ⟨lit.span, .unicodeNotAllowed⟩
  return c.toNat

mutual

/-- The characters of a class expression. -/
def ClassExpr.members (flags : Flags) : ClassExpr → Except Fault CodePointSet
  | .empty _ => .ok {}
  | .literal lit => do return .singleton (← classChar flags lit)
  | .range _ first last => do
    let low ← classChar flags first
    let high ← classChar flags last
    return ⟨[(low, high)]⟩
  | .ascii span ranges negated => finishClass flags span negated ⟨ranges⟩
  | .property span query negated => propertyClass flags span query negated
  | .short span kind negated => shortClass flags span kind negated
  | .bracketed span negated inner => do finishClass flags span negated (← inner.members flags)
  | .union _ items => membersOfAll flags items
  | .binary _ op left right => do
    let left ← left.members flags
    let right ← right.members flags
    -- Operands are folded one by one, since folding does not commute with these operations.
    let fold (set : CodePointSet) : CodePointSet :=
      if !flags.caseInsensitive then set
      else if flags.unicode then Unicode.foldCase set
      else Unicode.foldAsciiCase set
    match op with
    | .intersection => return (fold left).inter (fold right)
    | .difference => return (fold left).diff (fold right)
    | .symmetricDifference => return (fold left).symmDiff (fold right)

def membersOfAll (flags : Flags) : List ClassExpr → Except Fault CodePointSet
  | [] => .ok {}
  | item :: rest => do
    let first ← item.members flags
    return first.union (← membersOfAll flags rest)

end

/-! ## Expressions -/

/-- The regular expression of one character, with its case variants if case is ignored. -/
def charRegex (flags : Flags) (c : Char) : Regex :=
  let set := CodePointSet.singleton c.toNat
  .chars <|
    if !flags.caseInsensitive then set
    else if flags.unicode then Unicode.foldCase set
    else Unicode.foldAsciiCase set

/-- What the dot matches: every character, or all but line ends. -/
def dotRegex (flags : Flags) (span : Span) : Except Fault Regex :=
  if !flags.unicode then .error ⟨span, .invalidUtf8⟩
  else if flags.dotMatchesNewLine then .ok (.chars .all)
  else if flags.crlf then .ok (.chars (CodePointSet.complement ⟨[(10, 10), (13, 13)]⟩))
  else .ok (.chars (CodePointSet.singleton 10).complement)

def assertionLook (flags : Flags) : Assertion → Look
  | .startLine =>
    if !flags.multiLine then .start else if flags.crlf then .startLineCrlf else .startLine
  | .endLine =>
    if !flags.multiLine then .stop else if flags.crlf then .endLineCrlf else .endLine
  | .startText => .start
  | .endText => .stop
  | .wordBoundary => .wordBoundary flags.unicode
  | .notWordBoundary => .notWordBoundary flags.unicode
  | .wordStart => .wordStart flags.unicode
  | .wordEnd => .wordEnd flags.unicode
  | .wordStartHalf => .wordStartHalf flags.unicode
  | .wordEndHalf => .wordEndHalf flags.unicode

mutual

/-- The regular expression of an expression under `flags`, and the flags after it. -/
def Expr.lower (flags : Flags) : Expr → Except Fault (Regex × Flags)
  | .empty _ => .ok (.empty, flags)
  | .flags _ items => .ok (.empty, flags.update items)
  | .literal lit => do return (charRegex flags (← literalChar flags lit), flags)
  | .dot span => do return (← dotRegex flags span, flags)
  | .assertion _ kind => .ok (.look (assertionLook flags kind), flags)
  | .property span query negated => do
    return (.chars (← propertyClass flags span query negated), flags)
  | .short span kind negated => do return (.chars (← shortClass flags span kind negated), flags)
  | .bracketed span negated inner => do
    return (.chars (← finishClass flags span negated (← inner.members flags)), flags)
  | .repetition _ min max? greedy sub => do
    let (regex, flags) ← sub.lower flags
    return (.repeated regex min max? (greedy != flags.swapGreed), flags)
  | .group _ captures items sub => do
    -- Flags set within a group end with it.
    let (regex, _) ← sub.lower (flags.update items)
    return (if captures then .capture regex else regex, flags)
  | .alternation _ branches => do
    let (regexes, flags) ← lowerAll flags branches
    return (.choice regexes, flags)
  | .concat _ parts => do
    let (regexes, flags) ← lowerAll flags parts
    return (.concat regexes, flags)

/-- Lower one expression after the other; flags set in one hold in the next. -/
def lowerAll (flags : Flags) : List Expr → Except Fault (List Regex × Flags)
  | [] => .ok ([], flags)
  | expr :: rest => do
    let (regex, flags) ← expr.lower flags
    let (regexes, flags) ← lowerAll flags rest
    return (regex :: regexes, flags)

end

/-- Read a pattern as a regular expression. -/
def Regex.read (pattern : String) : Except Fault Regex := do
  let expr ← Expr.read pattern
  let (regex, _) ← expr.lower {}
  return regex

/-- The regular expression of a pattern, unless its automaton would be too large. -/
def Regex.ofPattern (pattern : String) : Except BuildError Regex :=
  match Regex.read pattern with
  | .error fault => .error (.malformed pattern fault)
  | .ok regex =>
    if regex.footprint > Regex.sizeLimit then .error (.tooBig Regex.sizeLimit) else .ok regex

end ParserFoundry.Pattern
