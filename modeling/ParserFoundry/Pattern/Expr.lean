import ParserFoundry.Pattern.Fault
/-!
# Pattern Expressions

The tree of a pattern as it is written, every node with its stretch of the pattern, and the check
that the tree is not nested too deeply.
-/

namespace ParserFoundry.Pattern

/-! ## Parts of expressions -/

/-- The flags that a pattern can set. -/
inductive Flag where
  | caseInsensitive
  | multiLine
  | dotMatchesNewLine
  | swapGreed
  | unicode
  | crlf
  | ignoreWhitespace
deriving DecidableEq, Repr

/-- An entry of a flag list: flags after the negation are switched off. -/
inductive FlagItem where
  | negation
  | flag (flag : Flag)
deriving DecidableEq, Repr

/-- What a flag list says about one flag, if anything. -/
def flagState (items : List (FlagItem × Span)) (flag : Flag) : Option Bool :=
  go false items
where
  go (negated : Bool) : List (FlagItem × Span) → Option Bool
    | [] => none
    | (.negation, _) :: rest => go true rest
    | (.flag f, _) :: rest => if f = flag then some (!negated) else go negated rest

/-- The places at which an assertion holds. -/
inductive Assertion where
  | startLine
  | endLine
  | startText
  | endText
  | wordBoundary
  | notWordBoundary
  | wordStart
  | wordEnd
  | wordStartHalf
  | wordEndHalf
deriving DecidableEq, Repr

/-- The classes with a one-letter escape. -/
inductive ShortClass where
  | digit
  | space
  | word
deriving DecidableEq, Repr

/-- How a class of characters is asked for by property. -/
inductive PropertyQuery where
  | named (name : String)
  | valued (name value : String)
deriving DecidableEq, Repr

/-- How two classes are combined. -/
inductive ClassOp where
  | intersection
  | difference
  | symmetricDifference
deriving DecidableEq, Repr

/-- A literal character; `byteEscape` marks the two-digit form of a hexadecimal escape, which may
stand for a byte. -/
structure Literal where
  span : Span
  char : Char
  byteEscape : Bool := false
deriving DecidableEq, Repr

/-! ## Classes -/

/-- What stands between the brackets of a class. -/
inductive ClassExpr where
  | empty (span : Span)
  | literal (literal : Literal)
  | range (span : Span) (first last : Literal)
  | ascii (span : Span) (ranges : List (Nat × Nat)) (negated : Bool)
  | property (span : Span) (query : PropertyQuery) (negated : Bool)
  | short (span : Span) (kind : ShortClass) (negated : Bool)
  | bracketed (span : Span) (negated : Bool) (inner : ClassExpr)
  | union (span : Span) (items : List ClassExpr)
  | binary (span : Span) (op : ClassOp) (left right : ClassExpr)
deriving Repr

def ClassExpr.span : ClassExpr → Span
  | empty span => span
  | literal lit => lit.span
  | range span .. => span
  | ascii span .. => span
  | property span .. => span
  | short span .. => span
  | bracketed span .. => span
  | union span .. => span
  | binary span .. => span

/-! ## Expressions -/

/-- A pattern or a part of one. -/
inductive Expr where
  | empty (span : Span)
  | flags (span : Span) (items : List (FlagItem × Span))
  | literal (literal : Literal)
  | dot (span : Span)
  | assertion (span : Span) (kind : Assertion)
  | property (span : Span) (query : PropertyQuery) (negated : Bool)
  | short (span : Span) (kind : ShortClass) (negated : Bool)
  | bracketed (span : Span) (negated : Bool) (inner : ClassExpr)
  | repetition (span : Span) (min : Nat) (max? : Option Nat) (greedy : Bool) (sub : Expr)
  | group (span : Span) (captures : Bool) (items : List (FlagItem × Span)) (sub : Expr)
  | alternation (span : Span) (branches : List Expr)
  | concat (span : Span) (parts : List Expr)
deriving Repr

namespace Expr

def span : Expr → Span
  | empty span => span
  | flags span _ => span
  | literal lit => lit.span
  | dot span => span
  | assertion span _ => span
  | property span .. => span
  | short span .. => span
  | bracketed span .. => span
  | repetition span .. => span
  | group span .. => span
  | alternation span _ => span
  | concat span _ => span

/-- A sequence; one part stands for itself. -/
def sequence (span : Span) : List Expr → Expr
  | [] => empty span
  | [part] => part
  | parts => concat span parts

/-- An expression that a repetition operator cannot be applied to. -/
def isDirective : Expr → Bool
  | empty _ => true
  | flags .. => true
  | _ => false

end Expr

/-! ## Nesting -/

/-- How many brackets, groups and operators may be nested. -/
def nestLimit : Nat := 250

mutual

/-- Whether the class stays within the limit when `depth` levels are open around it. -/
def ClassExpr.checkNesting (depth : Nat) : ClassExpr → Except Fault Unit
  | .bracketed span _ inner => do
    if depth ≥ nestLimit then throw ⟨span, .nestLimitExceeded nestLimit⟩
    inner.checkNesting (depth + 1)
  | .union span items => do
    if depth ≥ nestLimit then throw ⟨span, .nestLimitExceeded nestLimit⟩
    checkAllNesting (depth + 1) items
  | .binary span _ left right => do
    if depth ≥ nestLimit then throw ⟨span, .nestLimitExceeded nestLimit⟩
    left.checkNesting (depth + 1)
    right.checkNesting (depth + 1)
  | _ => pure ()

def checkAllNesting (depth : Nat) : List ClassExpr → Except Fault Unit
  | [] => pure ()
  | item :: rest => do
    item.checkNesting depth
    checkAllNesting depth rest

end

mutual

/-- Whether the expression stays within the limit when `depth` levels are open around it. -/
def Expr.checkNesting (depth : Nat) : Expr → Except Fault Unit
  | .bracketed span _ inner => do
    if depth ≥ nestLimit then throw ⟨span, .nestLimitExceeded nestLimit⟩
    inner.checkNesting (depth + 1)
  | .repetition span _ _ _ sub => do
    if depth ≥ nestLimit then throw ⟨span, .nestLimitExceeded nestLimit⟩
    sub.checkNesting (depth + 1)
  | .group span _ _ sub => do
    if depth ≥ nestLimit then throw ⟨span, .nestLimitExceeded nestLimit⟩
    sub.checkNesting (depth + 1)
  | .alternation span branches => do
    if depth ≥ nestLimit then throw ⟨span, .nestLimitExceeded nestLimit⟩
    checkEachNesting (depth + 1) branches
  | .concat span parts => do
    if depth ≥ nestLimit then throw ⟨span, .nestLimitExceeded nestLimit⟩
    checkEachNesting (depth + 1) parts
  | _ => pure ()

def checkEachNesting (depth : Nat) : List Expr → Except Fault Unit
  | [] => pure ()
  | part :: rest => do
    part.checkNesting depth
    checkEachNesting depth rest

end

end ParserFoundry.Pattern
