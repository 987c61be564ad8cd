import ParserFoundry.Code.Syntax
import ParserFoundry.Code.Token
/-!
# Reading Paths

A path is names joined by `::`, possibly with generic arguments, and it may start with `::`. What a
path may be used for depends on its first segments. The generic arguments that are read here are
lifetimes and paths, not all that the language has.
-/

namespace ParserFoundry.Code

/-- Why a text is no path, or a path cannot be used at a place. -/
inductive PathError where
  /-- The text is no sequence of tokens. -/
  | notTokens
  /-- Something follows the path. -/
  | trailing
  /-- Something else stands, or nothing is left, where `wanted` should be. -/
  | expected (wanted : String) (atEnd : Bool)
  /-- A keyword stands where a name should be. -/
  | keyword (word : String)
  /-- Generic arguments without `::` read as comparisons within an expression. -/
  | chainedComparison
  /-- Whatever else a reader of paths finds wrong. -/
  | other (cause : String)
deriving DecidableEq, Repr

def PathError.message : PathError → String
  | notTokens => "cannot parse string into token stream"
  | trailing => "unexpected token"
  | expected wanted atEnd =>
    (if atEnd then "unexpected end of input, expected " else "expected ") ++ wanted
  | keyword word => "expected identifier, found keyword `" ++ word ++ "`"
  | chainedComparison => "comparison operators cannot be chained"
  | other cause => cause

/-- The words that are no names. -/
def keywords : List String :=
  ["_", "abstract", "as", "async", "await", "become", "box", "break", "const", "continue", "crate",
    "do", "dyn", "else", "enum", "extern", "false", "final", "fn", "for", "if", "impl", "in", "let",
    "loop", "macro", "match", "mod", "move", "mut", "override", "priv", "pub", "ref", "return",
    "Self", "self", "static", "struct", "super", "trait", "true", "try", "type", "typeof", "unsafe",
    "unsized", "use", "virtual", "where", "while", "yield"]

/-- The keywords that are segments of paths and take no generic arguments. -/
def pathKeywords : List String := ["super", "self", "crate", "try"]

/-- What may start a type. -/
def typeStarts : String :=
  "one of: `for`, parentheses, `fn`, `unsafe`, `extern`, identifier, `::`, `<`, `dyn`, " ++
    "square brackets, `*`, `&`, `!`, `impl`, `_`, lifetime"

/-- What may stand in the path of an import. -/
def importStarts : String :=
  "one of: identifier, `self`, `super`, `crate`, `try`, `*`, curly braces"

namespace Reader

/-- Whether the tokens start with `::`. -/
def atSeparator : List Token → Bool
  | .punctuation ':' true :: .punctuation ':' _ :: _ => true
  | _ => false

/-- Whether the tokens start with the punctuation character `c`. -/
def atMark (c : Char) : List Token → Bool
  | .punctuation d _ :: _ => c == d
  | _ => false

/-- A name that is no keyword. -/
def name : List Token → Except PathError (String × List Token)
  | .name text :: rest =>
    if keywords.contains text then .error (.keyword text) else .ok (text, rest)
  | tokens => .error (.expected "identifier" tokens.isEmpty)

/-- Whether the tokens start with `<`, and not with `<=`. -/
def atArguments : List Token → Bool
  | .punctuation '<' true :: .punctuation '=' _ :: _ => false
  | tokens => atMark '<' tokens

/-- Whether a type may start here. -/
def atType : List Token → Bool
  | .name text :: _ =>
    !keywords.contains text || text == "super" || text == "self" || text == "Self" ||
      text == "crate"
  | tokens => atSeparator tokens

mutual

/-- One segment; the count bounds what is read. -/
def segment : Nat → List Token → Except PathError (Segment × List Token)
  | 0, _ => .error .trailing
  | steps + 1, tokens =>
    match tokens with
    | .name text :: rest =>
      -- These keywords take no generic arguments: a `<` behind them ends the path.
      if pathKeywords.contains text then .ok (.plain text, rest)
      else if keywords.contains text ∧ text ≠ "Self" then .error (.keyword text)
      else if atArguments rest then generic steps text false rest
      else if atSeparator rest ∧ atMark '<' (rest.drop 2) then generic steps text true (rest.drop 2)
      else .ok (.plain text, rest)
    | tokens => .error (.expected "identifier" tokens.isEmpty)

/-- A segment whose generic arguments start here. -/
def generic : Nat → String → Bool → List Token → Except PathError (Segment × List Token)
  | 0, _, _, _ => .error .trailing
  | steps + 1, text, turbofish, tokens => do
    let (found, rest) ← arguments steps (tokens.drop 1)
    -- Lifetimes are printed in front of the other arguments, wherever they stood.
    let isLifetime : Argument → Bool
      | .lifetime _ => true
      | _ => false
    return (.generic text turbofish
      (found.filter isLifetime ++ found.filter fun argument => !isLifetime argument), rest)

/-- Generic arguments and the `>` after them. -/
def arguments : Nat → List Token → Except PathError (List Argument × List Token)
  | 0, _ => .error .trailing
  | steps + 1, tokens =>
    if atMark '>' tokens then .ok ([], tokens.drop 1)
    else do
      let (first, rest) ← argument steps tokens
      if atMark '>' rest then return ([first], rest.drop 1)
      if !atMark ',' rest then throw (.expected "`,`" false)
      let (others, rest) ← arguments steps (rest.drop 1)
      return (first :: others, rest)

/-- One generic argument: a lifetime or a path. -/
def argument : Nat → List Token → Except PathError (Argument × List Token)
  | 0, _ => .error .trailing
  | steps + 1, tokens =>
    match tokens with
    | .punctuation '\'' _ :: .name text :: rest => .ok (.lifetime text, rest)
    | tokens =>
      if atType tokens then do
        let (path, rest) ← path steps tokens
        return (.type (.ofPath path), rest)
      else .error (.expected typeStarts tokens.isEmpty)

/-- A path. -/
def path : Nat → List Token → Except PathError (Path × List Token)
  | 0, _ => .error .trailing
  | steps + 1, tokens => do
    let rooted := atSeparator tokens
    let (first, rest) ← segment steps (if rooted then tokens.drop 2 else tokens)
    let (others, rest) ← furtherSegments steps rest
    return (⟨rooted, first :: others⟩, rest)

/-- The segments after the first one. A `::` in front of a parenthesis belongs to no path. -/
def furtherSegments : Nat → List Token → Except PathError (List Segment × List Token)
  | 0, _ => .error .trailing
  | steps + 1, tokens =>
    if atSeparator tokens ∧ tokens[2]? ≠ some (.opening '(') then do
      let (next, rest) ← segment steps (tokens.drop 2)
      let (others, rest) ← furtherSegments steps rest
      return (next :: others, rest)
    else .ok ([], tokens)

end

end Reader

namespace Path

/-- The path that a text spells, if its generic arguments are lifetimes and paths. -/
def read (text : String) : Except PathError Path :=
  match Token.read? text.toList with
  | none => .error .notTokens
  | some tokens => do
    let (path, rest) ← Reader.path (2 * tokens.length + 4) tokens
    if rest.isEmpty then return path else throw .trailing

/-! ## Use of paths -/

/-- Why names cannot be imported through the segments. -/
def importFault? : List Segment → Option PathError
  | [] => none
  | .generic name turbofish _ :: _ =>
    if name = "Self" then some (.expected importStarts false)
    else if turbofish then some (.expected importStarts false)
    else some (.expected "`;`" false)
  | .plain name :: rest =>
    if name = "Self" then some (.expected importStarts false) else importFault? rest

/-- Why nothing behind the path is a type. -/
def typeFault? (path : Path) : Option PathError :=
  match path.rooted, path.segments with
  | false, .plain "try" :: _ => some (.expected typeStarts false)
  | _, _ => none

end Path

/-- Whether a text is a single name, possibly with blanks and comments around it. -/
def spellsName (text : String) : Bool :=
  match (Token.read? text.toList).map Reader.name with
  | some (.ok (_, [])) => true
  | _ => false

/-- Whether a text is a name as it stands. -/
def isName (text : String) : Bool :=
  match Token.anyName? text.toList with
  | some (_, rest) => rest.isEmpty
  | none => false

/-- The identifier that is made of a text: the name that the text spells, or else its raw form. A
text that has neither makes none. -/
def identifier? (text : String) : Option String :=
  match (Token.read? text.toList).map Reader.name with
  | some (.ok (name, [])) => some name
  | _ =>
    match Token.anyName? ('r' :: '#' :: text.toList) with
    | some (raw, []) => some (String.ofList raw)
    | _ => none

end ParserFoundry.Code
