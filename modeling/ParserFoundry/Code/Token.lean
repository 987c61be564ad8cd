import ParserFoundry.Code.Blank
import ParserFoundry.Code.LiteralReader
/-!
# Tokens

Source code as tokens: names, punctuation character by character, literals and brackets. Brackets
have to match.
-/

namespace ParserFoundry.Code

/-- A token. -/
inductive Token where
  | name (text : String)
  /-- A punctuation character; `joint` tells whether another one follows at once. -/
  | punctuation (c : Char) (joint : Bool)
  | literal
  | opening (c : Char)
  | closing (c : Char)
deriving DecidableEq, Repr

namespace Token

/-! ## Single tokens -/

/-- A punctuation character, and what follows it. A comment starts none. -/
def mark? : List Char → Option (Char × List Char)
  | '/' :: '/' :: _ => none
  | '/' :: '*' :: _ => none
  | c :: rest => if "~!@#$%^&*-=+|;:,<.>/?'".toList.contains c then some (c, rest) else none
  | [] => none

/-- The names that have no raw form. -/
def neverRaw : List String := ["_", "super", "self", "Self", "crate"]

/-- A name, possibly raw, and what follows it. -/
def anyName? : List Char → Option (List Char × List Char)
  | 'r' :: '#' :: rest => do
    let (text, rest) ← name? rest
    if neverRaw.contains (String.ofList text) then none
    return ('r' :: '#' :: text, rest)
  | input => name? input

/-- The beginnings of texts, which begin no name. -/
def textStarts : List String :=
  ["r\"", "r#\"", "r##", "b\"", "b'", "br\"", "br#", "c\"", "cr\"", "cr#"]

/-- A punctuation token. A quote has to start a lifetime. -/
def punctuation? (input : List Char) : Option (Token × List Char) := do
  let (c, rest) ← mark? input
  if c = '\'' then
    let (_, after) ← anyName? rest
    -- A quote behind the name makes a character of it, and a whole one was tried before.
    let isRaw := ['r', '#'].isPrefixOf rest
    if after.head? = some '\'' ∨ (after.head? = some '#' ∧ !isRaw) then none
    return (punctuation c true, rest)
  else return (punctuation c (mark? rest).isSome, rest)

/-- A token other than a bracket. -/
def leaf? (input : List Char) : Option (Token × List Char) :=
  match afterLiteral? input with
  | some rest => some (literal, rest)
  | none =>
    match punctuation? input with
    | some found => some found
    | none =>
      if textStarts.any fun start => start.toList.isPrefixOf input then none
      else (anyName? input).map fun (text, rest) => (name (String.ofList text), rest)

/-- The closing bracket of an opening one. -/
def closingOf? : Char → Option Char
  | '(' => some ')'
  | '[' => some ']'
  | '\x7b' => some '\x7d'
  | _ => none

def isClosing (c : Char) : Bool :=
  c == ')' || c == ']' || c == '\x7d'

/-- What a comment that documents something stands for. -/
def docTokens (outer : Bool) : List Token :=
  [punctuation '#' false] ++ (if outer then [punctuation '!' false] else []) ++
    [opening '[', name "doc", punctuation '=' false, literal, closing ']']

/-! ## Whole inputs -/

/-- The tokens of the input, where the brackets of `open_` are still to be closed. -/
def readAll? : Nat → List Char → List Char → Option (List Token)
  | 0, _, _ => none
  | steps + 1, open_, input =>
    let input := skipBlanks (input.length + 1) input
    match docComment? input with
    | some (outer, rest) => (readAll? steps open_ rest).map (docTokens outer ++ ·)
    | none =>
      match input with
      | [] => if open_.isEmpty then some [] else none
      | c :: rest =>
        match closingOf? c with
        | some close => (readAll? steps (close :: open_) rest).map (opening c :: ·)
        | none =>
          if isClosing c then
            match open_ with
            | close :: open_ =>
              if close = c then (readAll? steps open_ rest).map (closing c :: ·) else none
            | [] => none
          else do
            let (token, rest) ← leaf? input
            let others ← readAll? steps open_ rest
            return token :: others

/-- The tokens of the input, which may start with a byte order mark. -/
def read? (input : List Char) : Option (List Token) :=
  let input := match input with
    | '\ufeff' :: rest => rest
    | input => input
  readAll? (input.length + 1) [] input

end Token

end ParserFoundry.Code
