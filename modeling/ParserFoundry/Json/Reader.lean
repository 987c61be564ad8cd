import ParserFoundry.Json.Value
/-!
# Reading JSON

From text to value. The format is the strict one: no blanks but four, no superfluous zeros, no
control characters in texts, no trailing commas, and nothing after the value.
-/

namespace ParserFoundry.Json

namespace Reader

def isBlank (c : Char) : Bool :=
  c == ' ' || c == '\n' || c == '\t' || c == '\r'

def skip (input : List Char) : List Char :=
  input.dropWhile isBlank

/-! ## Texts -/

def hexValue? (c : Char) : Option Nat :=
  if c.isDigit then some (c.toNat - 48)
  else if 'a' ≤ c ∧ c ≤ 'f' then some (c.toNat - 87)
  else if 'A' ≤ c ∧ c ≤ 'F' then some (c.toNat - 55)
  else none

/-- The number that four digits spell. -/
def fourDigits? (a b c d : Char) : Option Nat := do
  return (((← hexValue? a) * 16 + (← hexValue? b)) * 16 + (← hexValue? c)) * 16 + (← hexValue? d)

/-- One element of a text: a character, or a code unit that an escape spells. -/
inductive Element where
  | char (c : Char)
  | unit (code : Nat)
deriving DecidableEq, Repr

def shortEscape? : Char → Option Char
  | '"' => some '"'
  | '\\' => some '\\'
  | '/' => some '/'
  | 'b' => some '\x08'
  | 'f' => some '\x0C'
  | 'n' => some '\n'
  | 'r' => some '\r'
  | 't' => some '\t'
  | _ => none

/-- The elements of a text up to its closing quote, and the input after that. -/
def elements? : List Char → Option (List Element × List Char)
  | [] => none
  | '"' :: rest => some ([], rest)
  | '\\' :: 'u' :: a :: b :: c :: d :: rest => do
    let code ← fourDigits? a b c d
    let (others, rest) ← elements? rest
    return (.unit code :: others, rest)
  | '\\' :: e :: rest => do
    let c ← shortEscape? e
    let (others, rest) ← elements? rest
    return (.char c :: others, rest)
  | c :: rest => do
    if c.toNat < 32 || c == '\\' then none
    let (others, rest) ← elements? rest
    return (.char c :: others, rest)

/-- The characters of a text. Two code units that form a pair are one character, and a half of a
pair on its own is none. -/
def characters? : List Element → Option (List Char)
  | [] => some []
  | .char c :: rest => (characters? rest).map (c :: ·)
  | .unit high :: .unit low :: rest =>
    if 0xD800 ≤ high ∧ high ≤ 0xDBFF then
      if 0xDC00 ≤ low ∧ low ≤ 0xDFFF then
        (characters? rest).map
          (Char.ofNat (0x10000 + (high - 0xD800) * 0x400 + (low - 0xDC00)) :: ·)
      else none
    -- Neither half of a pair stands alone, whichever comes first.
    else if 0xDC00 ≤ high ∧ high ≤ 0xDFFF then none
    else (characters? (.unit low :: rest)).map (Char.ofNat high :: ·)
  | .unit code :: rest =>
    if 0xD800 ≤ code ∧ code ≤ 0xDFFF then none
    else (characters? rest).map (Char.ofNat code :: ·)

/-! ## Numbers -/

/-- At least one digit. -/
def digits? (input : List Char) : Option (List Char × List Char) :=
  let digits := input.takeWhile Char.isDigit
  if digits.isEmpty then none else some (digits, input.dropWhile Char.isDigit)

/-- The digits before the point: a zero stands alone. -/
def whole? (input : List Char) : Option (List Char × List Char) :=
  match digits? input with
  | some (['0'], rest) => some (['0'], rest)
  | some ('0' :: _, _) => none
  | found => found

/-- The point and the digits after it, if there is one. -/
def fraction? : List Char → Option (List Char × List Char)
  | '.' :: rest => (digits? rest).map fun (digits, rest) => ('.' :: digits, rest)
  | rest => some ([], rest)

/-- The sign of an exponent, if there is one. -/
def sign : List Char → List Char × List Char
  | '+' :: rest => (['+'], rest)
  | '-' :: rest => (['-'], rest)
  | rest => ([], rest)

/-- The exponent, if there is one. -/
def exponent? : List Char → Option (List Char × List Char)
  | [] => some ([], [])
  | e :: rest =>
    if e = 'e' ∨ e = 'E' then do
      let (mark, rest) := sign rest
      let (digits, rest) ← digits? rest
      return (e :: mark ++ digits, rest)
    else some ([], e :: rest)

/-- A number that is not negative, as it is written. -/
def unsigned? (input : List Char) : Option (List Char × List Char) := do
  let (whole, rest) ← whole? input
  let (fraction, rest) ← fraction? rest
  let (exponent, rest) ← exponent? rest
  return (whole ++ fraction ++ exponent, rest)

/-! ## Values -/

/-- Pass `word` if the input starts with it. -/
def word? (word : List Char) (value : Json) (input : List Char) : Option (Json × List Char) :=
  if word.isPrefixOf input then some (value, input.drop word.length) else none

mutual

/-- A value with nothing before it; `depth` bounds the nesting. -/
def value? : Nat → List Char → Option (Json × List Char)
  | 0, _ => none
  | depth + 1, input =>
    match input with
    | [] => none
    | '"' :: rest => do
      let (found, rest) ← elements? rest
      return (.text (characters? found), rest)
    | '[' :: rest =>
      match skip rest with
      | ']' :: rest => some (.array [], rest)
      | rest => (items? depth rest).map fun (items, rest) => (.array items, rest)
    | '\x7b' :: rest =>
      match skip rest with
      | '\x7d' :: rest => some (.object [], rest)
      | rest => (members? depth rest).map fun (members, rest) => (.object members, rest)
    | '-' :: rest => (unsigned? rest).map fun (digits, rest) => (.number ('-' :: digits), rest)
    | 'n' :: _ => word? ['n', 'u', 'l', 'l'] .null input
    | 't' :: _ => word? ['t', 'r', 'u', 'e'] (.bool true) input
    | 'f' :: _ => word? ['f', 'a', 'l', 's', 'e'] (.bool false) input
    | _ => (unsigned? input).map fun (digits, rest) => (.number digits, rest)

/-- The items of an array, at least one, and the closing bracket. -/
def items? : Nat → List Char → Option (List Json × List Char)
  | 0, _ => none
  | steps + 1, input => do
    let (item, rest) ← value? steps input
    match skip rest with
    | ',' :: rest =>
      let (others, rest) ← items? steps (skip rest)
      return (item :: others, rest)
    | ']' :: rest => return ([item], rest)
    | _ => none

/-- The members of an object, at least one, and the closing brace. -/
def members? : Nat → List Char → Option (List (Option (List Char) × Json) × List Char)
  | 0, _ => none
  | steps + 1, input => do
    let '"' :: rest := input | none
    let (name, rest) ← elements? rest
    let ':' :: rest := skip rest | none
    let (value, rest) ← value? steps (skip rest)
    match skip rest with
    | ',' :: rest =>
      let (others, rest) ← members? steps (skip rest)
      return ((characters? name, value) :: others, rest)
    | '\x7d' :: rest => return ([(characters? name, value)], rest)
    | _ => none

end

end Reader

/-- The value that a text holds, blanks around it allowed. -/
def read? (input : List Char) : Option Json := do
  let (value, rest) ← Reader.value? (input.length + 1) (Reader.skip input)
  if (Reader.skip rest).isEmpty then some value else none

end ParserFoundry.Json
