import ParserFoundry.Unicode.Property
/-!
# Reading Literals

How far a literal of source code goes: texts with escapes, raw texts, characters and numbers, each
possibly with a suffix. What a literal stands for is not of interest, only that it is one.
-/

namespace ParserFoundry.Code

/-! ## Names -/

def isNameStart (c : Char) : Bool :=
  c == '_' || if c.toNat < 128 then c.isAlpha else Unicode.xidStart.contains c.toNat

def isNameContinue (c : Char) : Bool :=
  if c.toNat < 128 then c.isAlphanum || c == '_' else Unicode.xidContinue.contains c.toNat

/-- A name, and what follows it. -/
def name? : List Char → Option (List Char × List Char)
  | [] => none
  | c :: rest =>
    if isNameStart c then some (c :: rest.takeWhile isNameContinue, rest.dropWhile isNameContinue)
    else none

/-- Skip a name if there is one. -/
def skipName (input : List Char) : List Char :=
  match name? input with
  | some (_, rest) => rest
  | none => input

/-! ## Escapes -/

/-- What a text may hold. -/
inductive TextKind where
  /-- Characters. -/
  | characters
  /-- Bytes: ASCII characters, and any byte by its number. -/
  | bytes
  /-- Characters other than the null character. -/
  | terminated
deriving DecidableEq, Repr

def hexDigit? (c : Char) : Option Nat :=
  if c.isDigit then some (c.toNat - 48)
  else if 'a' ≤ c ∧ c ≤ 'f' then some (c.toNat - 87)
  else if 'A' ≤ c ∧ c ≤ 'F' then some (c.toNat - 55)
  else none

/-- The input after the rest of an escape by number in braces; `count` digits came before. -/
def afterScalar? (kind : TextKind) (value count : Nat) : List Char → Option (List Char)
  | [] => none
  | c :: rest =>
    if c = '_' then if count = 0 then none else afterScalar? kind value count rest
    else if c = '\x7d' then
      if count ≠ 0 ∧ value.isValidChar ∧ (kind ≠ .terminated ∨ value ≠ 0) then some rest else none
    else
      match hexDigit? c with
      | some digit =>
        if count < 6 then afterScalar? kind (value * 16 + digit) (count + 1) rest else none
      | none => none

/-- The input after an escape, without its backslash. -/
def afterEscape? (kind : TextKind) : List Char → Option (List Char)
  | 'x' :: a :: b :: rest => do
    let high ← hexDigit? a
    let low ← hexDigit? b
    let fits : Bool := match kind with
      | .characters => high < 8
      | .bytes => true
      | .terminated => high != 0 || low != 0
    if fits then some rest else none
  | 'u' :: '\x7b' :: rest => if kind = .bytes then none else afterScalar? kind 0 0 rest
  | '0' :: rest => if kind = .terminated then none else some rest
  | c :: rest =>
    if c = 'n' ∨ c = 'r' ∨ c = 't' ∨ c = '\\' ∨ c = '\'' ∨ c = '"' then some rest else none
  | [] => none

/-- The input after the blanks that follow a line end within a text. -/
def afterLineEnd? : List Char → Option (List Char)
  | [] => none
  | '\r' :: '\n' :: rest => afterLineEnd? rest
  | '\r' :: _ => none
  | c :: rest => if c = ' ' ∨ c = '\t' ∨ c = '\n' then afterLineEnd? rest else some (c :: rest)

/-! ## Texts and characters -/

/-- Whether a character may stand for itself in a text. -/
def TextKind.admits (kind : TextKind) (c : Char) : Bool :=
  match kind with
  | .characters => true
  | .bytes => c.toNat < 128
  | .terminated => c ≠ '\x00'

/-- The input after a text whose opening quote is past; the count bounds its length. -/
def afterText? (kind : TextKind) : Nat → List Char → Option (List Char)
  | 0, _ => none
  | _ + 1, [] => none
  | _ + 1, '"' :: rest => some (skipName rest)
  | steps + 1, '\r' :: rest =>
    match rest with
    | '\n' :: rest => afterText? kind steps rest
    | _ => none
  | steps + 1, '\\' :: rest =>
    match rest with
    | '\n' :: rest => (afterLineEnd? rest).bind (afterText? kind steps)
    | '\r' :: '\n' :: rest => (afterLineEnd? rest).bind (afterText? kind steps)
    | rest => (afterEscape? kind rest).bind (afterText? kind steps)
  | steps + 1, c :: rest => if kind.admits c then afterText? kind steps rest else none

/-- The input after a raw text that ends with a quote and the `closing` hashes. -/
def afterRawBody? (kind : TextKind) (closing : List Char) : List Char → Option (List Char)
  | [] => none
  | '\r' :: '\n' :: rest => afterRawBody? kind closing rest
  | '\r' :: _ => none
  | c :: rest =>
    if c = '"' ∧ closing.isPrefixOf rest then some (skipName (rest.drop closing.length))
    else if kind.admits c then afterRawBody? kind closing rest
    else none

/-- The input after a raw text, without the letters in front of it. -/
def afterRawText? (kind : TextKind) (input : List Char) : Option (List Char) :=
  let hashes := input.takeWhile (· == '#')
  match input.drop hashes.length with
  | '"' :: rest => if hashes.length ≤ 255 then afterRawBody? kind hashes rest else none
  | _ => none

/-- The input after a character whose opening quote is past. -/
def afterCharacter? (kind : TextKind) (input : List Char) : Option (List Char) := do
  let rest ← match input with
    | [] => none
    | '\\' :: rest => afterEscape? kind rest
    | c :: rest => if kind.admits c then some rest else none
  match rest with
  | '\'' :: rest => some (skipName rest)
  | _ => none

/-! ## Numbers -/

/-- The input after a number with its suffix, unless a name goes on there. -/
def afterSuffix? (input : List Char) : Option (List Char) :=
  let rest := skipName input
  if rest.head?.any isNameContinue then none else some rest

/-- The digits of an exponent, which need a digit; `signed` and `valued` tell what came before. -/
def afterExponent? (signed valued : Bool) : List Char → Option (List Char)
  | [] => if valued then some [] else none
  | c :: rest =>
    if c = '+' ∨ c = '-' then
      if valued then some (c :: rest)
      else if signed then none
      else afterExponent? true valued rest
    else if c.isDigit then afterExponent? signed true rest
    else if c = '_' then afterExponent? signed valued rest
    else if valued then some (c :: rest)
    else none

/-- The input after the digits of a number with a point or an exponent. -/
def afterFloatDigits? (pointed : Bool) : List Char → Option (List Char)
  | [] => if pointed then some [] else none
  | c :: rest =>
    if c.isDigit ∨ c = '_' then afterFloatDigits? pointed rest
    else if c = '.' ∧ !pointed then
      if rest.head?.any fun d => d = '.' ∨ isNameStart d then none else afterFloatDigits? true rest
    else if c = 'e' ∨ c = 'E' then
      match afterExponent? false false rest with
      | some rest => some rest
      | none => if pointed then some (c :: rest) else none
    else if pointed then some (c :: rest)
    else none

/-- The input after the digits of a whole number in a base. -/
def afterDigits? (base : Nat) (found : Bool) : List Char → Option (List Char)
  | [] => if found then some [] else none
  | c :: rest =>
    if c = '_' then
      if !found ∧ base = 10 then none else afterDigits? base found rest
    else
      match hexDigit? c with
      | some digit =>
        if digit < base then afterDigits? base true rest
        else if c.isDigit then none
        else if found then some (c :: rest)
        else none
      | none => if found then some (c :: rest) else none

def afterWhole? : List Char → Option (List Char)
  | '0' :: 'x' :: rest => afterDigits? 16 false rest
  | '0' :: 'o' :: rest => afterDigits? 8 false rest
  | '0' :: 'b' :: rest => afterDigits? 2 false rest
  | input => afterDigits? 10 false input

/-- The input after a number. -/
def afterNumber? (input : List Char) : Option (List Char) :=
  match input with
  | [] => none
  | c :: rest =>
    if c.isDigit then
      ((afterFloatDigits? false rest).bind afterSuffix?) <|> (afterWhole? input).bind afterSuffix?
    else none

/-! ## Literals -/

/-- The input after a literal. -/
def afterLiteral? (input : List Char) : Option (List Char) :=
  let steps := input.length + 1
  match input with
  | '"' :: rest => afterText? .characters steps rest
  | 'b' :: '"' :: rest => afterText? .bytes steps rest
  | 'c' :: '"' :: rest => afterText? .terminated steps rest
  | 'b' :: 'r' :: rest => afterRawText? .bytes rest
  | 'c' :: 'r' :: rest => afterRawText? .terminated rest
  | 'r' :: rest => afterRawText? .characters rest
  | 'b' :: '\'' :: rest => afterCharacter? .bytes rest
  | '\'' :: rest => afterCharacter? .characters rest
  | input => afterNumber? input

end ParserFoundry.Code
