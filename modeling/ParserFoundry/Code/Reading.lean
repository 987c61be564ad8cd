import ParserFoundry.Code.LiteralReader
import ParserFoundry.Code.Syntax
import ParserFoundry.Layout.Print
/-!
# Reading Generated Code

Readers for the parts of generated code that hold data: constants and tables, enumerations of
numbered kinds, the conversions of numbers into kinds, and the names of functions. How the code is
laid out makes no difference to them: blanks and line ends between words, a comma behind the last
item of a list, and braces around the value of an arm.
-/

namespace ParserFoundry.Code.Reading

/-- What the front of a text stands for, and the rest of the text. -/
abbrev Reader (α : Type) : Type := List Char → Option (α × List Char)

/-! ## Words and marks -/

/-- Pass blanks and line ends. -/
def skip (input : List Char) : List Char :=
  input.dropWhile Layout.isSpace

/-- Pass `token` and the blanks in front of it. -/
def expect? (token : String) (input : List Char) : Option (List Char) :=
  let input := skip input
  if token.toList.isPrefixOf input then some (input.drop token.toList.length) else none

/-- A token to pass. -/
inductive Mark where
  | token (text : String)
  /-- It is passed if it is there. -/
  | maybe (text : String)
deriving DecidableEq, Repr

instance : Coe String Mark := ⟨.token⟩

/-- Pass several tokens. -/
def expectAll? : List Mark → List Char → Option (List Char)
  | [], input => some input
  | .token text :: rest, input => (expect? text input).bind (expectAll? rest)
  | .maybe text :: rest, input => expectAll? rest ((expect? text input).getD input)

/-- The characters that belong neither to a name nor to a number. -/
def delimiters : List Char :=
  ['"', '\'', '(', ')', '[', ']', '\x7b', '\x7d', '<', '>', ',', ';', ':', '=', '.', '&', '|', '!']

def isWordChar (c : Char) : Bool :=
  !(Layout.isSpace c || delimiters.contains c)

/-- A name that readers find as it stands: it consists of such characters, and the first one is no
digit. -/
def isPlainName (name : String) : Bool :=
  name.toList.head?.any (!·.isDigit) && name.toList.all isWordChar

/-- A name or a number. -/
def word? : Reader (List Char) := fun input =>
  let input := skip input
  let found := input.takeWhile isWordChar
  if found.isEmpty then none else some (found, input.dropWhile isWordChar)

/-- A name. -/
def name? : Reader String := fun input =>
  (word? input).map fun (found, rest) => (String.ofList found, rest)

/-- A number. -/
def number? : Reader Nat := fun input => do
  let (found, rest) ← word? input
  if found.all Char.isDigit then return (Nat.ofDigitChars 10 found 0, rest) else none

/-! ## Texts -/

/-- The characters up to the closing quote; `code?` is what an escape by number in braces has come
to, within one. -/
def textFrom? : Option Nat → List Char → Option (List Char × List Char)
  | some code, '\x7d' :: rest =>
    (textFrom? none rest).map fun (found, rest) => (Char.ofNat code :: found, rest)
  | some code, c :: rest => (hexDigit? c).bind fun digit => textFrom? (some (code * 16 + digit)) rest
  | none, '"' :: rest => some ([], rest)
  | none, '\\' :: 'u' :: '\x7b' :: rest => textFrom? (some 0) rest
  | none, '\\' :: 'x' :: '0' :: '0' :: rest =>
    (textFrom? none rest).map fun (found, rest) => ('\x00' :: found, rest)
  | none, '\\' :: c :: rest => do
    let escaped ← [('0', '\x00'), ('t', '\t'), ('r', '\r'), ('n', '\n'), ('"', '"'),
      ('\\', '\\')].lookup c
    (textFrom? none rest).map fun (found, rest) => (escaped :: found, rest)
  | none, c :: rest => (textFrom? none rest).map fun (found, rest) => (c :: found, rest)
  | _, [] => none

/-! ## Lists -/

/-- Items with commas between them and possibly behind them, and the token that closes the list. -/
def separated? {α : Type} (item? : Reader α) (close : String) : Nat → Reader (List α)
  | 0, _ => none
  | steps + 1, input =>
    match expect? close input with
    | some rest => some ([], rest)
    | none => do
      let (first, rest) ← item? input
      match expect? "," rest with
      | some rest => do
        let (others, rest) ← separated? item? close steps rest
        return (first :: others, rest)
      | none => (expect? close rest).map fun rest => ([first], rest)

/-- Items that end by themselves, and the token that closes the list. -/
def many? {α : Type} (item? : Reader α) (close : String) : Nat → Reader (List α)
  | 0, _ => none
  | steps + 1, input =>
    match expect? close input with
    | some rest => some ([], rest)
    | none => do
      let (first, rest) ← item? input
      let (others, rest) ← many? item? close steps rest
      return (first :: others, rest)

/-! ## Data -/

/-- The names that follow the first one of a path. -/
def furtherNames? : Nat → Reader (List String)
  | 0, _ => none
  | steps + 1, input =>
    match expect? "::" input with
    | none => some ([], input)
    | some rest => do
      let (first, rest) ← name? rest
      let (others, rest) ← furtherNames? steps rest
      return (first :: others, rest)

/-- A field of a record. -/
def field? (value? : Reader Expr) : Reader FieldValue := fun input => do
  let (name, rest) ← name? input
  let (value, rest) ← value? (← expect? ":" rest)
  return (.mk name value, rest)

/-- A path, a call or a record. -/
def named? (value? : Reader Expr) : Reader Expr := fun input => do
  let (first, rest) ← name? input
  let (others, rest) ← furtherNames? rest.length rest
  match expect? "(" rest with
  | some rest =>
    (separated? value? ")" rest.length rest).map fun (arguments, rest) =>
      (.apply (first :: others) arguments, rest)
  | none =>
    match expect? "\x7b" rest with
    | some rest =>
      (separated? (field? value?) "\x7d" rest.length rest).map fun (fields, rest) =>
        (.record first fields, rest)
    | none => some (.names (first :: others), rest)

/-- An expression that holds data: a number, a text, a path, a call, an array or a record. The count
bounds how deeply expressions are nested. -/
def expr? : Nat → Reader Expr
  | 0, _ => none
  | steps + 1, input =>
    match skip input with
    | '"' :: rest => (textFrom? none rest).map fun (found, rest) => (.text (String.ofList found), rest)
    | '[' :: rest =>
      (separated? (expr? steps) "]" rest.length rest).map fun (items, rest) => (.array items, rest)
    | input =>
      match number? input with
      | some (value, rest) => some (.number value, rest)
      | none => named? (expr? steps) input

/-- The data at the front of a text. -/
def data? : Reader Expr := fun input =>
  expr? input.length input

/-! ## Items

What a text that is one item says, if it is an item of the wanted kind. -/

/-- What a whole text stands for. -/
def whole? {α : Type} (read? : Reader α) (input : List Char) : Option α := do
  let (found, rest) ← read? input
  if (skip rest).isEmpty then return found else none

/-- A name with its value, and the type between them. -/
def definition? : Reader (String × Expr) := fun input => do
  let (name, rest) ← name? input
  let (_, rest) ← name? (← expect? ":" rest)
  let (value, rest) ← data? (← expect? "=" rest)
  return ((name, value), ← expect? ";" rest)

/-- A constant that everything may use. -/
def constant? : List Char → Option (String × Expr) :=
  whole? fun input => (expect? "pub const " input).bind definition?

/-- What stands in front of the name of a static value, by who may use it. -/
def staticWords : List String :=
  ["static ", "pub static ", "pub(super) static ", "pub(self) static ", "pub(crate) static "]

/-- A static value. -/
def static? : List Char → Option (String × Expr) :=
  whole? fun input => (staticWords.findSome? fun words => expect? words input).bind definition?

/-- The name of a function that only its own module may use. -/
def functionName? (input : List Char) : Option String := do
  let (name, rest) ← name? (← expect? "fn " input)
  let _ ← expect? "(" rest
  return name

/-- A variant with its number. -/
def numbered? : Reader (String × Nat) := fun input => do
  let (name, rest) ← name? input
  let (number, rest) ← number? (← expect? "=" rest)
  return ((name, number), rest)

/-- The name of an enumeration. What is derived for it is passed over. -/
def enumerationName? : Reader String := fun input => do
  let rest ← expect? "#[derive(" input
  name? (← expectAll? ["]", "pub enum "] (rest.dropWhile (· != ']')))

/-- An enumeration of numbered variants: its name, and its variants. -/
def enumeration? : List Char → Option (String × List (String × Nat)) :=
  whole? fun input => do
    let (name, rest) ← enumerationName? input
    let rest ← expect? "\x7b" rest
    let (variants, rest) ← separated? numbered? "\x7d" rest.length rest
    return ((name, variants), rest)

/-- The number that an arm is for; an arm for all other numbers has none. -/
def armKey? : Reader (Option Nat) := fun input =>
  match expect? "_" input with
  | some rest => some (none, rest)
  | none => (number? input).map fun (number, rest) => (some number, rest)

/-- The data that an arm gives, in braces or with a comma behind it. -/
def armValue? : Reader Expr := fun input =>
  match expect? "\x7b" input with
  | some rest => do
    let (value, rest) ← data? rest
    return (value, ← expect? "\x7d" rest)
  | none => do
    let (value, rest) ← data? input
    return (value, ← expect? "," rest)

/-- An arm that gives data for a number, or for all other numbers. -/
def conversionArm? : Reader (Option Nat × Expr) := fun input => do
  let (key, rest) ← armKey? input
  let (value, rest) ← armValue? (← expect? "=>" rest)
  return ((key, value), rest)

/-- What stands in front of the arms of a conversion, behind the name of the enumeration. -/
def conversionHead : List Mark :=
  ["\x7b", "type Error = ", "usize", ";", "fn try_from", "(", "value: ", "usize", .maybe ",", ")",
    "->", "Result", "<", "Self", ",", "usize", .maybe ",", ">", "\x7b", "match ", "value", "\x7b"]

/-- A conversion of numbers into the kinds of an enumeration: the name of the enumeration, and the
arms. -/
def conversion? : List Char → Option (String × List (Option Nat × Expr)) :=
  whole? fun input => do
    let rest ← expectAll? ["impl", "TryFrom", "<", "usize", .maybe ",", ">", "for "] input
    let (name, rest) ← name? rest
    let rest ← expectAll? conversionHead rest
    let (arms, rest) ← many? conversionArm? "\x7d" rest.length rest
    return ((name, arms), ← expectAll? ["\x7d", "\x7d"] rest)

/-- What a conversion gives for a number: the value of the first arm for it. -/
def convert? (arms : List (Option Nat × Expr)) (number : Nat) : Option Expr :=
  (arms.find? fun arm => arm.1.all (· == number)).map Prod.snd

end ParserFoundry.Code.Reading
