/-!
# JSON Values

Values of the data format in which models are exchanged, and their compact text. A text inside a
value need not be well formed: a reader has to accept escapes that spell no character wherever the
value is ignored.
-/

namespace ParserFoundry

inductive Json where
  | null
  | bool (value : Bool)
  /-- A number as it is written. -/
  | number (digits : List Char)
  /-- A text; there is none if its escapes spell no sequence of characters. -/
  | text (value? : Option (List Char))
  | array (items : List Json)
  /-- The members in order; names are texts, and may occur more than once. -/
  | object (members : List (Option (List Char) × Json))
deriving Repr, Inhabited

namespace Json

def ofString (value : String) : Json :=
  .text (some value.toList)

def ofNat (value : Nat) : Json :=
  .number (Nat.toDigits 10 value)

/-- An object with the given members. -/
def record (members : List (String × Json)) : Json :=
  .object (members.map fun (name, value) => (some name.toList, value))

/-- The null value for nothing. -/
def ofOption {α : Type} (form : α → Json) : Option α → Json
  | none => null
  | some value => form value

def ofList {α : Type} (form : α → Json) (values : List α) : Json :=
  .array (values.map form)

/-! ## Compact text -/

def hexDigits : List Char :=
  ['0', '1', '2', '3', '4', '5', '6', '7', '8', '9', 'a', 'b', 'c', 'd', 'e', 'f']

/-- A control character as an escape with four digits. -/
def controlEscape (c : Char) : List Char :=
  ['\\', 'u', '0', '0', hexDigits.getD (c.toNat / 16) '0', hexDigits.getD (c.toNat % 16) '0']

/-- One character within quotes: the quote, the backslash and the control characters are
escaped. -/
def escape (c : Char) : List Char :=
  if c = '"' then ['\\', '"']
  else if c = '\\' then ['\\', '\\']
  else if c = '\x08' then ['\\', 'b']
  else if c = '\x0C' then ['\\', 'f']
  else if c = '\n' then ['\\', 'n']
  else if c = '\r' then ['\\', 'r']
  else if c = '\t' then ['\\', 't']
  else if c.toNat < 32 then controlEscape c
  else [c]

def quoted (text : List Char) : List Char :=
  '"' :: text.flatMap escape ++ ['"']

mutual

/-- The compact text of a value, without blanks. -/
def print : Json → List Char
  | null => ['n', 'u', 'l', 'l']
  | bool true => ['t', 'r', 'u', 'e']
  | bool false => ['f', 'a', 'l', 's', 'e']
  | number digits => digits
  | text value? => quoted (value?.getD [])
  | array items => '[' :: printItems items ++ [']']
  | object members => '\x7b' :: printMembers members ++ ['\x7d']

def printItems : List Json → List Char
  | [] => []
  | [item] => item.print
  | item :: rest => item.print ++ ',' :: printItems rest

def printMembers : List (Option (List Char) × Json) → List Char
  | [] => []
  | [(name?, value)] => quoted (name?.getD []) ++ ':' :: value.print
  | (name?, value) :: rest =>
    quoted (name?.getD []) ++ ':' :: value.print ++ ',' :: printMembers rest

end

end Json

end ParserFoundry
