import ParserFoundry.Unicode.Category
import ParserFoundry.Unicode.Property
/-!
# Literals

Texts as they are written in source code: within quotes, with escapes for what would be lost or
could not be seen there.
-/

namespace ParserFoundry.Code

/-- Lower-case hexadecimal digits. -/
def hexadecimal (value : Nat) : List Char :=
  Nat.toDigits 16 value

/-- Whether a character shows on its own: it is assigned, it is no control, format, separator or
private character, and it does not attach to the one before it. -/
def isVisible (c : Char) : Bool :=
  c = ' ' ||
    !(Unicode.graphemeExtend.contains c.toNat || Unicode.controls.contains c.toNat ||
      Unicode.formats.contains c.toNat || Unicode.privateUse.contains c.toNat ||
      Unicode.separators.contains c.toNat || !Unicode.assigned.contains c.toNat)

/-- A character other than the null character within quotes. -/
def escape (c : Char) : List Char :=
  if c = '\t' then ['\\', 't']
  else if c = '\r' then ['\\', 'r']
  else if c = '\n' then ['\\', 'n']
  else if c = '"' then ['\\', '"']
  else if c = '\\' then ['\\', '\\']
  else if isVisible c then [c]
  else ['\\', 'u', '\x7b'] ++ hexadecimal c.toNat ++ ['\x7d']

def isOctalDigit (c : Char) : Bool :=
  '0' ≤ c && c ≤ '7'

/-- The characters within quotes. A null character in front of an octal digit is written at
length. -/
def escapeAll : List Char → List Char
  | [] => []
  | c :: rest =>
    (if c = '\x00' then
      if rest.head?.any isOctalDigit then ['\\', 'x', '0', '0'] else ['\\', '0']
    else escape c) ++ escapeAll rest

/-- A text within quotes. -/
def quoted (text : String) : String :=
  String.ofList ('"' :: escapeAll text.toList ++ ['"'])

end ParserFoundry.Code
