/-!
# Bytes of Texts

The contents of files are bytes. Texts are stored in UTF-8, and bytes that spell no text can be
read with a replacement character for each stretch that makes no sense.
-/

namespace ParserFoundry.Files

abbrev Bytes := List UInt8

namespace Bytes

/-- The bytes of a text. -/
def ofText (text : String) : Bytes :=
  text.toList.flatMap String.utf8EncodeChar

/-! ## Reading characters -/

/-- How a character starts: how many bytes follow, the range of the next one, and the bits that
the first byte gives. -/
structure Lead where
  more : Nat
  low : Nat
  high : Nat
  bits : Nat
deriving DecidableEq, Repr

/-- What the first byte of a character of several bytes says. -/
def lead? (byte : Nat) : Option Lead :=
  if 0xC2 ≤ byte ∧ byte ≤ 0xDF then some ⟨1, 0x80, 0xBF, byte % 32⟩
  else if byte = 0xE0 then some ⟨2, 0xA0, 0xBF, 0⟩
  else if byte = 0xED then some ⟨2, 0x80, 0x9F, 13⟩
  else if 0xE1 ≤ byte ∧ byte ≤ 0xEF then some ⟨2, 0x80, 0xBF, byte % 16⟩
  else if byte = 0xF0 then some ⟨3, 0x90, 0xBF, 0⟩
  else if byte = 0xF4 then some ⟨3, 0x80, 0x8F, 4⟩
  else if 0xF1 ≤ byte ∧ byte ≤ 0xF3 then some ⟨3, 0x80, 0xBF, byte % 8⟩
  else none

/-- A character under way. -/
structure Partial where
  more : Nat
  low : Nat
  high : Nat
  value : Nat
deriving DecidableEq, Repr

/-- A character under way after its first byte. -/
def Partial.ofLead (lead : Lead) : Partial :=
  ⟨lead.more, lead.low, lead.high, lead.bits⟩

/-- The characters that the bytes spell, with nothing for a stretch that spells none; such a
stretch is as long as it could be the start of a character. -/
def characters (current? : Option Partial) : Bytes → List (Option Char)
  | [] => if current?.isSome then [none] else []
  | byte :: rest =>
    let byte := byte.toNat
    let start (broken : List (Option Char)) : List (Option Char) :=
      if byte < 0x80 then broken ++ some (Char.ofNat byte) :: characters none rest
      else
        match lead? byte with
        | some lead => broken ++ characters (some (.ofLead lead)) rest
        | none => broken ++ none :: characters none rest
    match current? with
    | none => start []
    | some current =>
      if current.low ≤ byte ∧ byte ≤ current.high then
        let value := current.value * 64 + byte % 64
        if current.more ≤ 1 then some (Char.ofNat value) :: characters none rest
        else characters (some ⟨current.more - 1, 0x80, 0xBF, value⟩) rest
      else start [none]

/-- The text that the bytes spell. -/
def text? (bytes : Bytes) : Option String :=
  ((characters none bytes).mapM id).map String.ofList

/-- The text that the bytes spell, with a replacement character where they spell none. -/
def lossyText (bytes : Bytes) : String :=
  String.ofList ((characters none bytes).map fun c? => c?.getD '\ufffd')

end Bytes

end ParserFoundry.Files
